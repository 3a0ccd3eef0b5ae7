import ResponsiveMarkup.Json.Fault
import ResponsiveMarkup.Text.Utf8

/-!
Reading JSON in one pass from left to right: the first fault met is the answer. A reader returns what it read
and what is left of the text, which is never longer than the text was; that makes every loop end.
-/

namespace ResponsiveMarkup.Json

/-- A value read from the front of `s`. -/
structure Outcome (α : Type) (s : Text) where
  value : α
  rest : Text
  le : rest.length ≤ s.length

def Reader (α : Type) : Type := (s : Text) → Except Fault (Outcome α s)

namespace Reader

variable {α β : Type}

def bind (x : Reader α) (f : α → Reader β) : Reader β := fun s =>
  match x s with
  | .error e => .error e
  | .ok a =>
    match f a.value a.rest with
    | .error e => .error e
    | .ok b => .ok ⟨b.value, b.rest, Nat.le_trans b.le a.le⟩

instance : Monad Reader where
  pure a := fun s => .ok ⟨a, s, Nat.le_refl _⟩
  bind := bind

def fail (e : Fault) : Reader α := fun _ => .error e

theorem length_dropWhile (p : Char → Bool) (s : Text) : (s.dropWhile p).length ≤ s.length :=
  (List.dropWhile_sublist p).length_le

theorem lt_of_dropWhile {p : Char → Bool} {s r : Text} {c : Char} (h : s.dropWhile p = c :: r) :
    r.length < s.length := by
  have := length_dropWhile p s
  simp only [h, List.length_cons] at this
  omega

/-- The characters up to the first that fails the test. -/
def takeWhile (p : Char → Bool) : Reader Text := fun s =>
  .ok ⟨s.takeWhile p, s.dropWhile p, length_dropWhile p s⟩

/-- The next character, left where it is. -/
def front : Reader (Option Char) := fun s => .ok ⟨s.head?, s, Nat.le_refl _⟩

/-- The next character, taken away. -/
def next : Reader (Option Char)
  | [] => .ok ⟨none, [], Nat.le_refl _⟩
  | c :: s => .ok ⟨some c, s, Nat.le_succ _⟩

/-- Space, tab, line feed and carriage return. -/
def isJsonBlank (c : Char) : Bool := c == ' ' || c == '\t' || c == '\n' || c == '\r'

/-- The next character that is not blank, left where it is. -/
def peek : Reader (Option Char) := do
  let _ ← takeWhile isJsonBlank
  front

/-- The letters of a literal after its first. -/
def ident : Text → Reader Unit
  | [] => pure ()
  | c :: cs => do
    match ← next with
    | none => fail .endInValue
    | some d => if d = c then ident cs else fail .expectedIdent

/-! ### Strings -/

def hexValue? (c : Char) : Option Nat :=
  if '0' ≤ c ∧ c ≤ '9' then some (c.toNat - 48)
  else if 'a' ≤ c ∧ c ≤ 'f' then some (c.toNat - 87)
  else if 'A' ≤ c ∧ c ≤ 'F' then some (c.toNat - 55)
  else none

/-- Four hexadecimal digits; fewer than four bytes are a string cut off. -/
def hexFour : Reader Nat := fun s =>
  if Text.byteLength s < 4 then .error .endInString
  else
    match s with
    | a :: b :: c :: d :: t =>
      match hexValue? a, hexValue? b, hexValue? c, hexValue? d with
      | some a, some b, some c, some d =>
        .ok ⟨((a * 16 + b) * 16 + c) * 16 + d, t, by simp only [List.length_cons]; omega⟩
      | _, _, _, _ => .error .invalidEscape
    | _ => .error .invalidEscape

/-- A character given by its sixteen-bit units: one, or a leading and a trailing surrogate. -/
def unicodeEscape : Reader Text := do
  let n ← hexFour
  if 0xDC00 ≤ n ∧ n ≤ 0xDFFF then fail .loneSurrogate
  else if n < 0xD800 ∨ 0xDFFF < n then return [Char.ofNat n]
  else
    match ← next with
    | none => fail .endInString
    | some '\\' =>
      match ← next with
      | none => fail .endInString
      | some 'u' =>
        let m ← hexFour
        if m < 0xDC00 ∨ 0xDFFF < m then fail .loneSurrogate
        else return [Char.ofNat (0x10000 + (n - 0xD800) * 0x400 + (m - 0xDC00))]
      | some _ => fail .cutOffSurrogate
    | some _ => fail .cutOffSurrogate

/-- What follows a backslash. A string that is only skipped may hold surrogates of any kind. -/
def escape (strict : Bool) : Reader Text := do
  match ← next with
  | none => fail .endInString
  | some c =>
    if c = '"' ∨ c = '\\' ∨ c = '/' then return [c]
    else if c = 'b' then return ['\x08']
    else if c = 'f' then return ['\x0c']
    else if c = 'n' then return ['\n']
    else if c = 'r' then return ['\r']
    else if c = 't' then return ['\t']
    else if c = 'u' then
      if strict then unicodeEscape
      else do
        let _ ← hexFour
        return []
    else fail .invalidEscape

/-- A string after its opening quote, up to and with its closing one. -/
def chars (strict : Bool) : Reader Text
  | [] => .error .endInString
  | '"' :: s => .ok ⟨[], s, Nat.le_succ _⟩
  | '\\' :: s =>
    match escape strict s with
    | .error e => .error e
    | .ok ⟨cs, t, le⟩ =>
      match chars strict t with
      | .error e => .error e
      | .ok ⟨more, u, le'⟩ => .ok ⟨cs ++ more, u, by simp only [List.length_cons]; omega⟩
  | c :: s =>
    if c.toNat < 0x20 then .error .controlCharacter
    else
      match chars strict s with
      | .error e => .error e
      | .ok ⟨more, u, le⟩ => .ok ⟨c :: more, u, by simp only [List.length_cons]; omega⟩
termination_by s => s.length

/-! ### Lists and objects -/

/-- The further elements of a list, up to its closing bracket. -/
def moreElements (item : Reader α) (s : Text) : Except Fault (Outcome (List α) s) :=
  match h : s.dropWhile isJsonBlank with
  | [] => .error .endInList
  | c :: r =>
    have short : r.length < s.length := lt_of_dropWhile h
    if c = ']' then .ok ⟨[], c :: r, by simp only [List.length_cons]; omega⟩
    else if c = ',' then
      match _cut : r.dropWhile isJsonBlank with
      | [] => .error .endInValue
      | d :: t =>
        have le : (d :: t).length ≤ r.length := _cut ▸ length_dropWhile ..
        if d = ']' then .error .trailingComma
        else
          match item (d :: t) with
          | .error e => .error e
          | .ok ⟨a, u, le'⟩ =>
            match moreElements item u with
            | .error e => .error e
            | .ok ⟨as, v, le''⟩ => .ok ⟨a :: as, v, by omega⟩
    else .error .expectedCommaOrBracket
termination_by s.length
decreasing_by omega

/-- The elements of a list after its opening bracket, up to the closing one. -/
def elements (item : Reader α) : Reader (List α) := do
  match ← peek with
  | none => fail .endInList
  | some ']' => return []
  | some _ =>
    let a ← item
    let as ← moreElements item
    return a :: as

/-- Whether a list goes on; `first` says that no element was read yet. -/
def hasElement (first : Bool) : Reader Bool := do
  match ← peek with
  | none => fail .endInList
  | some c =>
    if c = ']' then return false
    else if first then return true
    else if c = ',' then do
      let _ ← next
      match ← peek with
      | none => fail .endInValue
      | some ']' => fail .trailingComma
      | some _ => return true
    else fail .expectedCommaOrBracket

/-- The closing bracket of a list of which no more is wanted. -/
def endList : Reader Unit := do
  match ← peek with
  | none => fail .endInList
  | some ']' => do
    let _ ← next
  | some ',' =>
    let _ ← next
    match ← peek with
    | some ']' => fail .trailingComma
    | _ => fail .trailingCharacters
  | some _ => fail .trailingCharacters

/-- One member after the opening quote of its key; what to do with the key is up to `step`. -/
def member (step : α → Text → Reader α) (acc : α) : Reader α := do
  let key ← chars true
  step acc key

/-- The further members of an object, up to its closing brace. -/
def moreMembers (step : α → Text → Reader α) (acc : α) (s : Text) : Except Fault (Outcome α s) :=
  match h : s.dropWhile isJsonBlank with
  | [] => .error .endInObject
  | c :: r =>
    have short : r.length < s.length := lt_of_dropWhile h
    if c = '\x7d' then .ok ⟨acc, c :: r, by simp only [List.length_cons]; omega⟩
    else if c = ',' then
      match _cut : r.dropWhile isJsonBlank with
      | [] => .error .endInValue
      | d :: t =>
        have le : (d :: t).length ≤ r.length := _cut ▸ length_dropWhile ..
        if d = '"' then
          match member step acc t with
          | .error e => .error e
          | .ok ⟨a, u, le'⟩ =>
            match moreMembers step a u with
            | .error e => .error e
            | .ok ⟨b, v, le''⟩ => .ok ⟨b, v, by simp only [List.length_cons] at le; omega⟩
        else if d = '\x7d' then .error .trailingComma
        else .error .keyNotString
    else .error .expectedCommaOrBrace
termination_by s.length
decreasing_by simp only [List.length_cons] at le; omega

/-- The members of an object after its opening brace, up to the closing one. -/
def members (step : α → Text → Reader α) (acc : α) : Reader α := do
  match ← peek with
  | none => fail .endInObject
  | some '\x7d' => return acc
  | some '"' =>
    let _ ← next
    let a ← member step acc
    moreMembers step a
  | some _ => fail .keyNotString

/-- The colon between a key and its value. -/
def colon : Reader Unit := do
  match ← peek with
  | none => fail .endInObject
  | some ':' => do
    let _ ← next
  | some _ => fail .expectedColon

/-- Nothing but blanks is left. -/
def finish : Reader Unit := do
  match ← peek with
  | none => return ()
  | some _ => fail .trailingCharacters

/-- The value of a whole text. -/
def parse (r : Reader α) (s : Text) : Except Fault α :=
  match (do let a ← r; finish; return a : Reader α) s with
  | .error e => .error e
  | .ok a => .ok a.value

end Reader

end ResponsiveMarkup.Json
