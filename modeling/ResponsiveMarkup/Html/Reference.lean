import ResponsiveMarkup.Html.ReferenceTable
import ResponsiveMarkup.Text.Search

/-!
Character references in HTML text, by name and by number. What is no reference stays as it is.
-/

namespace ResponsiveMarkup.Html

open Text

/-- Names with the text they stand for, longer ones before their beginnings. -/
def namedReferences : List (Text × Text) :=
  referenceTable.map fun e => (e.1.toList, e.2.map Char.ofNat)

/-- Stands for what is no character. -/
def replacementChar : Char := '\ufffd'

/-- What the numbers from 0x80 to 0x9F stand for, where that is not the control character itself. -/
def controlMeanings : List (Nat × Nat) :=
  [(0x80, 0x20AC), (0x82, 0x201A), (0x83, 0x0192), (0x84, 0x201E), (0x85, 0x2026), (0x86, 0x2020),
   (0x87, 0x2021), (0x88, 0x02C6), (0x89, 0x2030), (0x8A, 0x0160), (0x8B, 0x2039), (0x8C, 0x0152),
   (0x8E, 0x017D), (0x91, 0x2018), (0x92, 0x2019), (0x93, 0x201C), (0x94, 0x201D), (0x95, 0x2022),
   (0x96, 0x2013), (0x97, 0x2014), (0x98, 0x02DC), (0x99, 0x2122), (0x9A, 0x0161), (0x9B, 0x203A),
   (0x9C, 0x0153), (0x9E, 0x017E), (0x9F, 0x0178)]

/-- The character of a number. -/
def numberedChar (n : Nat) : Char :=
  match controlMeanings.find? (·.1 == n) with
  | some (_, code) => Char.ofNat code
  | none => if n ≠ 0 ∧ n.isValidChar then Char.ofNat n else replacementChar

def digitIn? (base : Nat) (c : Char) : Option Nat :=
  let value :=
    if '0' ≤ c ∧ c ≤ '9' then some (c.toNat - 48)
    else if 'a' ≤ c ∧ c ≤ 'f' then some (c.toNat - 87)
    else if 'A' ≤ c ∧ c ≤ 'F' then some (c.toNat - 55)
    else none
  value.filter (· < base)

/-- A reference that was read from the front of a text. -/
structure Reference where
  meaning : Text
  /-- Ended by its semicolon. -/
  closed : Bool
  /-- What follows it. -/
  rest : Text
  deriving DecidableEq, Repr

/-- A number in front of a text and the semicolon after it, if there is one. -/
def numbered? (base : Nat) (s : Text) : Option Reference :=
  let isDigit := fun c => (digitIn? base c).isSome
  let digits := s.takeWhile isDigit
  let rest := s.dropWhile isDigit
  let meaning := [numberedChar ((digits.filterMap (digitIn? base)).foldl (fun n d => n * base + d) 0)]
  if digits.isEmpty then none
  else
    match stripStart? [';'] rest with
    | some rest => some ⟨meaning, true, rest⟩
    | none => some ⟨meaning, false, rest⟩

/-- Whether a name without a semicolon is no reference because of what follows it in an attribute. -/
def continuesName (s : Text) : Bool := s.head?.any fun c => c == '=' || c.isAlphanum

/-- The longest name in front of a text, what it stands for, and what follows it. -/
def longestName? (s : Text) : Option (Text × Text × Text) :=
  namedReferences.findSome? fun (name, meaning) => (stripStart? name s).map (name, meaning, ·)

def named? (inAttribute : Bool) (s : Text) : Option Reference :=
  match longestName? s with
  | none => none
  | some (name, meaning, rest) =>
    let closed := name.getLast? == some ';'
    if inAttribute && !closed && continuesName rest then none else some ⟨meaning, closed, rest⟩

/-- The reference after an ampersand. -/
def reference? (inAttribute : Bool) : Text → Option Reference
  | '#' :: 'x' :: s => numbered? 16 s
  | '#' :: 'X' :: s => numbered? 16 s
  | '#' :: s => numbered? 10 s
  | s => named? inAttribute s

/-- The value of an attribute with its references read, in so many steps at most. -/
def decodeSteps : Nat → Text → Text
  | 0, s => s
  | _ + 1, [] => []
  | n + 1, c :: s =>
    if c = '&' then
      match reference? true s with
      | some r => r.meaning ++ decodeSteps n r.rest
      | none => c :: decodeSteps n s
    else c :: decodeSteps n s

def decodeAttribute (s : Text) : Text := decodeSteps s.length s

end ResponsiveMarkup.Html
