import ResponsiveMarkup.Markup.Piece
import ResponsiveMarkup.Text.Search

/-!
Cutting markup into pieces from left to right. Every text has pieces: what opens no tag or comment is text,
and what is left open runs to the end. Main statement: the pieces, written one after another, are the text.
-/

namespace ResponsiveMarkup.Scanner

open Text

def isNameChar (c : Char) : Bool := c.isAlphanum || c == '-' || c == ':'

/-- The characters that an attribute's name stops at. -/
def endsName (c : Char) : Bool := isSyntaxBlank c || c == '=' || c == '>' || c == '/'

/-- The characters that a value without quotes stops at. -/
def endsBare (c : Char) : Bool := isSyntaxBlank c || c == '>'

def isQuote (c : Char) : Bool := c == '"' || c == '\x27'

/-- A value from its first character on. -/
def readValue : Text → AttributeValue × Text
  | [] => (.missing, [])
  | c :: s =>
    if isQuote c then
      match s.dropWhile (· != c) with
      | [] => (.quoted c (s.takeWhile (· != c)) false, [])
      | _ :: rest => (.quoted c (s.takeWhile (· != c)) true, rest)
    else (.bare ((c :: s).takeWhile (!endsBare ·)), (c :: s).dropWhile (!endsBare ·))

/-- The assignment after an attribute's name. -/
def readAssigned (s : Text) : Option Assigned × Text :=
  match s.dropWhile isSyntaxBlank with
  | '=' :: r =>
    let (value, rest) := readValue (r.dropWhile isSyntaxBlank)
    (some ⟨s.takeWhile isSyntaxBlank, r.takeWhile isSyntaxBlank, value⟩, rest)
  | _ => (none, s)

/-- The inside of a start tag after its name, and what follows the tag. -/
structure TagBody where
  parts : List TagPart
  lead : Text
  stop : TagStop
  rest : Text

def TagBody.cons (part : TagPart) (b : TagBody) : TagBody := { b with parts := part :: b.parts }

theorem length_dropWhile_le (p : Char → Bool) (s : Text) : (s.dropWhile p).length ≤ s.length :=
  (List.dropWhile_sublist p).length_le

theorem length_of_dropWhile_eq_cons {p : Char → Bool} {s r : Text} {c : Char}
    (h : s.dropWhile p = c :: r) : r.length < s.length := by
  have := length_dropWhile_le p s
  simp only [h, List.length_cons] at this
  omega

theorem length_readValue (s : Text) : (readValue s).2.length ≤ s.length := by
  cases s with
  | nil => simp [readValue]
  | cons c s =>
    simp only [readValue]
    split
    · split
      · simp
      · rename_i d rest h
        have := length_of_dropWhile_eq_cons h
        simp only [List.length_cons]
        omega
    · exact length_dropWhile_le ..

theorem length_readAssigned (s : Text) : (readAssigned s).2.length ≤ s.length := by
  simp only [readAssigned]
  split
  · rename_i r h
    exact Nat.le_trans (length_readValue _)
      (Nat.le_trans (length_dropWhile_le ..) (Nat.le_of_lt (length_of_dropWhile_eq_cons h)))
  · simp

def readBody (s : Text) : TagBody :=
  let lead := s.takeWhile isSyntaxBlank
  match _cut : s.dropWhile isSyntaxBlank with
  | [] => ⟨[], lead, .cutOff, []⟩
  | '>' :: r => ⟨[], lead, .close, r⟩
  | '/' :: '>' :: r => ⟨[], lead, .selfClose, r⟩
  | '/' :: r => (readBody r).cons (.slash lead)
  | '=' :: r =>
    let value := readValue (r.dropWhile isSyntaxBlank)
    (readBody value.2).cons (.nameless lead (r.takeWhile isSyntaxBlank) value.1)
  | c :: r =>
    let assigned := readAssigned (r.dropWhile (!endsName ·))
    (readBody assigned.2).cons (.named lead (c :: r.takeWhile (!endsName ·)) assigned.1)
termination_by s.length
decreasing_by
  all_goals have shorter := length_of_dropWhile_eq_cons _cut
  · exact shorter
  · exact Nat.lt_of_le_of_lt (Nat.le_trans (length_readValue _) (length_dropWhile_le ..)) shorter
  · exact Nat.lt_of_le_of_lt (Nat.le_trans (length_readAssigned _) (length_dropWhile_le ..)) shorter

theorem length_readBody (s : Text) : (readBody s).rest.length ≤ s.length := by
  fun_induction readBody s with
  | case1 => simp
  | case2 s lead r h => exact Nat.le_of_lt (length_of_dropWhile_eq_cons h)
  | case3 s lead r h =>
    have := length_of_dropWhile_eq_cons h
    simp only [List.length_cons] at this ⊢
    omega
  | case4 s lead r _ h ih => exact Nat.le_trans ih (Nat.le_of_lt (length_of_dropWhile_eq_cons h))
  | case5 s lead r h value ih =>
    exact Nat.le_trans ih (Nat.le_trans (length_readValue _)
      (Nat.le_trans (length_dropWhile_le ..) (Nat.le_of_lt (length_of_dropWhile_eq_cons h))))
  | case6 s lead c r _ _ _ _ h assigned ih =>
    exact Nat.le_trans ih (Nat.le_trans (length_readAssigned _)
      (Nat.le_trans (length_dropWhile_le ..) (Nat.le_of_lt (length_of_dropWhile_eq_cons h))))

def readStartTag (a : Char) (r : Text) : Piece × Text :=
  let body := readBody (r.dropWhile isNameChar)
  (.startTag ⟨a :: r.takeWhile isNameChar, body.parts, body.lead, body.stop⟩, body.rest)

def readEndTag (a : Char) (r : Text) : Piece × Text :=
  let after := r.dropWhile isNameChar
  let name := a :: r.takeWhile isNameChar
  match after.dropWhile (· != '>') with
  | [] => (.endTag name after, [])
  | _ :: rest => (.endTag name (after.takeWhile (· != '>') ++ ['>']), rest)

def readComment (s : Text) : Piece × Text :=
  match breakOn "-->".toList s with
  | some (body, rest) => (.comment body true, rest)
  | none => (.comment s false, [])

def readDeclaration (s : Text) : Piece × Text :=
  match s.dropWhile (· != '>') with
  | [] => (.declaration s false, [])
  | _ :: rest => (.declaration (s.takeWhile (· != '>')) true, rest)

/-- Text ends before the next opening bracket. Text that begins beyond ASCII holds the brackets too and goes
on to the end. -/
def readText (c : Char) (r : Text) : Piece × Text :=
  if c.utf8Size = 1 then (.text (c :: r.takeWhile (· != '<')), r.dropWhile (· != '<'))
  else (.text (c :: r), [])

/-- The first piece of a text and what follows it. -/
def readPiece (c : Char) (r : Text) : Piece × Text :=
  if c = '<' then
    match r with
    | '!' :: '-' :: '-' :: s => readComment s
    | '!' :: s => readDeclaration s
    | '/' :: a :: s => if a.isAlpha then readEndTag a s else readText c r
    | a :: s => if a.isAlpha then readStartTag a s else readText c r
    | [] => readText c r
  else readText c r

theorem length_readEndTag (a : Char) (r : Text) : (readEndTag a r).2.length ≤ r.length := by
  simp only [readEndTag]
  split
  · simp
  · rename_i rest h
    exact Nat.le_trans (Nat.le_of_lt (length_of_dropWhile_eq_cons h)) (length_dropWhile_le ..)

theorem length_readComment (s : Text) : (readComment s).2.length ≤ s.length := by
  simp only [readComment]
  split
  · rename_i body rest h
    have := congrArg List.length (eq_of_breakOn h)
    simp only [List.length_append] at this ⊢
    omega
  · simp

theorem length_readDeclaration (s : Text) : (readDeclaration s).2.length ≤ s.length := by
  simp only [readDeclaration]
  split
  · simp
  · rename_i rest h
    exact Nat.le_of_lt (length_of_dropWhile_eq_cons h)

theorem length_readText (c : Char) (r : Text) : (readText c r).2.length ≤ r.length := by
  simp only [readText]
  split
  · exact length_dropWhile_le ..
  · simp

theorem length_readPiece (c : Char) (r : Text) : (readPiece c r).2.length ≤ r.length := by
  simp only [readPiece]
  split
  · split
    · exact Nat.le_trans (length_readComment _) (by simp; omega)
    · exact Nat.le_trans (length_readDeclaration _) (by simp)
    · split
      · exact Nat.le_trans (length_readEndTag ..) (by simp; omega)
      · exact length_readText ..
    · split
      · exact Nat.le_trans (length_readBody _) (Nat.le_trans (length_dropWhile_le ..) (by simp))
      · exact length_readText ..
    · exact length_readText ..
  · exact length_readText ..

/-- The pieces of a text, in order. -/
def pieces : Text → List Piece
  | [] => []
  | c :: r => (readPiece c r).1 :: pieces (readPiece c r).2
termination_by s => s.length
decreasing_by exact Nat.lt_succ_of_le (length_readPiece c r)

theorem source_readValue (s : Text) : (readValue s).1.source ++ (readValue s).2 = s := by
  cases s with
  | nil => rfl
  | cons c s =>
    simp only [readValue]
    split
    · have whole := List.takeWhile_append_dropWhile (p := (· != c)) (l := s)
      split
      · rename_i h
        rw [h] at whole
        simpa [AttributeValue.source] using whole
      · rename_i d rest h
        have hd : d = c := by
          have := List.head?_dropWhile_not (· != c) s
          simpa [h] using this
        rw [h, hd] at whole
        simpa [AttributeValue.source] using whole
    · exact List.takeWhile_append_dropWhile

theorem source_readAssigned (s : Text) :
    ((readAssigned s).1.elim [] Assigned.source) ++ (readAssigned s).2 = s := by
  have whole := List.takeWhile_append_dropWhile (p := isSyntaxBlank) (l := s)
  simp only [readAssigned]
  split
  · rename_i r h
    have inner := List.takeWhile_append_dropWhile (p := isSyntaxBlank) (l := r)
    have value := source_readValue (r.dropWhile isSyntaxBlank)
    simp only [Option.elim_some, Assigned.source, List.append_assoc, List.cons_append, value, inner]
    rw [← h, whole]
  · simp

theorem source_readBody (s : Text) :
    (readBody s).parts.flatMap TagPart.source ++ (readBody s).lead ++ (readBody s).stop.source ++
      (readBody s).rest = s := by
  fun_induction readBody s with
  | case1 s lead h =>
    have whole := List.takeWhile_append_dropWhile (p := isSyntaxBlank) (l := s)
    rw [h, List.append_nil] at whole
    simp only [TagStop.source, List.flatMap_nil, List.nil_append, List.append_nil]
    exact whole
  | case2 s lead r h =>
    have := List.takeWhile_append_dropWhile (p := isSyntaxBlank) (l := s)
    simpa [h, TagStop.source] using this
  | case3 s lead r h =>
    have := List.takeWhile_append_dropWhile (p := isSyntaxBlank) (l := s)
    simpa [h, TagStop.source] using this
  | case4 s lead r _ h ih =>
    have whole := List.takeWhile_append_dropWhile (p := isSyntaxBlank) (l := s)
    simp only [List.append_assoc] at ih
    simp only [TagBody.cons, List.flatMap_cons, TagPart.source, List.append_assoc, ih]
    rw [h] at whole
    exact whole
  | case5 s lead r h value ih =>
    have whole := List.takeWhile_append_dropWhile (p := isSyntaxBlank) (l := s)
    have inner := List.takeWhile_append_dropWhile (p := isSyntaxBlank) (l := r)
    have read := source_readValue (r.dropWhile isSyntaxBlank)
    simp only [List.append_assoc] at ih
    simp only [TagBody.cons, List.flatMap_cons, TagPart.source, List.append_assoc, List.cons_append, ih]
    rw [read, inner]
    rw [h] at whole
    exact whole
  | case6 s lead c r _ _ _ _ h assigned ih =>
    have whole := List.takeWhile_append_dropWhile (p := isSyntaxBlank) (l := s)
    have name := List.takeWhile_append_dropWhile (p := (!endsName ·)) (l := r)
    have read := source_readAssigned (r.dropWhile (!endsName ·))
    have part : (TagPart.named lead (c :: r.takeWhile (!endsName ·)) assigned.1).source ++ assigned.2 = s := by
      rw [h] at whole
      rw [← whole]
      have split_part : ∀ a : Option Assigned, (TagPart.named lead (c :: r.takeWhile (!endsName ·)) a).source
          = lead ++ (c :: r.takeWhile (!endsName ·)) ++ a.elim [] Assigned.source := by
        intro a
        cases a <;> simp [TagPart.source]
      rw [split_part, List.append_assoc, read, List.append_assoc, List.cons_append, name]
    simp only [List.append_assoc] at ih
    simp only [TagBody.cons, List.flatMap_cons, List.append_assoc, ih]
    exact part

theorem source_readEndTag (a : Char) (r : Text) :
    (readEndTag a r).1.source ++ (readEndTag a r).2 = '<' :: '/' :: a :: r := by
  have name := List.takeWhile_append_dropWhile (p := isNameChar) (l := r)
  have tail := List.takeWhile_append_dropWhile (p := (· != '>')) (l := r.dropWhile isNameChar)
  simp only [readEndTag]
  split
  · simp [Piece.source]
  · rename_i d rest h
    have hd : d = '>' := by
      have := List.head?_dropWhile_not (· != '>') (r.dropWhile isNameChar)
      simpa [h] using this
    rw [h, hd] at tail
    simp only [Piece.source, List.cons_append, List.append_assoc, List.nil_append, tail, name]

theorem source_readComment (s : Text) :
    (readComment s).1.source ++ (readComment s).2 = "<!--".toList ++ s := by
  simp only [readComment]
  split
  · rename_i body rest h
    rw [eq_of_breakOn h]
    simp [Piece.source]
  · simp [Piece.source]

theorem source_readDeclaration (s : Text) :
    (readDeclaration s).1.source ++ (readDeclaration s).2 = "<!".toList ++ s := by
  have whole := List.takeWhile_append_dropWhile (p := (· != '>')) (l := s)
  simp only [readDeclaration]
  split
  · simp [Piece.source]
  · rename_i d rest h
    have hd : d = '>' := by
      have := List.head?_dropWhile_not (· != '>') s
      simpa [h] using this
    rw [h, hd] at whole
    simpa [Piece.source] using whole

theorem source_readText (c : Char) (r : Text) :
    (readText c r).1.source ++ (readText c r).2 = c :: r := by
  simp only [readText]
  split <;> simp [Piece.source]

theorem source_readPiece (c : Char) (r : Text) :
    (readPiece c r).1.source ++ (readPiece c r).2 = c :: r := by
  simp only [readPiece]
  split
  · rename_i hc
    subst hc
    split
    · exact source_readComment _
    · exact source_readDeclaration _
    · split
      · exact source_readEndTag ..
      · exact source_readText ..
    · rename_i a s _ _ _
      split
      · have body := source_readBody (s.dropWhile isNameChar)
        have name := List.takeWhile_append_dropWhile (p := isNameChar) (l := s)
        simp only [List.append_assoc] at body
        simp only [readStartTag, Piece.source, TagText.source, List.append_assoc, List.cons_append, body, name]
      · exact source_readText ..
    · exact source_readText ..
  · exact source_readText ..

/-- Nothing is lost: the pieces make up the text. -/
theorem flatMap_source_pieces (s : Text) : (pieces s).flatMap Piece.source = s := by
  fun_induction pieces s with
  | case1 => rfl
  | case2 c r ih => rw [List.flatMap_cons, ih, source_readPiece]

end ResponsiveMarkup.Scanner
