/-!
Texts as lists of characters: blanks, words and joining. Blank means the Unicode property White_Space
except where a rule speaks of syntax blanks, the five blanks that markup itself knows.
-/

namespace ResponsiveMarkup

/-- Text being scanned or built, one character after another. -/
abbrev Text := List Char

namespace Text

/-- Closed ranges of code points with the property White_Space, ascending and apart. -/
def blankRanges : List (Nat × Nat) :=
  [(0x09, 0x0D), (0x20, 0x20), (0x85, 0x85), (0xA0, 0xA0), (0x1680, 0x1680), (0x2000, 0x200A),
   (0x2028, 0x2029), (0x202F, 0x202F), (0x205F, 0x205F), (0x3000, 0x3000)]

def isBlank (c : Char) : Bool :=
  blankRanges.any fun r => r.1 ≤ c.toNat && c.toNat ≤ r.2

/-- Space, tab, line feed, form feed and carriage return. -/
def isSyntaxBlank (c : Char) : Bool :=
  c == ' ' || c == '\t' || c == '\n' || c == '\x0c' || c == '\r'

def isBlankText (s : Text) : Bool := s.all isBlank

def trimStart (s : Text) : Text := s.dropWhile isBlank

def trimEnd (s : Text) : Text := (s.reverse.dropWhile isBlank).reverse

def trim (s : Text) : Text := trimEnd (trimStart s)

/-- The longest stretches without a blank, in order. -/
def words : Text → List Text
  | [] => []
  | c :: s =>
    if isBlank c then words s
    else
      match s.head?, words s with
      | some d, w :: ws => if isBlank d then [c] :: w :: ws else (c :: w) :: ws
      | _, ws => [c] :: ws

/-- The pieces in order, with the separator between each two neighbours. -/
def joinWith (sep : Text) : List Text → Text
  | [] => []
  | [s] => s
  | s :: t :: rest => s ++ sep ++ joinWith sep (t :: rest)

/-- The words of a text with one space between them. -/
def collapse (s : Text) : Text := joinWith [' '] (words s)

def asciiLower (s : Text) : Text := s.map Char.toLower

/-- Equal when the ASCII letters are taken without their case. -/
def sameName (s t : Text) : Bool := asciiLower s == asciiLower t

theorem isBlank_of_isSyntaxBlank (c : Char) (h : isSyntaxBlank c = true) : isBlank c = true := by
  simp only [isSyntaxBlank, Bool.or_eq_true, beq_iff_eq] at h
  rcases h with (((h | h) | h) | h) | h <;> subst h <;> decide

/-- Names that differ in case only are the same as the same names. -/
theorem sameName_congr {s t : Text} (h : sameName s t = true) : sameName s = sameName t := by
  funext u
  rw [sameName, sameName, beq_iff_eq.mp h]

@[simp] theorem joinWith_nil (sep : Text) : joinWith sep [] = [] := rfl

@[simp] theorem joinWith_singleton (sep s : Text) : joinWith sep [s] = s := rfl

end Text

end ResponsiveMarkup
