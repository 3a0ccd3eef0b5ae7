import ResponsiveMarkup.Json.Value

/-!
Writing JSON for people: every element and member on a line of its own, two spaces further in than the list or
object it stands in.
-/

namespace ResponsiveMarkup.Json

open Text

def hexDigit (n : Nat) : Char := (Nat.toDigits 16 n).headD '0'

/-- A character inside a JSON string. Quotes, backslashes and the characters below the space are escaped. -/
def escapeChar (c : Char) : Text :=
  if c = '"' then "\\\"".toList
  else if c = '\\' then "\\\\".toList
  else if c = '\n' then "\\n".toList
  else if c = '\r' then "\\r".toList
  else if c = '\t' then "\\t".toList
  else if c = '\x08' then "\\b".toList
  else if c = '\x0c' then "\\f".toList
  else if c.toNat < 0x20 then "\\u00".toList ++ [hexDigit (c.toNat / 16), hexDigit (c.toNat % 16)]
  else [c]

def printString (s : Text) : Text := '"' :: s.flatMap escapeChar ++ ['"']

def printNumber : Number → Text
  | .whole n => Nat.toDigits 10 n
  | .negative n => '-' :: Nat.toDigits 10 n
  | .float x => number.render x

/-- A line break and the blanks of a level. -/
def lineAt (level : Nat) : Text := '\n' :: List.replicate (2 * level) ' '

/-- Items between brackets, each on its line. -/
def bracketedLines (level : Nat) (opening closing : Char) (items : List Text) : Text :=
  if items.isEmpty then [opening, closing]
  else
    opening :: joinWith [','] (items.map (lineAt (level + 1) ++ ·)) ++ lineAt level ++ [closing]

namespace Value

mutual

/-- A value that begins on a line of the given level. -/
def printAt (level : Nat) : Value → Text
  | null => "null".toList
  | bool b => if b then "true".toList else "false".toList
  | number n => printNumber n
  | string s => printString s
  | list items => bracketedLines level '[' ']' (printItems (level + 1) items)
  | object members => bracketedLines level '\x7b' '\x7d' (printMembers (level + 1) members)

def printItems (level : Nat) : List Value → List Text
  | [] => []
  | v :: vs => printAt level v :: printItems level vs

def printMembers (level : Nat) : List (Text × Value) → List Text
  | [] => []
  | (key, v) :: rest =>
    (printString key ++ ": ".toList ++ printAt level v) :: printMembers level rest

end

def print (v : Value) : Text := printAt 0 v

end Value

end ResponsiveMarkup.Json
