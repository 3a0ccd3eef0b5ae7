import ResponsiveMarkup.Text.Quoted
import ResponsiveMarkup.Number.Notation

/-!
What can be wrong with a JSON text that is read as data of a known shape, and how each fault is worded.
-/

namespace ResponsiveMarkup.Json

/-- Numbers are written with a point or an exponent; those from `0.00001` to below ten to the sixteenth are
written positionally. A number that is none is `null`. -/
def number : Notation where
  tie := .toEven
  pointZero := true
  plain := some (-5, 15)
  nan := "null".toList
  infinite := "null".toList

/-- What stands in the text where something else was wanted. -/
inductive Found where
  | null
  | bool (value : Bool)
  | integer (value : Int)
  | float (value : Float)
  | string (value : Text)
  | sequence
  | map

inductive Fault where
  /-- The text ends where a value, an object, a list or a string is not complete. -/
  | endInValue
  | endInObject
  | endInList
  | endInString
  | expectedValue
  | expectedIdent
  | expectedColon
  | expectedCommaOrBrace
  | expectedCommaOrBracket
  | keyNotString
  | trailingComma
  | trailingCharacters
  | invalidNumber
  | numberOutOfRange
  | invalidEscape
  | cutOffSurrogate
  | loneSurrogate
  | controlCharacter
  | tooDeep
  | missingField (name : String)
  | duplicateField (name : String)
  | wrongType (found : Found) (expected : String)
  | wrongInteger (value : Int) (expected : String)
  | wrongLength (length : Nat) (expected : String)
  | unknownVariant (name : Text) (known : List String)
  /-- A value that may have one of several shapes has none of them. -/
  | noShape (title : String)

def Found.message : Found → String
  | null => "null"
  | bool value => "boolean `" ++ (if value then "true" else "false") ++ "`"
  | integer value => "integer `" ++ toString value ++ "`"
  | float value => "floating point `" ++ String.ofList (number.render value) ++ "`"
  | string value => "string " ++ String.ofList (Text.quoted value)
  | sequence => "sequence"
  | map => "map"

/-- How many elements a value has or should have. -/
def elementCount (n : Nat) : String :=
  toString n ++ (if n = 1 then " element" else " elements")

/-- The spellings that would have been accepted. -/
def knownVariants (names : List String) : String :=
  let ticked := names.map fun n => "`" ++ n ++ "`"
  match ticked with
  | [] => "there are no variants"
  | [a] => "expected " ++ a
  | [a, b] => "expected " ++ a ++ " or " ++ b
  | _ => "expected one of " ++ ", ".intercalate ticked

def Fault.message : Fault → String
  | endInValue => "EOF while parsing a value"
  | endInObject => "EOF while parsing an object"
  | endInList => "EOF while parsing a list"
  | endInString => "EOF while parsing a string"
  | expectedValue => "expected value"
  | expectedIdent => "expected ident"
  | expectedColon => "expected `:`"
  | expectedCommaOrBrace => "expected `,` or `\x7d`"
  | expectedCommaOrBracket => "expected `,` or `]`"
  | keyNotString => "key must be a string"
  | trailingComma => "trailing comma"
  | trailingCharacters => "trailing characters"
  | invalidNumber => "invalid number"
  | numberOutOfRange => "number out of range"
  | invalidEscape => "invalid escape"
  | cutOffSurrogate => "unexpected end of hex escape"
  | loneSurrogate => "lone leading surrogate in hex escape"
  | controlCharacter => "control character (\\u0000-\\u001F) found while parsing a string"
  | tooDeep => "recursion limit exceeded"
  | missingField name => "missing field `" ++ name ++ "`"
  | duplicateField name => "duplicate field `" ++ name ++ "`"
  | wrongType found expected => "invalid type: " ++ found.message ++ ", expected " ++ expected
  | wrongInteger value expected => "invalid value: integer `" ++ toString value ++ "`, expected " ++ expected
  | wrongLength length expected => "invalid length " ++ toString length ++ ", expected " ++ expected
  | unknownVariant name known => "unknown variant `" ++ String.ofList name ++ "`, " ++ knownVariants known
  | noShape title => "data did not match any variant of untagged enum " ++ title

end ResponsiveMarkup.Json
