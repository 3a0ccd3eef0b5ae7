import ResponsiveMarkup.Text.Basic

/-!
The pieces that markup falls into, each holding every character it was written with. Only the syntax of single
tags, comments and text is covered; how elements nest is the business of whoever walks the pieces.
-/

namespace ResponsiveMarkup

/-- What stands after an equals sign. -/
inductive AttributeValue where
  | quoted (quote : Char) (body : Text) (closed : Bool)
  | bare (body : Text)
  /-- The text ends before a value begins. -/
  | missing
  deriving DecidableEq, Repr

/-- An equals sign with the blanks around it and what follows. -/
structure Assigned where
  gap : Text
  indent : Text
  value : AttributeValue
  deriving DecidableEq, Repr

/-- One stretch of a start tag between its name and its end; `lead` is the blanks before it. -/
inductive TagPart where
  /-- A slash that does not close the tag. -/
  | slash (lead : Text)
  | named (lead name : Text) (assigned : Option Assigned)
  /-- An assignment with no name in front of it. -/
  | nameless (lead indent : Text) (value : AttributeValue)
  deriving DecidableEq, Repr

inductive TagStop where
  | close
  | selfClose
  /-- The text ends inside the tag. -/
  | cutOff
  deriving DecidableEq, Repr

structure TagText where
  name : Text
  parts : List TagPart
  lead : Text
  stop : TagStop
  deriving DecidableEq, Repr

inductive Piece where
  | startTag (tag : TagText)
  /-- `tail` is all between the name and the next piece, the closing bracket included. -/
  | endTag (name tail : Text)
  | comment (body : Text) (closed : Bool)
  | declaration (body : Text) (closed : Bool)
  | text (body : Text)
  deriving DecidableEq, Repr

namespace AttributeValue

def source : AttributeValue → Text
  | quoted q body closed => q :: body ++ (if closed then [q] else [])
  | bare body => body
  | missing => []

/-- The value without its quotes. -/
def text? : AttributeValue → Option Text
  | quoted _ body _ => some body
  | bare body => some body
  | missing => none

end AttributeValue

def Assigned.source (a : Assigned) : Text := a.gap ++ '=' :: a.indent ++ a.value.source

def TagPart.source : TagPart → Text
  | slash lead => lead ++ ['/']
  | named lead name none => lead ++ name
  | named lead name (some a) => lead ++ name ++ a.source
  | nameless lead indent value => lead ++ '=' :: indent ++ value.source

def TagStop.source : TagStop → Text
  | close => ['>']
  | selfClose => ['/', '>']
  | cutOff => []

def TagText.source (t : TagText) : Text :=
  '<' :: t.name ++ t.parts.flatMap TagPart.source ++ t.lead ++ t.stop.source

def Piece.source : Piece → Text
  | startTag tag => tag.source
  | endTag name tail => '<' :: '/' :: name ++ tail
  | comment body closed => "<!--".toList ++ body ++ (if closed then "-->".toList else [])
  | declaration body closed => "<!".toList ++ body ++ (if closed then ['>'] else [])
  | text body => body

end ResponsiveMarkup
