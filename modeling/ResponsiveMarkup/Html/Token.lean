import ResponsiveMarkup.Text.Basic

/-!
Tokens of an HTML document, as they go into the tree.
-/

namespace ResponsiveMarkup.Html

structure Attribute where
  /-- In lower case. -/
  name : String
  /-- References are read. -/
  value : Text
  deriving DecidableEq, Repr

structure Tag where
  /-- In lower case. -/
  name : String
  /-- Of attributes with one name only the first. -/
  attributes : List Attribute
  selfClosing : Bool
  deriving DecidableEq, Repr

structure Doctype where
  name : Option Text
  publicId : Option Text
  systemId : Option Text
  /-- Malformed beyond what the fields can say. -/
  broken : Bool
  deriving DecidableEq, Repr

inductive Token where
  | doctype (d : Doctype)
  | startTag (tag : Tag)
  | endTag (tag : Tag)
  | comment (body : Text)
  | char (c : Char)
  /-- The end of the document. -/
  | finish
  deriving DecidableEq, Repr

namespace Tag

def attribute? (t : Tag) (name : String) : Option Text :=
  (t.attributes.find? (·.name == name)).map (·.value)

/-- Tags that make the same formatting element, whatever the order of their attributes. -/
def sameFormatting (a b : Tag) : Bool :=
  a.name == b.name && a.attributes.length == b.attributes.length &&
    a.attributes.all b.attributes.contains

end Tag

end ResponsiveMarkup.Html
