import ResponsiveMarkup.Markup.Names
import ResponsiveMarkup.Markup.Token

/-!
The elements of a markup that can be matched with those of another: start tags that carry a node id or a key,
and a class value with something in it.
-/

namespace ResponsiveMarkup

structure Element where
  /-- Its place among the elements. -/
  index : Nat
  key : Option Text
  nodeId : Option Text
  tag : Text
  /-- The class value as it is written. -/
  classes : Text
  classSpan : Span
  deriving DecidableEq, Repr

open Text

/-- The value of an attribute without the blanks around it, if anything is left. -/
def StartTag.trimmed? (tag : StartTag) (name : Text) : Option Text :=
  (tag.value? name).bind fun v => if (trim v).isEmpty then none else some (trim v)

/-- The element of a start tag, to be given its place. -/
def StartTag.element? (tag : StartTag) (index : Nat) : Option Element := do
  let key := tag.trimmed? Names.key
  let nodeId := tag.trimmed? Names.nodeId
  if key.isNone && nodeId.isNone then none
  else
    let written ← tag.attribute? Names.classes
    let value ← written.value
    let span ← written.valueSpan
    if isBlankText value then none
    else some ⟨index, key, nodeId, asciiLower tag.name, value, span⟩

def elementsFrom (index : Nat) : List StartTag → List Element
  | [] => []
  | tag :: tags =>
    match tag.element? index with
    | some e => e :: elementsFrom (index + 1) tags
    | none => elementsFrom index tags

/-- The elements of a markup, in order. -/
def elements (markup : Text) : List Element := elementsFrom 0 (startTags markup)

namespace Element

def tokens (e : Element) : List Text := words e.classes

/-- The first element of a key. -/
def byKey? (es : List Element) (key : Text) : Option Element := es.find? (·.key == some key)

/-- The elements without a key. -/
def unkeyed (es : List Element) : List Element := es.filter (·.key.isNone)

/-- The element without a key that has so many before it. -/
def byRank? (es : List Element) (rank : Nat) : Option Element := (unkeyed es)[rank]?

end Element

end ResponsiveMarkup
