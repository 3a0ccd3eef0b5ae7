import ResponsiveMarkup.Html.Document
import ResponsiveMarkup.Markup.Names
import ResponsiveMarkup.Slot

/-!
What a browser makes of a markup, in numbers: its elements, how many of them can be found again, how often
each key occurs, and which slots have a marker.
-/

namespace ResponsiveMarkup.Html

/-- The elements that every document has are not counted. -/
def isWrapper (e : Element) : Bool := ["html", "head", "body"].contains e.name

structure Summary where
  elements : Nat
  /-- Elements with a node id or a key. -/
  identified : Nat
  /-- Keys in ascending order, each with the number of its elements. -/
  keys : List (Text × Nat)
  /-- Slot names in the order of their markers. -/
  slotMarkers : List Text
  deriving DecidableEq, Repr

def Element.has (e : Element) (name : Text) : Bool := e.attributes.any (·.name.toList == name)

def Element.key? (e : Element) : Option Text :=
  (e.attributes.find? (·.name.toList == Names.key)).map (·.value)

def elementOf? : NodeContent → Option Element
  | .element e => if isWrapper e then none else some e
  | _ => none

def slotOf? : NodeContent → Option Text
  | .comment body => markedSlot? body
  | _ => none

/-- Each key once and in ascending order, with the number of times it occurs. -/
def countKeys (keys : List Text) : List (Text × Nat) :=
  (keys.eraseDups.mergeSort fun a b => (compare a b).isLE).map fun k => (k, keys.count k)

def summarize (markup : Text) : Summary :=
  let nodes := (parse markup).walk
  let elements := nodes.filterMap elementOf?
  { elements := elements.length
    identified := (elements.filter fun e => e.has Names.nodeId || e.has Names.key).length
    keys := countKeys (elements.filterMap Element.key?)
    slotMarkers := nodes.filterMap slotOf? }

/-- The keys that more than one element has. -/
def Summary.duplicateKeys (s : Summary) : List (Text × Nat) := s.keys.filter fun k => 1 < k.2

end ResponsiveMarkup.Html
