import ResponsiveMarkup.Design.Node
import ResponsiveMarkup.Text.Lowercase

/-!
Which tag a node is drawn with. A node whose name says that it is a call to action becomes a link or a button,
but never inside another one; any other node is a plain container, whose tag an annotation may choose.
-/

namespace ResponsiveMarkup.Render

open Design Text

inductive TagKind where
  | link
  | button
  | container
  deriving DecidableEq, Repr

namespace TagKind

def tagName : TagKind → Text
  | link => ['a']
  | button => "button".toList
  | container => "div".toList

def isInteractive : TagKind → Bool
  | container => false
  | _ => true

end TagKind

/-- A test on a node's name in lower case, and what it is called. -/
structure NameRule where
  id : String
  holds : Text → Bool

/-- Any of these makes a call to action; the first that holds is the reason. -/
def callToActionRules : List NameRule :=
  [⟨"explicit-marker", fun name => (words name).contains "#cta".toList⟩,
   ⟨"contains-cta", hasInside "cta".toList⟩,
   ⟨"contains-button", hasInside "button".toList⟩,
   ⟨"contains-btn", hasInside "btn".toList⟩]

def callToActionRule? (name : String) : Option String :=
  let low := lowercase name.toList
  (callToActionRules.find? (·.holds low)).map (·.id)

def isCallToAction (l : Layer) : Bool := (callToActionRule? l.name).isSome

def pickTag (l : Layer) (insideInteractive : Bool) : TagKind :=
  if insideInteractive || !isCallToAction l then .container
  else if l.actionUrl.isSome then .link
  else .button

/-- The tags that an annotation may choose. -/
def semanticTags : List Text :=
  ["h1", "h2", "h3", "h4", "h5", "h6", "p", "span", "section", "header", "footer", "nav", "main", "article",
   "aside", "figure", "ul", "ol", "li", "div"].map String.toList

def semanticTag? (tag : String) : Option Text :=
  let low := lowercase (trim tag.toList)
  semanticTags.find? (· == low)

end ResponsiveMarkup.Render
