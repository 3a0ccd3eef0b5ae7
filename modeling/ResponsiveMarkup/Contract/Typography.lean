import ResponsiveMarkup.Contract.Basic
import ResponsiveMarkup.Markup.ClassList
import ResponsiveMarkup.Markup.Names
import ResponsiveMarkup.Markup.Splice
import ResponsiveMarkup.Text.Search

/-!
Font tokens whose bracket never closes. They have no effect and are a sign of a cut-off text; repair drops
them, and the class attribute with them when no token is left.
-/

namespace ResponsiveMarkup.Typography

open Text Contract

/-- The characters of a scope in front of a token. -/
def isScopeChar (c : Char) : Bool := ('a' ≤ c && c ≤ 'z') || ('0' ≤ c && c ≤ '9') || c == '-'

def fontUtilities : List Text := ["font", "text", "leading", "tracking"].map String.toList

/-- A font utility with a bracket that is never closed. -/
def isOpenFont (s : Text) : Bool :=
  fontUtilities.any fun u => (stripStart? (u ++ "-[".toList) s).any fun rest => !rest.contains ']'

/-- An open font utility under any number of scopes. -/
def isMalformedFont (s : Text) : Bool :=
  isOpenFont s ||
    match _cut : s.dropWhile isScopeChar with
    | ':' :: rest => !(s.takeWhile isScopeChar).isEmpty && isMalformedFont rest
    | _ => false
termination_by s.length
decreasing_by
  have := (List.dropWhile_sublist (l := s) isScopeChar).length_le
  simp only [_cut, List.length_cons] at this
  omega

/-- A class attribute that has malformed tokens. -/
structure Offence where
  tag : StartTag
  outerSpan : Span
  valueSpan : Span
  malformed : List Text
  wellFormed : List Text

/-- The class attribute of a tag, sorted into malformed tokens and others. -/
def classAttribute? (tag : StartTag) : Option Offence := do
  let written ← tag.attribute? Names.classes
  let value ← written.value
  let span ← written.valueSpan
  let (malformed, wellFormed) := (words value).partition isMalformedFont
  return ⟨tag, written.outerSpan, span, malformed, wellFormed⟩

namespace Offence

def warning (o : Offence) : Text :=
  "Malformed font token(s) ".toList ++ joinWith ", ".toList o.malformed ++ " on <".toList ++ o.tag.name ++
    ">.".toList

def splice (o : Offence) : Splice :=
  if o.wellFormed.isEmpty then .remove o.outerSpan else ⟨o.valueSpan, classValue o.wellFormed⟩

end Offence

def check (mode : Mode) (html : Text) : Result :=
  let attributes := (startTags html).filterMap classAttribute?
  let offences := attributes.filter fun o => !o.malformed.isEmpty
  let emptied := offences.filter fun o => o.wellFormed.isEmpty
  let metrics (removed : Nat) :=
    [("classAttributes", attributes.length),
     ("malformedFontTokens", (offences.map (·.malformed.length)).foldr (· + ·) 0),
     ("removedAttributes", removed)]
  let found : Result := { Result.unchanged html with warnings := offences.map Offence.warning }
  match mode with
  | .report => { found with metrics := metrics 0 }
  | .repair =>
    let counted := { found with metrics := metrics emptied.length }
    counted.updateHtml (spliced html (offences.map Offence.splice))

def contract : Contract where
  id := "typography.malformed-font-token"
  stage := markupStage
  order := 10
  apply := fun mode d => check mode d.html

end ResponsiveMarkup.Typography
