import ResponsiveMarkup.Design.NameMap
import ResponsiveMarkup.Markup.Names
import ResponsiveMarkup.Markup.Token
import ResponsiveMarkup.Slot

/-!
The last look at a markup before it is handed out: every slot should have its marker, and no class token may
carry a number that is none.
-/

namespace ResponsiveMarkup.Finalize

open Text

/-- Words for numbers that are none. -/
def nonFiniteWords : List Text := ["NaN", "inf", "infinity"].map String.toList

/-- Units that may follow such a word, or nothing. -/
def units : List Text := ["", "px", "%", "deg", "em", "rem"].map String.toList

/-- The characters that a payload may begin after. -/
def opensNumber (c : Char) : Bool := "[(,_-".toList.contains c

/-- Whether a payload may end here: at the end of the text or before a closing character. -/
def endsNumber (s : Text) : Bool :=
  match s with
  | [] => true
  | c :: _ => "]),_".toList.contains c

/-- A payload that is no number begins here. -/
def nonFiniteHere (s : Text) : Bool :=
  nonFiniteWords.any fun w => (stripStart? w s).any fun rest =>
    units.any fun u => (stripStart? u rest).any endsNumber

/-- A payload that is no number begins after an opening character. -/
def nonFiniteInside : Text → Bool
  | [] => false
  | c :: s => (opensNumber c && nonFiniteHere s) || nonFiniteInside s

/-- A token that carries a payload that is no number. -/
def isNonFinite (token : Text) : Bool := nonFiniteHere token || nonFiniteInside token

structure Output where
  html : Text
  /-- The names of the slots that have a marker, in the order of the text. -/
  slotMarkers : List Text
  warnings : List Text
  errors : List Text
  deriving DecidableEq, Repr

def Output.hasErrors (o : Output) : Bool := !o.errors.isEmpty

/-- What stands for a compilation that came to nothing. -/
def Output.empty : Output := ⟨[], [], [], []⟩

/-- The slot that a token marks. -/
def markerOf? (t : Token) : Option Text :=
  match t.kind with
  | .comment body => markedSlot? body
  | _ => none

def slotMarkers (html : Text) : List Text := (tokenize html).filterMap markerOf?

def nonFiniteTokens (html : Text) : List Text :=
  (startTags html).flatMap fun tag =>
    (words ((tag.value? Names.classes).getD [])).filter isNonFinite

def missingSlotWarning (name : Text) : Text :=
  "Slot \"".toList ++ name ++ "\" is mapped but has no marker.".toList

def nonFiniteError (tokens : List Text) : Text :=
  "Output contains non-finite style values: ".toList ++ joinWith ", ".toList tokens

def finalize (html : Text) (slots : NameMap) : Output :=
  let markers := slotMarkers html
  let missing := (slots.keys.map String.toList).filter fun name => !markers.contains name
  let bad := nonFiniteTokens html
  { html := html
    slotMarkers := markers
    warnings := missing.map missingSlotWarning
    errors := if bad.isEmpty then [] else [nonFiniteError bad] }

end ResponsiveMarkup.Finalize
