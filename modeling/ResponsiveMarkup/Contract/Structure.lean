import ResponsiveMarkup.Contract.Basic
import ResponsiveMarkup.Html.Summary

/-!
A report on the document that a browser builds from a markup: elements that cannot be found again, keys that
occur more than once, and slots without a marker. It changes nothing in either mode.
-/

namespace ResponsiveMarkup.Structure

open Contract

def duplicateError (k : Text × Nat) : Text :=
  "Merge key \"".toList ++ k.1 ++ "\" appears on ".toList ++ Nat.toDigits 10 k.2 ++ " elements.".toList

def missingWarning (name : Text) : Text :=
  "Slot \"".toList ++ name ++ "\" has no marker in the output.".toList

def check (d : Document) : Result :=
  let s := Html.summarize d.html
  let missing := (d.slots.keys.map String.toList).filter fun name => !s.slotMarkers.contains name
  { Result.unchanged d.html with
    errors := s.duplicateKeys.map duplicateError
    warnings := missing.map missingWarning
    metrics :=
      [("elements", s.elements),
       ("identifiedElements", s.identified),
       ("unidentifiedElements", s.elements - s.identified),
       ("duplicateKeys", s.duplicateKeys.length),
       ("slotMarkers", s.slotMarkers.length),
       ("missingSlots", missing.length)] }

def contract : Contract where
  id := "structure.dom-report"
  stage := validateStage
  order := 10
  apply := fun _ d => check d

end ResponsiveMarkup.Structure
