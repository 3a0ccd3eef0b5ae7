import ResponsiveMarkup.Design.NameMap
import ResponsiveMarkup.Text.Basic

/-!
Contracts: checks and repairs of a rendered markup. A contract never fails; what it finds goes into warnings,
errors and metrics.
-/

namespace ResponsiveMarkup

/-- Whether contracts only report or may change the markup. -/
inductive Mode where
  | report
  | repair
  deriving DecidableEq, Repr

/-- A markup with the slots that it should offer. -/
structure Document where
  html : Text
  slots : NameMap
  deriving DecidableEq

namespace Contract

/-- What a contract makes of a document. -/
structure Result where
  html : Text
  warnings : List Text
  errors : List Text
  /-- Counts by name; no name occurs twice. -/
  metrics : List (String × Nat)
  changed : Bool
  deriving DecidableEq, Repr

namespace Result

/-- Nothing found and nothing done. -/
def unchanged (html : Text) : Result := ⟨html, [], [], [], false⟩

def setMetric (r : Result) (name : String) (value : Nat) : Result :=
  { r with metrics := r.metrics.filter (·.1 != name) ++ [(name, value)] }

/-- A metric that was not set counts as zero. -/
def metric (r : Result) (name : String) : Nat := ((r.metrics.find? (·.1 == name)).map (·.2)).getD 0

/-- Only a markup that differs is a change. -/
def updateHtml (r : Result) (html : Text) : Result :=
  if html = r.html then r else { r with html := html, changed := true }

end Result

end Contract

/-- A named step of a stage; within a stage steps run by ascending order. -/
structure Contract where
  id : String
  stage : String
  order : Nat
  apply : Mode → Document → Contract.Result

namespace Contract

def markupStage : String := "markup"

def validateStage : String := "validate"

def defaultStages : List String := [markupStage, validateStage]

end Contract

end ResponsiveMarkup
