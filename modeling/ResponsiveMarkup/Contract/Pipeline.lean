import ResponsiveMarkup.Contract.Basic

/-!
Running contracts one after another, stage by stage, each on the markup that the one before left. Whatever a
contract does, the pipeline keeps two promises: in report mode the markup stays as it is, and a report says
`changed` exactly when the markup differs from what the contract was given.
-/

namespace ResponsiveMarkup

namespace Contract

/-- What is left of a contract's result when it has run. -/
structure Report where
  id : String
  stage : String
  order : Nat
  changed : Bool
  warnings : List Text
  errors : List Text
  metrics : List (String × Nat)
  deriving DecidableEq, Repr

def mutationError : Text := "Contract mutated markup in report mode; output discarded.".toList

/-- The result as the pipeline takes it: a change in report mode is undone and becomes an error. -/
def settle (mode : Mode) (given : Text) (r : Result) : Result :=
  if mode = .report ∧ (r.changed = true ∨ r.html ≠ given) then
    { r with html := given, changed := false, errors := r.errors ++ [mutationError] }
  else { r with changed := r.html != given }

def report (c : Contract) (r : Result) : Report :=
  ⟨c.id, c.stage, c.order, r.changed, r.warnings, r.errors, r.metrics⟩

end Contract

/-- Contracts in the order they were registered in. -/
structure Pipeline where
  contracts : List Contract

namespace Pipeline

open Contract

structure Outcome where
  html : Text
  changed : Bool
  reports : List Report
  deriving DecidableEq, Repr

namespace Outcome

def report? (o : Outcome) (id : String) : Option Report := o.reports.find? (·.id == id)

def warningCount (o : Outcome) : Nat := (o.reports.map (·.warnings.length)).foldr (· + ·) 0

def errorCount (o : Outcome) : Nat := (o.reports.map (·.errors.length)).foldr (· + ·) 0

end Outcome

/-- The contracts of a stage by ascending order, those of one order as they were registered. -/
def stageContracts (p : Pipeline) (stage : String) : List Contract :=
  (p.contracts.filter (·.stage == stage)).mergeSort fun a b => a.order ≤ b.order

def runAll (mode : Mode) (slots : NameMap) (html : Text) : List Contract → Outcome
  | [] => ⟨html, false, []⟩
  | c :: cs =>
    let r := settle mode html (c.apply mode ⟨html, slots⟩)
    let rest := runAll mode slots r.html cs
    ⟨rest.html, r.changed || rest.changed, c.report r :: rest.reports⟩

/-- Run stages in the order they are given in; an unknown stage has no contracts. -/
def run (p : Pipeline) (stages : List String) (mode : Mode) (d : Document) : Outcome :=
  runAll mode d.slots d.html (stages.flatMap p.stageContracts)

end Pipeline

end ResponsiveMarkup
