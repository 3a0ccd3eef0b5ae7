import ResponsiveMarkup.Compile.Options
import ResponsiveMarkup.Contract.LearnedRules
import ResponsiveMarkup.Contract.Nesting
import ResponsiveMarkup.Contract.Pipeline
import ResponsiveMarkup.Contract.Structure
import ResponsiveMarkup.Contract.Typography
import ResponsiveMarkup.Design.Validation
import ResponsiveMarkup.Finalize
import ResponsiveMarkup.Merge.Fragments
import ResponsiveMarkup.Rules.Cache

/-!
From designs to one responsive markup: every viewport's design is validated and drawn, the markups are merged
into the narrowest, the contracts run over the result, and a last look is taken at what comes out.
-/

namespace ResponsiveMarkup

namespace Pipeline

/-- The contracts that always take part, with the rules that are applied. -/
def standard (rules : RuleTable) : Pipeline :=
  ⟨[Typography.contract, LearnedRules.contract rules, Nesting.contract, Structure.contract]⟩

end Pipeline

namespace Compile

open Design

structure Result where
  html : Text
  baseViewport : Option Viewport
  /-- Findings with the viewport whose design they are about. -/
  diagnostics : List (Viewport × Finding)
  stats : MergeStats
  reports : List Contract.Report
  output : Finalize.Output
  /-- Why nothing could be compiled. -/
  failures : List Failure

namespace Result

def hasErrors (r : Result) : Bool :=
  !r.failures.isEmpty || r.output.hasErrors || r.diagnostics.any (·.2.isError) ||
    r.reports.any fun p => !p.errors.isEmpty

def report? (r : Result) (id : String) : Option Contract.Report := r.reports.find? (·.id == id)

end Result

def diagnostics (i : Input) : List (Viewport × Finding) :=
  i.present.flatMap fun (v, a) => (validate a).map fun f => (v, f)

/-- The markup of each viewport that has a design. -/
def fragments (o : Render.Options) (i : Input) : Fragments :=
  i.present.foldl (fun f (v, a) => f.set v (Render.render a o)) Fragments.empty

/-- The rules that the options ask for. -/
def rules (st : Storage) (o : Options) : RuleTable :=
  match o.ruleTablePath with
  | some path => (RuleSource.file path).table st
  | none => RuleTable.empty

/-- The slots that count are those of the design that the others are merged into. -/
def run (o : Options) (rules : RuleTable) (i : Input) : Result :=
  let merged := (fragments o.render i).merge
  match merged.stats.baseViewport with
  | none =>
    { html := []
      baseViewport := none
      diagnostics := diagnostics i
      stats := MergeStats.empty
      reports := []
      output := Finalize.Output.empty
      failures := [.noViewport] }
  | some base =>
    let slots := ((i.get? base).map (·.slots)).getD NameMap.empty
    let outcome := (Pipeline.standard rules).run o.stages o.mode ⟨merged.html, slots⟩
    { html := outcome.html
      baseViewport := some base
      diagnostics := diagnostics i
      stats := merged.stats
      reports := outcome.reports
      output := Finalize.finalize outcome.html slots
      failures := [] }

end Compile

end ResponsiveMarkup
