import ResponsiveMarkup.Contract.Basic
import ResponsiveMarkup.Markup.ClassList
import ResponsiveMarkup.Markup.Escape
import ResponsiveMarkup.Markup.Names
import ResponsiveMarkup.Markup.Splice
import ResponsiveMarkup.Rules.Table

/-!
Applying learned rules to class values. Every token that is a trigger gives way to its replacement, in one
step: what is put in is not looked up again.
-/

namespace ResponsiveMarkup.LearnedRules

open Text Contract

/-- A class value after the rules, with the number of tokens that gave way. -/
structure Substituted where
  tokens : List Text
  hits : Nat
  deriving DecidableEq, Repr

/-- The rule for a token as it is written, entities and all. -/
def ruleFor? (table : RuleTable) (token : Text) : Option Rule := table.lookup? (unescapeAttr token)

def substituteToken (table : RuleTable) (token : Text) : Text :=
  match ruleFor? table token with
  | some rule => escapeAttr rule.replacement
  | none => token

def substituteClass (table : RuleTable) (value : Text) : Substituted where
  tokens := (words value).map (substituteToken table)
  hits := ((words value).filter fun t => (ruleFor? table t).isSome).length

/-- The class attribute of a tag after the rules, with the range of its value. -/
def substituteTag? (table : RuleTable) (tag : StartTag) : Option (Span × Substituted) := do
  let written ← tag.attribute? Names.classes
  let value ← written.value
  let span ← written.valueSpan
  return (span, substituteClass table value)

def splice (r : Span × Substituted) : Splice := ⟨r.1, classValue r.2.tokens⟩

def skipWarning : Text := "No learned rules loaded; class rewrite skipped.".toList

def check (table : RuleTable) (mode : Mode) (html : Text) : Result :=
  let hit := ((startTags html).filterMap (substituteTag? table)).filter fun r => 0 < r.2.hits
  let metrics (edited : Nat) :=
    [("rulesLoaded", table.size), ("ruleHits", (hit.map (·.2.hits)).foldr (· + ·) 0), ("elementsRewritten", edited)]
  let unchanged := Result.unchanged html
  if table.isEmpty then { unchanged with warnings := [skipWarning], metrics := metrics 0 }
  else
    match mode with
    | .report => { unchanged with metrics := metrics 0 }
    | .repair =>
      let counted := { unchanged with metrics := metrics hit.length }
      counted.updateHtml (spliced html (hit.map splice))

def contract (table : RuleTable) : Contract where
  id := "rules.learned-class-rewrite"
  stage := markupStage
  order := 20
  apply := fun mode d => check table mode d.html

end ResponsiveMarkup.LearnedRules
