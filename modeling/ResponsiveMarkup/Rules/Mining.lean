import ResponsiveMarkup.Markup.ClassList
import ResponsiveMarkup.Number.Ratio
import ResponsiveMarkup.Rules.EditLog
import ResponsiveMarkup.Rules.Table

/-!
Learning rules from edits. An edit that takes exactly one token away and puts exactly one in is a swap. A rule
is as strong as the share of its swaps among all edits that take the trigger away.
-/

namespace ResponsiveMarkup

open Text Json Json.Reader

namespace EditRecord

/-- The tokens that are gone after the edit, each once. -/
def removed (e : EditRecord) : List Text := (dedupe (words e.before)).filter fun t => t ∉ words e.after

/-- The tokens that are new after the edit, each once. -/
def added (e : EditRecord) : List Text := (dedupe (words e.after)).filter fun t => t ∉ words e.before

/-- The one token taken away and the one put in. -/
def swap? (e : EditRecord) : Option (Text × Text) :=
  match e.removed, e.added with
  | [trigger], [replacement] => some (trigger, replacement)
  | _, _ => none

end EditRecord

namespace Mining

/-- What a rule needs to be kept. -/
structure Thresholds where
  minOccurrences : Nat
  minConfidence : Float

namespace Thresholds

def standard : Thresholds := ⟨2, 0⟩

def schema : Schema (Reader (Thresholds → Thresholds)) Thresholds where
  title := "struct RuleCompileOptions"
  start := standard
  fields :=
    [field "minOccurrences" word64 fun v t => { t with minOccurrences := v },
     field "minConfidence" float fun v t => { t with minConfidence := v }]

def ofJson (s : Text) : Except Fault Thresholds :=
  Reader.parse (record "struct RuleCompileOptions" (some schema)) s

end Thresholds

/-- How often a token was swapped for another, and how often it was taken away at all. -/
structure Tally where
  trigger : Text
  replacement : Text
  swapped : Nat
  removed : Nat
  deriving DecidableEq, Repr

/-- How many edits take a token away. -/
def timesRemoved (edits : List EditRecord) (t : Text) : Nat := edits.countP fun e => t ∈ e.removed

def swaps (edits : List EditRecord) : List (Text × Text) := edits.filterMap EditRecord.swap?

/-- One tally for each pair of tokens that was ever swapped. -/
def tallies (edits : List EditRecord) : List Tally :=
  (dedupe (swaps edits)).map fun p => ⟨p.1, p.2, (swaps edits).count p, timesRemoved edits p.1⟩

namespace Tally

/-- The bits of the share of swaps, which order tallies as the share does. -/
def confidenceBits (t : Tally) : Nat := Ratio.bits t.swapped t.removed

def rule (t : Tally) : Rule :=
  ⟨t.trigger, t.replacement, Float.ofBits t.confidenceBits.toUInt64, t.swapped⟩

def passes (o : Thresholds) (t : Tally) : Bool :=
  o.minOccurrences ≤ t.swapped && o.minConfidence ≤ t.rule.confidence

/-- Stronger tallies first: by confidence, then by number, then by trigger and replacement. -/
def atLeast (a b : Tally) : Bool :=
  ((compare b.confidenceBits a.confidenceBits).then <|
    (compare b.swapped a.swapped).then <|
      (compare a.trigger b.trigger).then (compare a.replacement b.replacement)).isLE

end Tally

/-- The rules that edits teach, the strongest first. -/
def rules (o : Thresholds) (edits : List EditRecord) : List Rule :=
  (((tallies edits).filter (·.passes o)).mergeSort Tally.atLeast).map Tally.rule

end Mining

end ResponsiveMarkup
