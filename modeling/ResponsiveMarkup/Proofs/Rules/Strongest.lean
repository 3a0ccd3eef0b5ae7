import Mathlib
import ResponsiveMarkup.Proofs.Number.Ratio
import ResponsiveMarkup.Proofs.Rules.Index
import ResponsiveMarkup.Proofs.Rules.Multiset
import ResponsiveMarkup.Proofs.Text.ByteOrder

/-!
How strong the learned rules are. An edit that swaps a token for another also takes it away, so the swaps of a token are
at most as many as its removals, all its replacements together. The rules of one trigger are compared by shares of the
same number, so the rule that is looked up first is the one that was seen most often.
-/

namespace ResponsiveMarkup.Mining

open Text EditRecord

variable {o : Thresholds} {edits : List EditRecord} {t r : Text}

/-- How many edits swap one token for another and do nothing else. -/
def timesSwapped (edits : List EditRecord) (t r : Text) : Nat := edits.countP fun e => e.swap? = some (t, r)

/-- The share of these edits among those that take the token away, as a double. -/
def share (edits : List EditRecord) (t r : Text) : Float :=
  Float.ofBits (Ratio.bits (timesSwapped edits t r) (timesRemoved edits t)).toUInt64

/-- What the statistics of a rule say about the edits. -/
structure Sound (edits : List EditRecord) (rule : Rule) : Prop where
  counted : rule.occurrences = timesSwapped edits rule.trigger rule.replacement
  seen : 0 < rule.occurrences
  bounded : rule.occurrences ≤ timesRemoved edits rule.trigger
  confidence_eq : rule.confidence = share edits rule.trigger rule.replacement
  positive : 0 < rule.confidence
  proper : rule.confidence ≤ 1
  changes : rule.trigger ≠ rule.replacement

/-! ### Swaps and removals -/

/-- The tallies that the rules are made of, in their order. -/
def kept (o : Thresholds) (edits : List EditRecord) : List Tally :=
  ((tallies edits).filter (·.passes o)).mergeSort Tally.atLeast

end ResponsiveMarkup.Mining
