import Mathlib.Data.List.Pairwise
import ResponsiveMarkup.Proofs.Contract.ClassRules
import ResponsiveMarkup.Proofs.Contract.Demotion
import ResponsiveMarkup.Proofs.Markup.Simultaneous
import ResponsiveMarkup.Proofs.Merge.ClassUnion

/-!
No planned edit is lost. Contracts and the merge take the ranges of their edits from a scan of the markup, well-formed
or not, and these ranges follow each other: a name, the attributes behind it, the value of a class, the next tag. So
none of them has to give way to another.
-/

namespace ResponsiveMarkup

open Text Scanner Contract

/-- What is replaced lies between characters. -/
theorem Replaced.cut {src s out : Text} {pos : Nat} {splices : List Splice} (h : Replaced pos s splices out)
    (hs : StandsAt src pos s) : ∀ e ∈ splices, (e.range.slice? src).isSome = true := by
  induction h with
  | nil => exact fun e he => nomatch he
  | @cons pos kept old after rest tail new _ ih =>
    intro e he
    rcases List.mem_cons.mp he with rfl | he
    · exact Option.isSome_iff_exists.mpr ⟨old, hs.inner⟩
    · refine ih ?_ e he
      have hafter := hs.right
      rwa [byteLength_append, ← Nat.add_assoc] at hafter

/-- Splices that are all applied, and what comes of it. Their ranges lie in the text and between its characters, hold
something, and do not reach into each other. -/
structure AllApply (src : Text) (splices : List Splice) (out : Text) : Prop where
  fits : ∀ s ∈ splices, s.range.FitsIn (byteLength src)
  cut : ∀ s ∈ splices, (s.range.slice? src).isSome = true
  filled : ∀ s ∈ splices, s.range.start < s.range.stop
  apart : splices.Pairwise fun a b => ¬ a.range.Overlaps b.range
  kept : (Splice.kept (byteLength src) none (Splice.arrange splices)).Perm splices
  result : applySplices src splices = some out

theorem AllApply.of_replaced {src out : Text} {splices : List Splice} (h : Replaced 0 src splices out)
    (hfilled : ∀ s ∈ splices, s.range.start < s.range.stop) : AllApply src splices out := by
  obtain ⟨hkept, hresult⟩ := applySplices_of_replaced h (h.distinct hfilled)
  constructor
  · intro s hs
    obtain ⟨-, hle, hin⟩ := h.in_range s hs
    exact ⟨hle, by omega⟩
  · exact h.cut (standsAt_self src)
  · exact hfilled
  · refine h.ordered.imp fun {a b} hle hover => ?_
    exact absurd hover.2 (Nat.not_lt.mpr hle)
  · rw [hkept]
    exact List.reverse_perm splices
  · exact hresult

theorem AllApply.nil (src : Text) : AllApply src [] src :=
  .of_replaced (.nil 0 src) fun _ hs => nomatch hs

theorem AllApply.of_rule (html : Text) {rule : Text → ClassChange} (hnil : rule [] = .keep) :
    AllApply html ((startTags html).filterMap (StartTag.classSplice? rule))
      (spliced html ((startTags html).filterMap (StartTag.classSplice? rule))) := by
  obtain ⟨hreplaced, hfilled⟩ := replaced_rewordAll hnil 0 (pieces html)
  rw [flatMap_source_pieces] at hreplaced
  rw [spliced_reword hnil, startTags_eq]
  exact .of_replaced hreplaced hfilled

namespace Typography

/-- The splices of a repair: one for each class attribute with malformed tokens. -/
def planned (html : Text) : List Splice :=
  (((startTags html).filterMap classAttribute?).filter fun o => !o.malformed.isEmpty).map Offence.splice

theorem planned_apply (html : Text) : AllApply html (planned html) (check .repair html).html := by
  rw [html_repaired, planned, splices_eq]
  exact .of_rule html rfl

end Typography

namespace LearnedRules

/-- The splices of a repair: one for each class value with a trigger. -/
def planned (table : RuleTable) (html : Text) : List Splice :=
  if table.isEmpty then []
  else (((startTags html).filterMap (substituteTag? table)).filter fun r => 0 < r.2.hits).map splice

theorem planned_apply (table : RuleTable) (html : Text) :
    AllApply html (planned table html) (check table .repair html).html := by
  rw [html_repaired, planned]
  split
  · exact .nil html
  · rw [splices_eq]
    exact .of_rule html rfl

end LearnedRules

namespace Nesting

/-- The splices of a repair: names and attributes of inner links and buttons, and the names in their end tags. -/
def planned (html : Text) : List Splice := (demotions [] (tokenize html)).flatMap Demotion.splices

theorem planned_apply (html : Text) : AllApply html (planned html) (check .repair html).html := by
  obtain ⟨hreplaced, hfilled⟩ := replaced_repairedPieces [] 0 (scanned_pieces html)
  rw [flatMap_source_pieces] at hreplaced
  rw [html_repaired]
  exact .of_replaced hreplaced hfilled

end Nesting

namespace Merge

theorem planned_apply (base : Text) (overlays : List Overlay) :
    AllApply base ((plan base overlays).edits.map ClassEdit.splice) (merge base overlays) := by
  obtain ⟨hreplaced, hfilled⟩ := replaced_plan base overlays
  rw [(merge_eq base overlays).2.2]
  exact .of_replaced hreplaced hfilled

end Merge

/-- The class values of elements stand one behind the other. -/
theorem classSpans_ascending (markup : Text) :
    (elements markup).Pairwise fun a b => a.classSpan.stop ≤ b.classSpan.start := by
  have hreplaced := replaced_reclass (f := fun e => some e.classes) (g := fun e => e.classes) (fun _ => rfl) 0 0
    (pieces markup)
  have hordered := hreplaced.ordered
  rw [← elements_eq] at hordered
  simp only [Option.map_some, List.filterMap_eq_map', List.pairwise_map] at hordered
  exact hordered

/-- Whatever the markup, the rules and the overlays, all edits that a contract or a merge plans are applied. The ranges
that a merge takes its class values from stand one behind the other and cut out just these values. -/
theorem no_planned_edit_lost (html : Text) (table : RuleTable) (overlays : List Overlay) :
    AllApply html (Typography.planned html) (Typography.check .repair html).html ∧
    AllApply html (LearnedRules.planned table html) (LearnedRules.check table .repair html).html ∧
    AllApply html (Nesting.planned html) (Nesting.check .repair html).html ∧
    AllApply html ((Merge.plan html overlays).edits.map Merge.ClassEdit.splice) (Merge.merge html overlays) ∧
    (elements html).Pairwise (fun a b => a.classSpan.start < b.classSpan.start ∧ a.classSpan.stop ≤ b.classSpan.start) ∧
    ∀ e ∈ elements html, e.classSpan.start < e.classSpan.stop ∧ e.classSpan.slice? html = some e.classes := by
  refine ⟨Typography.planned_apply html, LearnedRules.planned_apply table html, Nesting.planned_apply html,
    Merge.planned_apply html overlays, ?_, fun e he => ⟨classSpan_filled e he, slice_classSpan html e he⟩⟩
  refine (classSpans_ascending html).imp_of_mem fun {a b} ha _ hle => ⟨?_, hle⟩
  have := classSpan_filled a ha
  omega

end ResponsiveMarkup
