import ResponsiveMarkup.Compile.Run
import ResponsiveMarkup.Proofs.Contract.ClassRules
import ResponsiveMarkup.Proofs.Contract.Nesting
import ResponsiveMarkup.Proofs.Contract.Pipeline
import ResponsiveMarkup.Proofs.Merge.Structure
import ResponsiveMarkup.Proofs.Render.DrawnTags

/-!
A markup on its way through a compilation. Every drawing is well quoted and keeps links and buttons apart, whatever
the design; merging and every standard contract pass both on.
-/

namespace ResponsiveMarkup

open Design

structure Sound (markup : Text) : Prop where
  quoted : WellQuoted markup
  apart : Nesting.Apart markup

/-! ### Drawing -/

namespace Render

theorem composable_calm : Composable Nesting.Calm where
  nil _ := .nil
  append _ _ _ hc hd := hc.append hd
  comment _ body := .comment body
  text _ body := .text body
  selfClosing _ _ attributes hname := .selfClosing hname attributes
  element _ _ attributes _ hvoid hname h := .element attributes hvoid hname h

theorem sound_render (a : Artboard) (options : Options) : Sound (render a options) := by
  refine ⟨wellQuoted_render a options, ?_⟩
  -- A text that runs on hides the tags behind it, so only those in front of it count. They begin the drawing, and
  -- no beginning of calm contents nests anything.
  obtain ⟨before, after, hsplit, hread⟩ := pieces_render_cases a options
  have hcalm := composable_calm.artboardPieces a options
  rw [hsplit, List.map_append] at hcalm
  have hprefix := hcalm.isSome_prefix
  rw [Nesting.Apart, contents_eq]
  rcases hread with hread | ⟨body, hread⟩
  · rwa [hread]
  · obtain ⟨stack, hstack⟩ := Option.isSome_iff_exists.mp hprefix
    rw [hread, List.map_append, Nesting.openApart_append, hstack]
    rfl

end Render

/-! ### Merging -/

theorem Sound.merge {base : Text} {overlays : List Overlay} (h : Sound base)
    (hoverlays : ∀ o ∈ overlays, Sound o.markup) : Sound (Merge.merge base overlays) := by
  have hbase := h.quoted.classesInDoubleQuotes
  have hothers : ∀ o ∈ overlays, ClassesInDoubleQuotes o.markup :=
    fun o ho => (hoverlays o ho).quoted.classesInDoubleQuotes
  constructor
  · intro t ht
    obtain ⟨u, hu, hreworked⟩ := Merge.reworked_of_mem_merge hbase hothers ht
    exact hreworked.wellQuoted (h.quoted u hu)
  · refine h.apart.of_bare ?_
    rw [contents_eq, contents_eq, Merge.pieces_merge hbase hothers, List.map_map, List.map_map]
    exact bare_reclass _ 0 0 _

theorem sound_nil : Sound [] where
  quoted t ht := by
    rw [Scanner.pieces] at ht
    cases ht
  apart := by
    rw [Nesting.Apart, contents_eq, Scanner.pieces]
    rfl

theorem Fragments.mem_present {f : Fragments} {o : Overlay} (h : o ∈ f.present) :
    f.get? o.viewport = some o.markup := by
  obtain ⟨v, -, hv⟩ := List.mem_filterMap.mp h
  obtain ⟨m, hm, rfl⟩ := Option.map_eq_some_iff.mp hv
  exact hm

/-- What holds of nothing and is kept by merging holds of what fragments are merged into. -/
theorem Fragments.merge_invariant {I : Text → Prop} (hnil : I [])
    (hmerge : ∀ base overlays, I base → (∀ o ∈ overlays, I o.markup) → I (Merge.merge base overlays)) {f : Fragments}
    (h : ∀ v m, f.get? v = some m → I m) : I f.merge.html := by
  have hpresent : ∀ o ∈ f.present, I o.markup := fun o ho => h _ _ (f.mem_present ho)
  rw [merge]
  cases hsplit : f.present with
  | nil => exact hnil
  | cons base overlays =>
    rw [hsplit] at hpresent
    exact hmerge _ _ (hpresent base List.mem_cons_self) fun o ho => hpresent o (List.mem_cons_of_mem base ho)

/-! ### Contracts -/

theorem Sound.spliced {markup : Text} (h : Sound markup) {rule : Text → ClassChange} (hnil : rule [] = .keep)
    (hrule : QuoteFree rule) :
    Sound (spliced markup ((startTags markup).filterMap (StartTag.classSplice? rule))) := by
  obtain ⟨hquoted, hbare⟩ := wellQuoted_spliced h.quoted hnil hrule
  exact ⟨hquoted, h.apart.of_bare hbare⟩

theorem LearnedRules.unchanged_report (rules : RuleTable) (html : Text) :
    (check rules .report html).html = html ∧ (check rules .report html).changed = false := by
  simp only [check]
  split <;> exact ⟨rfl, rfl⟩

/-- In report mode no standard contract changes anything. -/
theorem unchanged_standard {rules : RuleTable} {c : Contract} (hc : c ∈ (Pipeline.standard rules).contracts)
    (d : Document) : (c.apply .report d).html = d.html ∧ (c.apply .report d).changed = false := by
  simp only [Pipeline.standard, List.mem_cons, List.not_mem_nil, or_false] at hc
  rcases hc with rfl | rfl | rfl | rfl
  · exact ⟨rfl, rfl⟩
  · exact LearnedRules.unchanged_report rules d.html
  · exact ⟨rfl, rfl⟩
  · exact ⟨rfl, rfl⟩

/-- In either mode every standard contract leaves a sound markup sound. -/
theorem Sound.apply {rules : RuleTable} {c : Contract} (hc : c ∈ (Pipeline.standard rules).contracts) (mode : Mode)
    (slots : NameMap) {html : Text} (h : Sound html) : Sound (c.apply mode ⟨html, slots⟩).html := by
  cases mode with
  | report =>
    rw [(unchanged_standard hc _).1]
    exact h
  | repair =>
    simp only [Pipeline.standard, List.mem_cons, List.not_mem_nil, or_false] at hc
    rcases hc with rfl | rfl | rfl | rfl
    · show Sound (Typography.check .repair html).html
      rw [Typography.html_repaired]
      exact h.spliced rfl Typography.quoteFree_rule
    · show Sound (LearnedRules.check rules .repair html).html
      rw [LearnedRules.html_repaired]
      split
      · exact h
      · exact h.spliced rfl (LearnedRules.quoteFree_rule rules)
    · show Sound (Nesting.check .repair html).html
      rw [h.apart.check_eq]
      exact h
    · exact h

/-! ### The whole run -/

namespace Compile

theorem mem_contracts {rules : RuleTable} {stages : List String} {c : Contract}
    (h : c ∈ stages.flatMap (Pipeline.standard rules).stageContracts) : c ∈ (Pipeline.standard rules).contracts := by
  obtain ⟨stage, -, hc⟩ := List.mem_flatMap.mp h
  exact (Pipeline.mem_stageContracts.mp hc).1

theorem fragments_eq (o : Render.Options) (i : Input) : fragments o i =
    ⟨i.mobile.map (Render.render · o), i.tablet.map (Render.render · o), i.desktop.map (Render.render · o)⟩ := by
  obtain ⟨mobile, tablet, desktop⟩ := i
  cases mobile <;> cases tablet <;> cases desktop <;> rfl

theorem get?_fragments (o : Render.Options) (i : Input) (v : Viewport) : (fragments o i).get? v =
    ((i.get? v).map (Render.render · o)).filter fun m => !Text.isBlankText m := by
  rw [fragments_eq]
  cases v <;> rfl

theorem design_of_get? {o : Render.Options} {i : Input} {v : Viewport} {m : Text}
    (h : (fragments o i).get? v = some m) : ∃ a, i.get? v = some a ∧ Render.render a o = m := by
  rw [get?_fragments] at h
  exact Option.map_eq_some_iff.mp (Option.filter_eq_some_iff.mp h).1

theorem sound_of_get? {o : Render.Options} {i : Input} {v : Viewport} {m : Text}
    (h : (fragments o i).get? v = some m) : Sound m := by
  obtain ⟨a, -, rfl⟩ := design_of_get? h
  exact Render.sound_render a o

theorem sound_fragments (o : Render.Options) (i : Input) : Sound (fragments o i).merge.html :=
  Fragments.merge_invariant sound_nil (fun _ _ => Sound.merge) fun _ _ h => sound_of_get? h

/-- The slots that a run looks at. -/
def baseSlots (i : Input) (base : Viewport) : NameMap := ((i.get? base).map (·.slots)).getD NameMap.empty

/-- What the contracts make of the merged markup. -/
def outcome (o : Options) (rules : RuleTable) (i : Input) (base : Viewport) : Pipeline.Outcome :=
  (Pipeline.standard rules).run o.stages o.mode ⟨(fragments o.render i).merge.html, baseSlots i base⟩

theorem run_of_none {o : Options} {i : Input} (h : (fragments o.render i).merge.stats.baseViewport = none)
    (rules : RuleTable) : run o rules i =
      ⟨[], none, diagnostics i, MergeStats.empty, [], Finalize.Output.empty, [.noViewport]⟩ := by
  simp only [run]
  split
  · rfl
  · rename_i base hbase
    rw [h] at hbase
    cases hbase

theorem run_of_base {o : Options} {i : Input} {base : Viewport}
    (h : (fragments o.render i).merge.stats.baseViewport = some base) (rules : RuleTable) : run o rules i =
      ⟨(outcome o rules i base).html, some base, diagnostics i, (fragments o.render i).merge.stats,
        (outcome o rules i base).reports, Finalize.finalize (outcome o rules i base).html (baseSlots i base), []⟩ := by
  simp only [run]
  split
  · rename_i hnone
    rw [h] at hnone
    cases hnone
  · rename_i base' hbase
    rw [h] at hbase
    cases hbase
    rfl

theorem findings_and_base_run (o : Options) (rules : RuleTable) (i : Input) :
    (run o rules i).diagnostics = diagnostics i ∧
      (run o rules i).baseViewport = (fragments o.render i).merge.stats.baseViewport := by
  cases h : (fragments o.render i).merge.stats.baseViewport with
  | none =>
    rw [run_of_none h]
    exact ⟨rfl, rfl⟩
  | some base =>
    rw [run_of_base h]
    exact ⟨rfl, rfl⟩

end Compile

end ResponsiveMarkup
