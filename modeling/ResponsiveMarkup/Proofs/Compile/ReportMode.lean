import ResponsiveMarkup.Proofs.Compile.Sound

/-!
Compiling in report mode. It draws, merges and reports: the markup is that of the merge, whatever contracts run over
it, and all that is said about it goes by the slots of the design that the others are merged into.
-/

namespace ResponsiveMarkup

open Text

theorem Fragments.head_present (f : Fragments) (vs : List Viewport) :
    ((vs.filterMap fun v => (f.get? v).map fun m => (⟨v, m⟩ : Overlay)).head?).map (·.viewport) =
      vs.find? fun v => (f.get? v).isSome := by
  induction vs with
  | nil => rfl
  | cons v vs ih =>
    cases hv : f.get? v with
    | none => rw [List.filterMap_cons_none (by rw [hv]; rfl), List.find?_cons_of_neg (by simp [hv]), ih]
    | some m =>
      rw [List.filterMap_cons_some (by rw [hv]; rfl), List.find?_cons_of_pos (by simp [hv])]
      rfl

theorem Fragments.baseViewport_merge (f : Fragments) :
    f.merge.stats.baseViewport = Viewport.all.find? fun v => (f.get? v).isSome := by
  rw [← f.head_present, ← present, merge]
  cases f.present <;> rfl

/-- The merged markup has the elements of its base but for their classes. -/
theorem Fragments.elements_merge {f : Fragments} (h : ∀ v m, f.get? v = some m → ClassesInDoubleQuotes m)
    {base : Viewport} (hbase : f.merge.stats.baseViewport = some base) :
    ∃ m, f.get? base = some m ∧ (elements f.merge.html).map (fun e => (e.key, e.nodeId, e.tag)) =
      (elements m).map fun e => (e.key, e.nodeId, e.tag) := by
  have hpresent : ∀ o ∈ f.present, f.get? o.viewport = some o.markup := fun o ho => f.mem_present ho
  rw [merge] at hbase ⊢
  cases hsplit : f.present with
  | nil =>
    rw [hsplit] at hbase
    cases hbase
  | cons b overlays =>
    rw [hsplit] at hbase hpresent
    cases hbase
    have hb := hpresent b List.mem_cons_self
    have hquoted : ∀ o ∈ overlays, ClassesInDoubleQuotes o.markup :=
      fun o ho => h _ _ (hpresent o (List.mem_cons_of_mem b ho))
    refine ⟨b.markup, hb, ?_⟩
    have hentries := congrArg (List.map fun e : Entry => (e.key, e.nodeId, e.tag))
      (Merge.entries_merge (h _ _ hb) hquoted)
    rw [List.map_map, List.map_map] at hentries
    exact hentries

namespace Compile

open Contract

theorem diagnostics_eq (i : Input) : diagnostics i =
    Viewport.all.flatMap fun v => ((i.get? v).toList.flatMap Design.validate).map fun f => (v, f) := by
  obtain ⟨mobile, tablet, desktop⟩ := i
  cases mobile <;> cases tablet <;> cases desktop <;>
    simp [diagnostics, Input.present, Input.get?, Viewport.all]

/-- A design is the base of a run when its drawing is not blank. -/
theorem baseViewport_fragments (o : Render.Options) (i : Input) : (fragments o i).merge.stats.baseViewport =
    Viewport.all.find? fun v => (i.get? v).any fun a => !isBlankText (Render.render a o) := by
  rw [Fragments.baseViewport_merge]
  congr 1
  funext v
  rw [get?_fragments]
  cases i.get? v with
  | none => rfl
  | some a => cases hblank : isBlankText (Render.render a o) <;> simp [Option.filter, hblank]

theorem outcome_report {o : Options} (h : o.mode = .report) (rules : RuleTable) (i : Input) (base : Viewport) :
    outcome o rules i base = ⟨(fragments o.render i).merge.html, false,
      (o.stages.flatMap (Pipeline.standard rules).stageContracts).map fun c =>
        c.report (c.apply .report ⟨(fragments o.render i).merge.html, baseSlots i base⟩)⟩ := by
  rw [outcome, Pipeline.run, h, Pipeline.runAll_report]
  congr 1
  apply List.map_congr_left
  intro c hc
  obtain ⟨hhtml, hchanged⟩ :=
    unchanged_standard (mem_contracts hc) ⟨(fragments o.render i).merge.html, baseSlots i base⟩
  rw [settle_of_unchanged hhtml hchanged]

/-- In report mode the narrowest design with a drawing that is not blank is the base. Without one nothing comes out
but the one failure. Otherwise the merge of all drawings comes out, with the elements of the base's drawing; each
contract reports on that markup without a change, and reports and warnings go by the slots of the base. -/
theorem run_report (o : Options) (rules : RuleTable) (i : Input) (hmode : o.mode = .report) :
    (run o rules i).diagnostics =
      (Viewport.all.flatMap fun v => ((i.get? v).toList.flatMap Design.validate).map fun f => (v, f)) ∧
    (run o rules i).baseViewport =
      (Viewport.all.find? fun v => (i.get? v).any fun a => !isBlankText (Render.render a o.render)) ∧
    ((run o rules i).baseViewport = none →
      (run o rules i).html = [] ∧ (run o rules i).failures = [.noViewport] ∧ (run o rules i).reports = []) ∧
    ∀ base, (run o rules i).baseViewport = some base → ∃ a, i.get? base = some a ∧
      (run o rules i).html = (Fragments.merge ⟨i.mobile.map (Render.render · o.render),
        i.tablet.map (Render.render · o.render), i.desktop.map (Render.render · o.render)⟩).html ∧
      (elements (run o rules i).html).map (fun e => (e.key, e.nodeId, e.tag)) =
        (elements (Render.render a o.render)).map (fun e => (e.key, e.nodeId, e.tag)) ∧
      (run o rules i).failures = [] ∧
      (∀ r ∈ (run o rules i).reports, r.changed = false) ∧
      (run o rules i).reports = (o.stages.flatMap (Pipeline.standard rules).stageContracts).map (fun c =>
        c.report (c.apply .report ⟨(run o rules i).html, a.slots⟩)) ∧
      (run o rules i).output = Finalize.finalize (run o rules i).html a.slots := by
  obtain ⟨hfindings, hfirst⟩ := findings_and_base_run o rules i
  refine ⟨?_, ?_, ?_, ?_⟩
  · rw [hfindings, diagnostics_eq]
  · rw [hfirst, baseViewport_fragments]
  · intro hnone
    rw [hfirst] at hnone
    rw [run_of_none hnone]
    exact ⟨rfl, rfl, rfl⟩
  · intro base hbase
    rw [hfirst] at hbase
    have hquoted : ∀ v m, (fragments o.render i).get? v = some m → ClassesInDoubleQuotes m :=
      fun v m hm => (sound_of_get? hm).quoted.classesInDoubleQuotes
    obtain ⟨m, hm, helements⟩ := Fragments.elements_merge hquoted hbase
    obtain ⟨a, ha, rfl⟩ := design_of_get? hm
    have hslots : baseSlots i base = a.slots := by
      rw [baseSlots, ha]
      rfl
    rw [run_of_base hbase, outcome_report hmode, hslots, ← fragments_eq]
    refine ⟨a, ha, rfl, helements, rfl, fun r hr => ?_, rfl, rfl⟩
    obtain ⟨c, hc, rfl⟩ := List.mem_map.mp hr
    exact (unchanged_standard (mem_contracts hc) _).2

/-- A drawing with its frame is never blank. -/
theorem not_blank_framed (a : Design.Artboard) {options : Render.Options} (h : options.frameWrapper = true) :
    isBlankText (Render.render a options) = false := by
  rw [Render.render, if_pos h]
  rfl

/-- A run over the one design of two lines. -/
def plainInput : Input := ⟨some Render.plainArtboard, none, none⟩

theorem run_report_plainInput :
    Options.standard.mode = .report ∧
    (run Options.standard RuleTable.empty plainInput).baseViewport = some .mobile ∧
    ∀ r ∈ (run Options.standard RuleTable.empty plainInput).reports, r.changed = false := by
  obtain ⟨-, hfirst, -, hbase⟩ := run_report Options.standard RuleTable.empty plainInput rfl
  have hblank : isBlankText (Render.render Render.plainArtboard Options.standard.render) = false :=
    not_blank_framed _ rfl
  have hmobile : (run Options.standard RuleTable.empty plainInput).baseViewport = some .mobile := by
    rw [hfirst, Viewport.all, List.find?_cons]
    simp [plainInput, Input.get?, hblank]
  obtain ⟨a, -, -, -, -, hchanged, -⟩ := hbase .mobile hmobile
  exact ⟨rfl, hmobile, hchanged⟩

end Compile

end ResponsiveMarkup
