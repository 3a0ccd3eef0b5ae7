import ResponsiveMarkup.Proofs.Compile.Sound

/-!
Links and buttons in what a compilation hands out. None begins inside another, and the contract that looks for such
nesting finds nothing, neither in the course of the run nor in its outcome.
-/

namespace ResponsiveMarkup.Compile

open Contract

theorem sound_runAll (rules : RuleTable) (stages : List String) (mode : Mode) (slots : NameMap) {html : Text}
    (h : Sound html) :
    Sound (Pipeline.runAll mode slots html (stages.flatMap (Pipeline.standard rules).stageContracts)).html ∧
      ∀ r ∈ (Pipeline.runAll mode slots html (stages.flatMap (Pipeline.standard rules).stageContracts)).reports,
        ∃ c ∈ (Pipeline.standard rules).contracts, ∃ given, Sound given ∧
          r = c.report (settle mode given (c.apply mode ⟨given, slots⟩)) := by
  have hstep : ∀ c ∈ stages.flatMap (Pipeline.standard rules).stageContracts, ∀ given, Sound given →
      Sound (c.apply mode ⟨given, slots⟩).html := fun c hc _ hgiven => hgiven.apply (mem_contracts hc) mode slots
  obtain ⟨hhtml, hreports⟩ := Pipeline.runAll_invariant hstep h
  refine ⟨hhtml, fun r hr => ?_⟩
  obtain ⟨c, hc, given, hgiven, rfl⟩ := hreports r hr
  exact ⟨c, mem_contracts hc, given, hgiven, rfl⟩

theorem id_eq_nesting {rules : RuleTable} {c : Contract} (hc : c ∈ (Pipeline.standard rules).contracts)
    (hid : c.id = Nesting.contract.id) : c = Nesting.contract := by
  simp only [Pipeline.standard, List.mem_cons, List.not_mem_nil, or_false] at hc
  rcases hc with rfl | rfl | rfl | rfl
  · exact absurd hid (by decide)
  · have hne : "rules.learned-class-rewrite" ≠ "a11y.interactive-nesting" := by decide
    exact absurd hid hne
  · rfl
  · exact absurd hid (by decide)

theorem apply_nesting {given : Text} (h : Sound given) (mode : Mode) (slots : NameMap) :
    Nesting.contract.apply mode ⟨given, slots⟩ = ⟨given, [], [], [("nestedInteractive", 0)], false⟩ :=
  h.apart.check_eq mode

theorem metrics_apply_nesting {given : Text} (h : Sound given) (mode : Mode) (slots : NameMap) :
    (Nesting.contract.apply mode ⟨given, slots⟩).metrics = [("nestedInteractive", 0)] := by
  rw [apply_nesting h]

theorem metrics_report_nesting {given : Text} (h : Sound given) (mode : Mode) (slots : NameMap) :
    (Nesting.contract.report (settle mode given (Nesting.contract.apply mode ⟨given, slots⟩))).metrics =
      [("nestedInteractive", 0)] := by
  have hsettled : settle mode given ⟨given, [], [], [("nestedInteractive", 0)], false⟩ = _ :=
    settle_of_unchanged rfl rfl
  rw [apply_nesting h, hsettled]
  rfl

/-- No link or button begins inside another in the markup that a run hands out, whatever the designs, the options
and the rules; and no report on nesting that the run makes on its way has found one. -/
theorem nothing_nested (o : Options) (rules : RuleTable) (i : Input) :
    (∀ mode slots, (Nesting.contract.apply mode ⟨(run o rules i).html, slots⟩).metrics =
      [("nestedInteractive", 0)]) ∧
    (∀ r ∈ (run o rules i).reports, r.id = Nesting.contract.id → r.metrics = [("nestedInteractive", 0)]) ∧
    ((run o rules i).baseViewport ≠ none → markupStage ∈ o.stages →
      ∃ r ∈ (run o rules i).reports, r.id = Nesting.contract.id) := by
  cases hbase : (fragments o.render i).merge.stats.baseViewport with
  | none =>
    rw [run_of_none hbase]
    exact ⟨metrics_apply_nesting sound_nil, fun r hr => absurd hr List.not_mem_nil, fun h => absurd rfl h⟩
  | some base =>
    rw [run_of_base hbase]
    obtain ⟨hsound, hreports⟩ :=
      sound_runAll rules o.stages o.mode (baseSlots i base) (sound_fragments o.render i)
    refine ⟨metrics_apply_nesting hsound, fun r hr hid => ?_, fun _ hstage => ?_⟩
    · obtain ⟨c, hc, given, hgiven, rfl⟩ := hreports r hr
      obtain rfl := id_eq_nesting hc hid
      exact metrics_report_nesting hgiven o.mode _
    · have hmem : Nesting.contract ∈ o.stages.flatMap (Pipeline.standard rules).stageContracts :=
        List.mem_flatMap.mpr
          ⟨markupStage, hstage, Pipeline.mem_stageContracts.mpr ⟨by simp [Pipeline.standard], rfl⟩⟩
      have hids := Pipeline.map_id_reports o.mode (baseSlots i base) (fragments o.render i).merge.html
        (o.stages.flatMap (Pipeline.standard rules).stageContracts)
      have hid : Nesting.contract.id ∈ (outcome o rules i base).reports.map (·.id) := by
        rw [outcome, Pipeline.run, hids]
        exact List.mem_map_of_mem hmem
      exact List.mem_map.mp hid

end ResponsiveMarkup.Compile
