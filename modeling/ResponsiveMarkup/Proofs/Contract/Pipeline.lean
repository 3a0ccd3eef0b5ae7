import Mathlib.Data.List.Basic
import ResponsiveMarkup.Contract.Pipeline

/-!
Runs of contracts. What every contract keeps, a whole run keeps; and in report mode every contract is given the
markup that the run began with, which is also what comes out.
-/

namespace ResponsiveMarkup

namespace Contract

theorem html_settle (mode : Mode) (given : Text) (r : Result) :
    (settle mode given r).html = given ∨ (settle mode given r).html = r.html := by
  rw [settle]
  split
  · exact Or.inl rfl
  · exact Or.inr rfl

theorem settle_report (given : Text) (r : Result) :
    (settle .report given r).html = given ∧ (settle .report given r).changed = false := by
  rw [settle]
  split
  · exact ⟨rfl, rfl⟩
  · rename_i h
    simp only [true_and, not_or, ne_eq, Classical.not_not] at h
    exact ⟨h.2, by simp [h.2]⟩

/-- Of a result in report mode all but the markup is kept, and a change becomes one more error. -/
theorem settle_report_eq (given : Text) (r : Result) : settle .report given r =
    { r with
      html := given
      changed := false
      errors := r.errors ++ if r.changed = true ∨ r.html ≠ given then [mutationError] else [] } := by
  rw [settle]
  by_cases h : r.changed = true ∨ r.html ≠ given
  · rw [if_pos ⟨rfl, h⟩, if_pos h]
  · rw [if_neg fun hboth => h hboth.2, if_neg h, List.append_nil]
    rw [not_or, not_not] at h
    rw [h.2, bne_self_eq_false]

/-- A result without a change is taken as it is. -/
theorem settle_of_unchanged {mode : Mode} {given : Text} {r : Result} (hhtml : r.html = given)
    (hchanged : r.changed = false) : settle mode given r = r := by
  obtain ⟨html, warnings, errors, metrics, changed⟩ := r
  cases hhtml
  cases hchanged
  simp [settle]

end Contract

namespace Pipeline

open Contract

theorem mem_stageContracts {p : Pipeline} {stage : String} {c : Contract} :
    c ∈ p.stageContracts stage ↔ c ∈ p.contracts ∧ c.stage = stage := by
  rw [stageContracts, List.mem_mergeSort, List.mem_filter, beq_iff_eq]

/-- What every contract keeps a run keeps, and each report is about a markup that had it. -/
theorem runAll_invariant {I : Text → Prop} {mode : Mode} {slots : NameMap} {cs : List Contract}
    (hstep : ∀ c ∈ cs, ∀ given, I given → I (c.apply mode ⟨given, slots⟩).html) {html : Text} (h : I html) :
    I (runAll mode slots html cs).html ∧
      ∀ r ∈ (runAll mode slots html cs).reports, ∃ c ∈ cs, ∃ given, I given ∧
        r = c.report (settle mode given (c.apply mode ⟨given, slots⟩)) := by
  -- For every markup to begin with, since each contract is given what the one before it left.
  induction cs generalizing html with
  | nil => exact ⟨h, fun r hr => nomatch hr⟩
  | cons c cs ih =>
    have hnext : I (settle mode html (c.apply mode ⟨html, slots⟩)).html := by
      rcases html_settle mode html (c.apply mode ⟨html, slots⟩) with heq | heq
      · rw [heq]
        exact h
      · rw [heq]
        exact hstep c List.mem_cons_self html h
    obtain ⟨hrest, hreports⟩ := ih (fun d hd => hstep d (List.mem_cons_of_mem c hd)) hnext
    refine ⟨hrest, fun r hr => ?_⟩
    rcases List.mem_cons.mp hr with rfl | hr
    · exact ⟨c, List.mem_cons_self, html, h, rfl⟩
    · obtain ⟨d, hd, given, hgiven, hr⟩ := hreports r hr
      exact ⟨d, List.mem_cons_of_mem c hd, given, hgiven, hr⟩

/-- Every contract of a run has a report. -/
theorem map_id_reports (mode : Mode) (slots : NameMap) (html : Text) (cs : List Contract) :
    (runAll mode slots html cs).reports.map (·.id) = cs.map (·.id) := by
  induction cs generalizing html with
  | nil => rfl
  | cons c cs ih =>
    simp only [runAll, List.map_cons, ih]
    rfl

theorem runAll_report (slots : NameMap) (html : Text) (cs : List Contract) :
    runAll .report slots html cs =
      ⟨html, false, cs.map fun c => c.report (settle .report html (c.apply .report ⟨html, slots⟩))⟩ := by
  induction cs with
  | nil => rfl
  | cons c cs ih =>
    obtain ⟨hhtml, hchanged⟩ := settle_report html (c.apply .report ⟨html, slots⟩)
    simp only [runAll, hhtml, hchanged, ih, Bool.or_self, List.map_cons]

/-- Whatever the contracts do, in report mode the markup comes out as it went in, and each contract's report says what
the contract found on the document that went in, without a change. A contract that claims a change or hands back
another markup has that as one more error. -/
theorem report_mode_passes_through (p : Pipeline) (stages : List String) (d : Document) :
    (p.run stages .report d).html = d.html ∧
    (p.run stages .report d).changed = false ∧
    (∀ r ∈ (p.run stages .report d).reports, r.changed = false) ∧
    (p.run stages .report d).reports = (stages.flatMap p.stageContracts).map fun c =>
      { id := c.id
        stage := c.stage
        order := c.order
        changed := false
        warnings := (c.apply .report d).warnings
        errors := (c.apply .report d).errors ++
          if (c.apply .report d).changed = true ∨ (c.apply .report d).html ≠ d.html then [mutationError] else []
        metrics := (c.apply .report d).metrics } := by
  rw [run, runAll_report]
  refine ⟨rfl, rfl, fun r hr => ?_, ?_⟩
  · obtain ⟨c, -, rfl⟩ := List.mem_map.mp hr
    exact (settle_report d.html _).2
  · apply List.map_congr_left
    intro c _
    rw [settle_report_eq]
    rfl

end Pipeline

end ResponsiveMarkup
