import ResponsiveMarkup.Proofs.Contract.Pipeline

/-!
Runs of a pipeline, contract by contract. A run is a chain of turns in which each contract is given what the one before
it left; two runs of which the second goes on from the markup of the first are one run of both lists of stages. Within
a stage the contracts come by ascending order, and as they were registered where they share one.
-/

namespace ResponsiveMarkup

namespace Contract

/-- A contract had its turn: what it left of the markup it was given, and what is reported of it. -/
structure Turn (mode : Mode) (slots : NameMap) (c : Contract) (given left : Text) (r : Report) : Prop where
  id_eq : r.id = c.id
  stage_eq : r.stage = c.stage
  order_eq : r.order = c.order
  /-- Only a repair hands on what the contract made. -/
  left_eq : left = if mode = .repair then (c.apply mode ⟨given, slots⟩).html else given
  /-- The report speaks of the markup, whatever the contract says of itself. -/
  changed_iff : r.changed = true ↔ left ≠ given
  warnings_eq : r.warnings = (c.apply mode ⟨given, slots⟩).warnings
  metrics_eq : r.metrics = (c.apply mode ⟨given, slots⟩).metrics
  errors_eq : r.errors = (c.apply mode ⟨given, slots⟩).errors ++
    if mode = .report ∧ ((c.apply mode ⟨given, slots⟩).changed = true ∨ (c.apply mode ⟨given, slots⟩).html ≠ given)
    then [mutationError] else []

theorem settle_repair_eq (given : Text) (r : Result) :
    settle .repair given r = { r with changed := r.html != given } :=
  if_neg fun h => nomatch h.1

/-- What the pipeline makes of a contract's result is a turn. -/
theorem turn_settle (mode : Mode) (slots : NameMap) (c : Contract) (given : Text) :
    Turn mode slots c given (settle mode given (c.apply mode ⟨given, slots⟩)).html
      (c.report (settle mode given (c.apply mode ⟨given, slots⟩))) := by
  cases mode with
  | report =>
    rw [settle_report_eq]
    constructor
    case changed_iff => simp [report]
    case errors_eq => simp [report]
    all_goals rfl
  | repair =>
    rw [settle_repair_eq]
    constructor
    case changed_iff => simp [report]
    case errors_eq => simp [report]
    all_goals rfl

/-- Contracts have their turns one after another, each with what the one before it left. -/
inductive Turns (mode : Mode) (slots : NameMap) : List Contract → Text → List Report → Text → Prop where
  | done (html : Text) : Turns mode slots [] html [] html
  | next {c : Contract} {cs : List Contract} {given left last : Text} {r : Report} {rs : List Report} :
      Turn mode slots c given left r → Turns mode slots cs left rs last → Turns mode slots (c :: cs) given (r :: rs) last

/-- The contracts of a stage in the order they run in. -/
structure StablyOrdered (registered ordered : List Contract) : Prop where
  each_once : ordered.Perm registered
  ascending : ordered.Pairwise fun a b => a.order ≤ b.order
  as_registered : ∀ k, ordered.filter (·.order = k) = registered.filter (·.order = k)

end Contract

namespace Pipeline

open Contract

theorem turns_runAll (mode : Mode) (slots : NameMap) (html : Text) (cs : List Contract) :
    Turns mode slots cs html (runAll mode slots html cs).reports (runAll mode slots html cs).html := by
  -- For every markup to begin with, since each contract is given what the one before it left.
  induction cs generalizing html with
  | nil => exact .done html
  | cons c cs ih => exact .next (turn_settle mode slots c html) (ih _)

/-- A run changes the markup if one of its turns does. -/
theorem changed_runAll (mode : Mode) (slots : NameMap) (html : Text) (cs : List Contract) :
    (runAll mode slots html cs).changed = true ↔ ∃ r ∈ (runAll mode slots html cs).reports, r.changed = true := by
  induction cs generalizing html with
  | nil => simp [runAll]
  | cons c cs ih =>
    simp only [runAll, Bool.or_eq_true, List.exists_mem_cons_iff, ih]
    rfl

theorem runAll_append (mode : Mode) (slots : NameMap) (html : Text) (cs ds : List Contract) :
    runAll mode slots html (cs ++ ds) =
      let first := runAll mode slots html cs
      let second := runAll mode slots first.html ds
      ⟨second.html, first.changed || second.changed, first.reports ++ second.reports⟩ := by
  induction cs generalizing html with
  | nil => simp [runAll]
  | cons c cs ih => simp only [List.cons_append, runAll, ih, Bool.or_assoc]

theorem run_append (p : Pipeline) (mode : Mode) (s t : List String) (d : Document) :
    p.run (s ++ t) mode d =
      let first := p.run s mode d
      let second := p.run t mode ⟨first.html, d.slots⟩
      ⟨second.html, first.changed || second.changed, first.reports ++ second.reports⟩ := by
  simp only [run, List.flatMap_append, runAll_append]

/-- Contracts of one order are in order already, so sorting leaves them as they are. -/
theorem stablyOrdered_stageContracts (p : Pipeline) (stage : String) :
    StablyOrdered (p.contracts.filter (·.stage = stage)) (p.stageContracts stage) := by
  have hstage : p.contracts.filter (·.stage == stage) = p.contracts.filter (·.stage = stage) := by
    apply List.filter_congr
    intro c _
    exact Bool.beq_eq_decide_eq c.stage stage
  rw [stageContracts, hstage]
  generalize p.contracts.filter (·.stage = stage) = registered
  have htrans : ∀ a b c : Contract, decide (a.order ≤ b.order) = true → decide (b.order ≤ c.order) = true →
      decide (a.order ≤ c.order) = true := by
    intro a b c hab hbc
    exact decide_eq_true (Nat.le_trans (of_decide_eq_true hab) (of_decide_eq_true hbc))
  have htotal : ∀ a b : Contract, (decide (a.order ≤ b.order) || decide (b.order ≤ a.order)) = true := by
    intro a b
    have h := Nat.le_total a.order b.order
    simpa using h
  have hperm := List.mergeSort_perm registered fun a b : Contract => decide (a.order ≤ b.order)
  constructor
  · exact hperm
  · apply (List.pairwise_mergeSort htrans htotal registered).imp
    intro a b hab
    exact of_decide_eq_true hab
  · intro k
    have hsame : (registered.filter (·.order = k)).Pairwise fun a b => decide (a.order ≤ b.order) = true := by
      apply List.pairwise_of_forall_mem_list
      intro a ha b hb
      have hak := of_decide_eq_true (List.mem_filter.mp ha).2
      have hbk := of_decide_eq_true (List.mem_filter.mp hb).2
      exact decide_eq_true (by omega)
    have hsub := (List.sublist_mergeSort htrans htotal hsame List.filter_sublist).filter (·.order = k)
    rw [List.filter_filter] at hsub
    simp only [Bool.and_self] at hsub
    exact (hsub.eq_of_length (hperm.filter _).length_eq.symm).symm

/-- Whatever the contracts do, a run over two lists of stages is a run over the first and then one over the second from
where that ended. Every run is a chain of turns, one for each registered contract of each stage, by ascending order and
then as registered; and it changes the markup if and only if one of its turns does. -/
theorem runs_compose (p : Pipeline) (mode : Mode) :
    (∀ (s t : List String) (d : Document), p.run (s ++ t) mode d =
      let first := p.run s mode d
      let second := p.run t mode ⟨first.html, d.slots⟩
      ⟨second.html, first.changed || second.changed, first.reports ++ second.reports⟩) ∧
    (∀ stage, StablyOrdered (p.contracts.filter (·.stage = stage)) (p.stageContracts stage)) ∧
    ∀ (stages : List String) (d : Document),
      Turns mode d.slots (stages.flatMap p.stageContracts) d.html (p.run stages mode d).reports (p.run stages mode d).html ∧
      ((p.run stages mode d).changed = true ↔ ∃ r ∈ (p.run stages mode d).reports, r.changed = true) := by
  refine ⟨run_append p mode, stablyOrdered_stageContracts p, ?_⟩
  intro stages d
  exact ⟨turns_runAll mode d.slots d.html _, changed_runAll mode d.slots d.html _⟩

end Pipeline

end ResponsiveMarkup
