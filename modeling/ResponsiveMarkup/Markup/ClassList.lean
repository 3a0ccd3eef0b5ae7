import ResponsiveMarkup.Text.Basic

/-!
Class lists: the words of a class value, without repetitions where a rule asks for that.
-/

namespace ResponsiveMarkup

/-- Each element where it first occurs, leaving out those in `seen`. -/
def dedupeAfter {α : Type} [DecidableEq α] (seen : List α) : List α → List α
  | [] => []
  | a :: as => if a ∈ seen then dedupeAfter seen as else a :: dedupeAfter (a :: seen) as

/-- Later repetitions are dropped. -/
def dedupe {α : Type} [DecidableEq α] (as : List α) : List α := dedupeAfter [] as

theorem mem_dedupeAfter {α : Type} [DecidableEq α] {seen as : List α} {a : α} :
    a ∈ dedupeAfter seen as ↔ a ∈ as ∧ a ∉ seen := by
  induction as generalizing seen with
  | nil => simp [dedupeAfter]
  | cons b as ih =>
    by_cases hb : b ∈ seen
    · simp only [dedupeAfter, hb, if_true, ih, List.mem_cons]
      grind
    · simp only [dedupeAfter, hb, if_false, ih, List.mem_cons]
      grind

theorem mem_dedupe {α : Type} [DecidableEq α] {as : List α} {a : α} : a ∈ dedupe as ↔ a ∈ as := by
  simp [dedupe, mem_dedupeAfter]

theorem nodup_dedupeAfter {α : Type} [DecidableEq α] (seen as : List α) : (dedupeAfter seen as).Nodup := by
  induction as generalizing seen with
  | nil => exact List.nodup_nil
  | cons a as ih =>
    rw [dedupeAfter]
    split
    · exact ih seen
    · refine List.nodup_cons.mpr ⟨fun hmem => ?_, ih (a :: seen)⟩
      exact (mem_dedupeAfter.mp hmem).2 List.mem_cons_self

theorem nodup_dedupe {α : Type} [DecidableEq α] (as : List α) : (dedupe as).Nodup := nodup_dedupeAfter [] as

theorem dedupeAfter_eq_self {α : Type} [DecidableEq α] {seen as : List α} (h : as.Nodup)
    (hseen : ∀ a ∈ as, a ∉ seen) : dedupeAfter seen as = as := by
  induction as generalizing seen with
  | nil => rfl
  | cons a as ih =>
    obtain ⟨hfirst, hrest⟩ := List.nodup_cons.mp h
    rw [dedupeAfter, if_neg (hseen a List.mem_cons_self), ih hrest]
    intro b hb hmem
    rcases List.mem_cons.mp hmem with rfl | hmem
    · exact hfirst hb
    · exact hseen b (List.mem_cons_of_mem a hb) hmem

theorem dedupe_eq_self {α : Type} [DecidableEq α] {as : List α} (h : as.Nodup) : dedupe as = as :=
  dedupeAfter_eq_self h fun _ _ => List.not_mem_nil

theorem dedupeAfter_append {α : Type} [DecidableEq α] {seen as bs : List α} (h : ∀ b ∈ bs, b ∈ as ∨ b ∈ seen) :
    dedupeAfter seen (as ++ bs) = dedupeAfter seen as := by
  induction as generalizing seen with
  | nil =>
    have hnone : dedupeAfter seen bs = [] := by
      rw [List.eq_nil_iff_forall_not_mem]
      intro b hb
      obtain ⟨hmem, hnew⟩ := mem_dedupeAfter.mp hb
      exact hnew ((h b hmem).resolve_left List.not_mem_nil)
    exact hnone
  | cons a as ih =>
    rw [List.cons_append, dedupeAfter, dedupeAfter]
    by_cases ha : a ∈ seen
    · rw [if_pos ha, if_pos ha, ih]
      grind
    · rw [if_neg ha, if_neg ha, ih]
      grind

/-- What comes again at the end is dropped. -/
theorem dedupe_append {α : Type} [DecidableEq α] {as bs : List α} (h : ∀ b ∈ bs, b ∈ as) :
    dedupe (as ++ bs) = dedupe as :=
  dedupeAfter_append fun b hb => Or.inl (h b hb)

/-- A class value made of these tokens. -/
def classValue (tokens : List Text) : Text := Text.joinWith [' '] tokens

end ResponsiveMarkup
