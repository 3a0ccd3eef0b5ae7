import Mathlib.Data.List.TakeWhile
import ResponsiveMarkup.Text.Basic

/-!
Cutting a text, or any list, at the first character of a kind.
-/

namespace ResponsiveMarkup.Text

variable {α : Type} {p : α → Bool}

theorem cut_append {l f : List α} (hl : ∀ c ∈ l, p c = true)
    (hf : ∀ c ∈ f.head?, p c = false) : (l ++ f).takeWhile p = l ∧ (l ++ f).dropWhile p = f := by
  rw [List.takeWhile_append_of_pos hl, List.dropWhile_append_of_pos hl]
  cases f with
  | nil => simp
  | cons c f =>
    have hc : p c = false := hf c rfl
    simp [hc]

theorem head_dropWhile_false {s : List α} : ∀ c ∈ (s.dropWhile p).head?, p c = false := by
  intro c hc
  have := List.head?_dropWhile_not p s
  rw [Option.mem_def.mp hc] at this
  exact this

theorem takeWhile_true {s : List α} : ∀ c ∈ s.takeWhile p, p c = true :=
  fun _ hc => (List.mem_takeWhile_imp hc)

theorem dropWhile_eq_self {s : List α} (h : ∀ c ∈ s.head?, p c = false) : s.dropWhile p = s := by
  cases s with
  | nil => rfl
  | cons c s => rw [List.dropWhile_cons_of_neg (by simp [h c rfl])]

end ResponsiveMarkup.Text
