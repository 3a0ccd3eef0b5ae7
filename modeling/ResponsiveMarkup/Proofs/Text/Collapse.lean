import Mathlib.Data.List.Basic
import ResponsiveMarkup.Proofs.Text.Words

/-!
What collapsing does with the blanks of a text. Each run of them becomes one space and those at the ends go, so
whatever blank is left is a space by itself between two characters that are none.
-/

namespace ResponsiveMarkup.Text

/-- Each run of blanks as one space. -/
def squeeze : Text → Text
  | [] => []
  | c :: s =>
    if isBlank c then if s.head?.any isBlank then squeeze s else ' ' :: squeeze s
    else c :: squeeze s

/-- Every blank is a space that stands by itself between two characters that are none. -/
def SinglySpaced (s : Text) : Prop :=
  ∀ before c after, s = before ++ c :: after → isBlank c = true →
    c = ' ' ∧ (∃ d ∈ before.getLast?, isBlank d = false) ∧ ∃ d ∈ after.head?, isBlank d = false

theorem SinglySpaced.of_isWord {w : Text} (h : IsWord w) : SinglySpaced w := by
  rintro before c after rfl hc
  rw [h.2 c (List.mem_append_right before List.mem_cons_self)] at hc
  cases hc

theorem SinglySpaced.cons_word {w s : Text} (hw : IsWord w) (hs : SinglySpaced s)
    (hhead : ∃ d ∈ s.head?, isBlank d = false) : SinglySpaced (w ++ ' ' :: s) := by
  have hlast : ∃ d ∈ w.getLast?, isBlank d = false := by
    have hd := List.getLast?_eq_some_getLast hw.1
    exact ⟨w.getLast hw.1, hd, hw.trimmed.last _ hd⟩
  intro before c after hsplit hc
  rcases List.append_eq_append_iff.mp hsplit with ⟨m, rfl, hrest⟩ | ⟨m, hfront, hrest⟩
  · cases m with
    | nil =>
      cases hrest
      rw [List.append_nil]
      exact ⟨rfl, hlast, hhead⟩
    | cons d m =>
      cases hrest
      obtain ⟨hspace, ⟨e, he, hblank⟩, hnext⟩ := hs m c after rfl hc
      refine ⟨hspace, ⟨e, ?_, hblank⟩, hnext⟩
      have hm : m ≠ [] := by
        rintro rfl
        cases he
      rw [List.getLast?_append_of_ne_nil _ (List.cons_ne_nil _ _), List.getLast?_cons_of_ne_nil hm]
      exact he
  · cases m with
    | nil =>
      cases hrest
      rw [List.append_nil] at hfront
      rw [← hfront]
      exact ⟨rfl, hlast, hhead⟩
    | cons d m =>
      cases hrest
      rw [hw.2 c (by rw [hfront]; simp)] at hc
      cases hc

theorem singlySpaced_joinWith {ws : List Text} (h : ∀ w ∈ ws, IsWord w) : SinglySpaced (joinWith [' '] ws) := by
  induction ws with
  | nil => rintro _ _ _ hsplit -; simp at hsplit
  | cons w ws ih =>
    have hws := ih fun v hv => h v (List.mem_cons_of_mem w hv)
    cases ws with
    | nil => exact .of_isWord (h w List.mem_cons_self)
    | cons v vs =>
      have htrimmed := trimmed_joinWith fun u hu => h u (List.mem_cons_of_mem w hu)
      have hne := joinWith_ne_nil [' '] vs (h v (by simp)).1
      obtain ⟨d, hd⟩ := Option.isSome_iff_exists.mp (List.isSome_head?.mpr hne)
      rw [joinWith, List.append_assoc, List.singleton_append]
      exact hws.cons_word (h w List.mem_cons_self) ⟨d, hd, htrimmed.head d hd⟩

/-! ### Squeezing and trimming -/

theorem trim_append_blanks {lead s tail : Text} (hlead : isBlankText lead = true) (hs : Trimmed s)
    (htail : isBlankText tail = true) : trim (lead ++ s ++ tail) = s := by
  rw [isBlankText, List.all_eq_true] at hlead htail
  have hback : ∀ c ∈ tail.reverse, isBlank c = true := fun c hc => htail c (List.mem_reverse.mp hc)
  cases s with
  | nil =>
    rw [List.append_nil, trim, trimStart, List.dropWhile_append_of_pos hlead, List.dropWhile_eq_nil_iff.mpr htail]
    rfl
  | cons c s =>
    have hfront : (c :: s ++ tail).dropWhile isBlank = c :: s ++ tail := dropWhile_eq_self hs.head
    rw [List.append_assoc, trim, trimStart, List.dropWhile_append_of_pos hlead, hfront, trimEnd, List.reverse_append,
      List.dropWhile_append_of_pos hback, dropWhile_eq_self, List.reverse_reverse]
    rw [List.head?_reverse]
    exact hs.last

theorem joinWith_cons_cons (sep : Text) (c : Char) (w : Text) (ws : List Text) :
    joinWith sep ((c :: w) :: ws) = c :: joinWith sep (w :: ws) := by
  cases ws <;> rfl

/-- Squeezing leaves the collapsed text with at most one space in front and blanks behind it. -/
theorem squeeze_eq (s : Text) : ∃ tail, isBlankText tail = true ∧
    squeeze s = (if s.head?.any isBlank then [' '] else []) ++ collapse s ++ tail := by
  induction s with
  | nil => exact ⟨[], rfl, rfl⟩
  | cons c s ih =>
    obtain ⟨tail, htail, hsqueeze⟩ := ih
    cases hc : isBlank c with
    | true =>
      refine ⟨tail, htail, ?_⟩
      have hsame : collapse (c :: s) = collapse s := by rw [collapse, words_cons_blank hc, collapse]
      rw [squeeze, hc, if_pos rfl, hsame, List.head?_cons, Option.any_some, hc, if_pos rfl]
      split
      · rename_i hnext
        rw [hsqueeze, if_pos hnext]
      · rename_i hnext
        rw [hsqueeze, if_neg hnext]
        rfl
    | false =>
      rw [squeeze, hc, if_neg (by simp), List.head?_cons, Option.any_some, hc, if_neg (by simp), List.nil_append,
        collapse, words, hc, if_neg (by simp)]
      cases s with
      | nil => exact ⟨[], rfl, rfl⟩
      | cons d s =>
        rw [List.head?_cons, Option.any_some] at hsqueeze
        cases hwords : words (d :: s) with
        | nil =>
          rw [collapse, hwords] at hsqueeze
          refine ⟨squeeze (d :: s), ?_, rfl⟩
          rw [hsqueeze, isBlankText, List.all_append, List.all_append]
          split
          · exact htail
          · exact htail
        | cons w ws =>
          rw [collapse, hwords] at hsqueeze
          refine ⟨tail, htail, ?_⟩
          rw [hsqueeze]
          simp only [List.head?_cons]
          cases hd : isBlank d with
          | true => simp [joinWith]
          | false => simp [joinWith_cons_cons]

/-- Collapsing a text is making each run of its blanks one space and trimming what comes out. -/
theorem collapse_eq (s : Text) : collapse s = trim (squeeze s) := by
  obtain ⟨tail, htail, hsqueeze⟩ := squeeze_eq s
  rw [hsqueeze, trim_append_blanks _ (trimmed_collapse s) htail]
  split <;> rfl

end ResponsiveMarkup.Text
