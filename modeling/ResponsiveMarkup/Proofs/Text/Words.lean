import Mathlib.Data.List.Basic
import ResponsiveMarkup.Proofs.Text.Cutting

/-!
Words and joining. The words of a text hold no blank and are not empty, and such words, joined by spaces, are
the words of the joined text, which has no blank at either end.
-/

namespace ResponsiveMarkup.Text

def IsWord (w : Text) : Prop := w ≠ [] ∧ ∀ c ∈ w, isBlank c = false

/-- No blank is in the text. -/
def Unbroken (s : Text) : Prop := ∀ c ∈ s, isBlank c = false

instance (s : Text) : Decidable (Unbroken s) :=
  decidable_of_iff (s.all (fun c => !isBlank c) = true) (by simp [Unbroken])

instance (w : Text) : Decidable (IsWord w) := inferInstanceAs (Decidable (w ≠ [] ∧ Unbroken w))

theorem Unbroken.append {s t : Text} (hs : Unbroken s) (ht : Unbroken t) : Unbroken (s ++ t) :=
  List.forall_mem_append.mpr ⟨hs, ht⟩

theorem IsWord.append {w s : Text} (hw : IsWord w) (hs : Unbroken s) : IsWord (w ++ s) :=
  ⟨List.append_ne_nil_of_left_ne_nil hw.1 s, Unbroken.append hw.2 hs⟩

theorem isBlank_space : isBlank ' ' = true := by decide

theorem words_cons_blank {c : Char} (h : isBlank c = true) (s : Text) : words (c :: s) = words s := by
  rw [words, if_pos h]

/-- A word that a blank or the end follows is the first of the words. -/
theorem words_append {w f : Text} (hw : IsWord w) (hf : ∀ c ∈ f.head?, isBlank c = true) :
    words (w ++ f) = w :: words f := by
  obtain ⟨hne, hchars⟩ := hw
  induction w with
  | nil => exact absurd rfl hne
  | cons c w ih =>
    have hc : isBlank c = false := hchars c List.mem_cons_self
    rw [List.cons_append, words, hc, if_neg (by simp)]
    cases w with
    | nil =>
      cases f with
      | nil => rfl
      | cons d f =>
        have hd : isBlank d = true := hf d rfl
        cases hwords : words (d :: f) with
        | nil => simp [hwords]
        | cons v vs => simp [hwords, hd]
    | cons d w =>
      have hd : isBlank d = false := hchars d (by simp)
      rw [ih (by simp) fun e he => hchars e (List.mem_cons_of_mem c he)]
      simp [hd]

theorem words_joinWith {ws : List Text} (h : ∀ w ∈ ws, IsWord w) : words (joinWith [' '] ws) = ws := by
  induction ws with
  | nil => rfl
  | cons w ws ih =>
    have hw := h w List.mem_cons_self
    have hws := ih fun v hv => h v (List.mem_cons_of_mem w hv)
    cases ws with
    | nil =>
      have := words_append hw (f := []) (by simp)
      rw [List.append_nil] at this
      exact this
    | cons v vs =>
      rw [joinWith, List.append_assoc, List.singleton_append, words_append hw (by simp [isBlank_space]),
        words_cons_blank isBlank_space, hws]

theorem IsWord.words_eq {w : Text} (h : IsWord w) : words w = [w] := by
  have hself : words (joinWith [' '] [w]) = [w] := words_joinWith (by simpa using h)
  rwa [joinWith_singleton] at hself

theorem IsWord.collapse_eq {w : Text} (h : IsWord w) : collapse w = w := by
  rw [collapse, h.words_eq, joinWith_singleton]

/-- A character that is no blank is a word of its own or begins the word behind it. -/
theorem words_cons {c : Char} (h : isBlank c = false) (s : Text) :
    words (c :: s) = [c] :: words s ∨ ∃ w ws, words s = w :: ws ∧ words (c :: s) = (c :: w) :: ws := by
  rw [words, h, if_neg (by simp)]
  split
  · rename_i d w ws _ hwords
    split
    · exact Or.inl (by rw [hwords])
    · exact Or.inr ⟨w, ws, hwords, rfl⟩
  · exact Or.inl rfl

theorem isWord_of_mem_words {s w : Text} (h : w ∈ words s) : IsWord w ∧ ∀ c ∈ w, c ∈ s := by
  induction s generalizing w with
  | nil => cases h
  | cons c s ih =>
    have hlater {v : Text} (hv : v ∈ words s) : IsWord v ∧ ∀ d ∈ v, d ∈ c :: s :=
      ⟨(ih hv).1, fun d hd => List.mem_cons_of_mem c ((ih hv).2 d hd)⟩
    by_cases hc : isBlank c = true
    · rw [words_cons_blank hc] at h
      exact hlater h
    · rw [Bool.not_eq_true] at hc
      rcases words_cons hc s with heq | ⟨v, vs, hwords, heq⟩
      · rw [heq] at h
        rcases List.mem_cons.mp h with rfl | h
        · simp [IsWord, hc]
        · exact hlater h
      · rw [heq] at h
        rcases List.mem_cons.mp h with rfl | h
        · obtain ⟨⟨-, hchars⟩, hsub⟩ := hlater (v := v) (by rw [hwords]; exact List.mem_cons_self)
          refine ⟨⟨by simp, fun d hd => ?_⟩, fun d hd => ?_⟩
          · rcases List.mem_cons.mp hd with rfl | hd
            · exact hc
            · exact hchars d hd
          · rcases List.mem_cons.mp hd with rfl | hd
            · exact List.mem_cons_self
            · exact hsub d hd
        · exact hlater (by rw [hwords]; exact List.mem_cons_of_mem v h)

theorem words_eq_nil_iff {s : Text} : words s = [] ↔ isBlankText s = true := by
  induction s with
  | nil => simp [words, isBlankText]
  | cons c s ih =>
    by_cases hc : isBlank c = true
    · rw [words_cons_blank hc, ih]
      simp [isBlankText, hc]
    · have hblank : isBlankText (c :: s) = false := by simp [isBlankText, hc]
      rw [Bool.not_eq_true] at hc
      rw [hblank]
      rcases words_cons hc s with heq | ⟨v, vs, -, heq⟩ <;> simp [heq]

theorem mem_joinWith {sep : Text} {ws : List Text} {c : Char} (h : c ∈ joinWith sep ws) :
    c ∈ sep ∨ ∃ w ∈ ws, c ∈ w := by
  induction ws with
  | nil => cases h
  | cons w ws ih =>
    cases ws with
    | nil => exact Or.inr ⟨w, List.mem_cons_self, h⟩
    | cons v vs =>
      rw [joinWith, List.mem_append, List.mem_append] at h
      rcases h with (h | h) | h
      · exact Or.inr ⟨w, List.mem_cons_self, h⟩
      · exact Or.inl h
      · rcases ih h with h | ⟨u, hu, hc⟩
        · exact Or.inl h
        · exact Or.inr ⟨u, List.mem_cons_of_mem w hu, hc⟩

theorem unbroken_joinWith {sep : Text} {ts : List Text} (hsep : Unbroken sep) (h : ∀ t ∈ ts, Unbroken t) :
    Unbroken (joinWith sep ts) := by
  intro c hc
  rcases mem_joinWith hc with hc | ⟨t, ht, hc⟩
  · exact hsep c hc
  · exact h t ht c hc

theorem mem_joinWith_of_mem {sep w : Text} {ws : List Text} {c : Char} (hw : w ∈ ws) (hc : c ∈ w) :
    c ∈ joinWith sep ws := by
  induction ws with
  | nil => cases hw
  | cons v ws ih =>
    cases ws with
    | nil =>
      rw [List.mem_singleton.mp hw] at hc
      exact hc
    | cons u us =>
      rw [joinWith, List.mem_append, List.mem_append]
      rcases List.mem_cons.mp hw with rfl | hw
      · exact Or.inl (Or.inl hc)
      · exact Or.inr (ih hw)

theorem words_append_blank {b : Char} (hb : isBlank b = true) (s t : Text) :
    words (s ++ b :: t) = words s ++ words t := by
  induction s with
  | nil => exact words_cons_blank hb t
  | cons c s ih =>
    by_cases hc : isBlank c = true
    · rw [List.cons_append, words_cons_blank hc, words_cons_blank hc, ih]
    · rw [Bool.not_eq_true] at hc
      rw [List.cons_append, words, words, hc, if_neg (by simp), if_neg (by simp), ih]
      cases s with
      | nil =>
        have hnone : words [] = [] := rfl
        rw [List.nil_append, List.head?_cons, List.head?_nil, hnone, List.nil_append]
        cases words t with
        | nil => rfl
        | cons w ws => simp [hb]
      | cons d s =>
        rw [List.cons_append, List.head?_cons, List.head?_cons]
        cases hwords : words (d :: s) with
        | nil =>
          have hd : isBlank d = true := by
            have hblank := words_eq_nil_iff.mp hwords
            simp only [isBlankText, List.all_cons, Bool.and_eq_true] at hblank
            exact hblank.1
          cases words t with
          | nil => rfl
          | cons w ws => simp [hd]
        | cons w ws =>
          by_cases hd : isBlank d = true
          · simp [hd]
          · simp [hd]

/-- The words of joined texts are those of each text, in order. -/
theorem words_joinWith_flatMap (ts : List Text) : words (joinWith [' '] ts) = ts.flatMap words := by
  induction ts with
  | nil => rfl
  | cons t ts ih =>
    cases ts with
    | nil => rw [joinWith_singleton, List.flatMap_singleton]
    | cons u us =>
      rw [joinWith, List.append_assoc, List.singleton_append, words_append_blank isBlank_space, ih]
      rfl

/-- The text has no blank at either end. -/
structure Trimmed (s : Text) : Prop where
  head : ∀ c ∈ s.head?, isBlank c = false
  last : ∀ c ∈ s.getLast?, isBlank c = false

theorem trimmed_ends {a z : Char} (ha : isBlank a = false) (hz : isBlank z = false) (m : Text) :
    Trimmed (a :: m ++ [z]) := by
  constructor
  · intro c hc
    cases hc
    exact ha
  · intro c hc
    rw [List.getLast?_concat] at hc
    cases hc
    exact hz

theorem Trimmed.trim_eq {s : Text} (h : Trimmed s) : trim s = s := by
  rw [trim, trimStart, dropWhile_eq_self h.head, trimEnd, dropWhile_eq_self, List.reverse_reverse]
  rw [List.head?_reverse]
  exact h.last

theorem trim_prefix (s : Text) : trim s <+: trimStart s := by
  rw [trim, trimEnd, ← List.reverse_suffix, List.reverse_reverse]
  exact List.dropWhile_suffix _

theorem trimmed_trim (s : Text) : Trimmed (trim s) := by
  constructor
  · intro c hc
    obtain ⟨rest, hrest⟩ := trim_prefix s
    have hstart : c ∈ (trimStart s).head? := by
      rw [← hrest, List.head?_append, Option.mem_def.mp hc]
      rfl
    exact head_dropWhile_false c hstart
  · intro c hc
    rw [trim, trimEnd, List.getLast?_reverse] at hc
    exact head_dropWhile_false c hc

theorem Trimmed.isBlankText_eq {s : Text} (h : Trimmed s) : isBlankText s = s.isEmpty := by
  cases s with
  | nil => rfl
  | cons c s => simp [isBlankText, h.head c rfl]

theorem IsWord.trimmed {w : Text} (h : IsWord w) : Trimmed w :=
  ⟨fun c hc => h.2 c (List.mem_of_mem_head? hc), fun c hc => h.2 c (List.mem_of_mem_getLast? hc)⟩

theorem Trimmed.append {s t : Text} (m : Text) (hs : Trimmed s) (ht : Trimmed t) (hne : s ≠ []) (hne' : t ≠ []) :
    Trimmed (s ++ m ++ t) := by
  constructor
  · intro c hc
    rw [List.append_assoc, List.head?_append_of_ne_nil _ hne] at hc
    exact hs.head c hc
  · intro c hc
    rw [List.getLast?_append_of_ne_nil _ hne'] at hc
    exact ht.last c hc

theorem joinWith_ne_nil (sep : Text) {w : Text} (ws : List Text) (h : w ≠ []) : joinWith sep (w :: ws) ≠ [] := by
  cases ws with
  | nil => exact h
  | cons v vs => simp [joinWith, h]

theorem trimmed_joinWith {ws : List Text} (h : ∀ w ∈ ws, IsWord w) : Trimmed (joinWith [' '] ws) := by
  induction ws with
  | nil => exact ⟨by simp, by simp⟩
  | cons w ws ih =>
    have hw := h w List.mem_cons_self
    cases ws with
    | nil => exact hw.trimmed
    | cons v vs =>
      have hne := joinWith_ne_nil [' '] vs (h v (by simp)).1
      exact hw.trimmed.append [' '] (ih fun u hu => h u (List.mem_cons_of_mem w hu)) hw.1 hne

theorem trimmed_collapse (s : Text) : Trimmed (collapse s) :=
  trimmed_joinWith fun _ hw => (isWord_of_mem_words hw).1

theorem collapse_eq_nil_iff {s : Text} : collapse s = [] ↔ isBlankText s = true := by
  rw [← words_eq_nil_iff, collapse]
  cases hwords : words s with
  | nil => simp
  | cons w ws =>
    have hword : w ∈ words s := by rw [hwords]; exact List.mem_cons_self
    simp [joinWith_ne_nil [' '] ws (isWord_of_mem_words hword).1.1]

end ResponsiveMarkup.Text
