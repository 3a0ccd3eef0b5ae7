import Mathlib.Data.List.Infix
import ResponsiveMarkup.Proofs.Text.Words
import ResponsiveMarkup.Text.Lowercase

/-!
Stretches of a text. A stretch lies on one side of a character that it does not hold, so joining texts by such a
character makes none that was not there; taking a text apart into words makes none at all; and lowering the case of a
text makes those that lowering its characters one by one makes, as long as no sigma is in them.
-/

namespace ResponsiveMarkup.Text

variable {w : Text}

theorem infix_append_cons {c : Char} (hc : c ∉ w) (a b : Text) : w <:+: a ++ c :: b ↔ w <:+: a ∨ w <:+: b := by
  constructor
  · intro h
    rw [List.infix_append_iff, List.infix_cons_iff] at h
    rcases h with h | (h | h) | ⟨l, r, rfl, hl, hr⟩
    · exact Or.inl h
    · cases w with
      | nil => exact Or.inl List.nil_infix
      | cons d w =>
        obtain ⟨rfl, -⟩ := List.cons_prefix_cons.mp h
        exact absurd List.mem_cons_self hc
    · exact Or.inr h
    · cases r with
      | nil =>
        rw [List.append_nil]
        exact Or.inl hl.isInfix
      | cons d r =>
        obtain ⟨rfl, -⟩ := List.cons_prefix_cons.mp hr
        exact absurd (List.mem_append_right l List.mem_cons_self) hc
  · rintro (h | h)
    · exact h.trans (List.prefix_append a (c :: b)).isInfix
    · exact h.trans ((List.suffix_cons c b).trans (List.suffix_append a (c :: b))).isInfix

theorem infix_joinWith {c : Char} (hc : c ∉ w) (hw : w ≠ []) {ts : List Text} :
    w <:+: joinWith [c] ts ↔ ∃ t ∈ ts, w <:+: t := by
  induction ts with
  | nil => simp [hw]
  | cons t ts ih =>
    cases ts with
    | nil => simp
    | cons u us =>
      rw [joinWith, List.append_assoc, List.singleton_append, infix_append_cons hc, ih]
      simp only [List.mem_cons, exists_eq_or_imp]

/-- What begins without a blank begins with its first word. -/
theorem words_cut {c : Char} (hc : isBlank c = false) (s : Text) :
    words (c :: s) = (c :: s.takeWhile fun d => !isBlank d) :: words (s.dropWhile fun d => !isBlank d) := by
  have hsplit : c :: s = (c :: s.takeWhile fun d => !isBlank d) ++ s.dropWhile fun d => !isBlank d := by
    rw [List.cons_append, List.takeWhile_append_dropWhile]
  have hword : IsWord (c :: s.takeWhile fun d => !isBlank d) := by
    refine ⟨List.cons_ne_nil _ _, fun d hd => ?_⟩
    rcases List.mem_cons.mp hd with rfl | hd
    · exact hc
    · simpa using takeWhile_true d hd
  have hrest : ∀ d ∈ (s.dropWhile fun d => !isBlank d).head?, isBlank d = true := by
    intro d hd
    simpa using head_dropWhile_false d hd
  conv_lhs => rw [hsplit]
  exact words_append hword hrest

theorem infix_of_mem_words {s : Text} (h : w ∈ words s) : w <:+: s := by
  -- On the length: behind a word the text goes on with what dropping its characters leaves.
  induction hlen : s.length using Nat.strong_induction_on generalizing s with
  | _ n ih =>
    cases s with
    | nil => cases h
    | cons c s =>
      have htail : s <:+: c :: s := (List.suffix_cons c s).isInfix
      by_cases hc : isBlank c = true
      · rw [words_cons_blank hc] at h
        exact (ih s.length (by simp [← hlen]) h rfl).trans htail
      · rw [Bool.not_eq_true] at hc
        rw [words_cut hc] at h
        rcases List.mem_cons.mp h with rfl | h
        · exact (List.prefix_cons_inj c |>.mpr (List.takeWhile_prefix _)).isInfix
        · have hrest := List.dropWhile_suffix (l := s) fun d => !isBlank d
          have hlt : (s.dropWhile fun d => !isBlank d).length < n := by
            have hle := hrest.length_le
            rw [List.length_cons] at hlen
            omega
          exact ((ih _ hlt h rfl).trans hrest.isInfix).trans htail

theorem infix_trim (s : Text) : trim s <:+: s := by
  have hfront := trim_prefix s
  exact hfront.isInfix.trans (List.dropWhile_suffix _).isInfix

/-- A stretch of the images is one of the text if its own characters are images of themselves only. -/
theorem infix_of_infix_map {f : Char → Char} (hf : ∀ c, f c ∈ w → f c = c) {s : Text} (h : w <:+: s.map f) :
    w <:+: s := by
  obtain ⟨a, b, heq⟩ := h
  obtain ⟨front, back, rfl, hfront, -⟩ := List.map_eq_append_iff.mp heq.symm
  obtain ⟨first, middle, rfl, -, rfl⟩ := List.map_eq_append_iff.mp hfront
  have hsame : ∀ c ∈ middle, f c = c := fun c hc => hf c (List.mem_map_of_mem hc)
  rw [List.map_congr_left hsame, List.map_id']
  exact ⟨first, back, rfl⟩

/-! ### Lower case -/

/-- Neither form of a small sigma is in the text. -/
def NoSigma (s : Text) : Prop := 'σ' ∉ s ∧ 'ς' ∉ s

theorem NoSigma.infix_map_iff (h : NoSigma w) {s : Text} : w <:+: s.map usualSigma ↔ w <:+: s := by
  constructor
  · refine infix_of_infix_map fun c hc => ?_
    rw [usualSigma] at hc ⊢
    split
    · rename_i hfinal
      rw [if_pos hfinal] at hc
      exact absurd hc h.1
    · rfl
  · intro hin
    have hsame : ∀ c ∈ w, usualSigma c = c := fun c hc => if_neg (by rintro rfl; exact h.2 hc)
    have hmap := hin.map usualSigma
    rwa [List.map_congr_left hsame, List.map_id'] at hmap

theorem NoSigma.infix_lowercase_iff (h : NoSigma w) {s : Text} :
    w <:+: lowercase s ↔ w <:+: s.flatMap fun c => (lowercase [c]).map usualSigma := by
  rw [← map_usualSigma_lowercase, h.infix_map_iff]

/-- A stretch of a text is lowered as the text is. -/
theorem NoSigma.infix_lowercase (h : NoSigma w) {s t : Text} (hst : s <:+: t) (hw : w <:+: lowercase s) :
    w <:+: lowercase t := by
  rw [h.infix_lowercase_iff] at hw ⊢
  exact hw.trans (hst.flatMap _)

/-- The lower-case forms in the table lie behind the capitals of ASCII. -/
theorem lowerRuns_behind : ∀ r ∈ lowerRuns, 90 < (r.first : Int) + r.shift := by decide +kernel

theorem isUpper_iff {c : Char} : c.isUpper = true ↔ 65 ≤ c.toNat ∧ c.toNat ≤ 90 := by
  have hdef : c.isUpper = decide (c.val ≥ 'A'.val ∧ c.val ≤ 'Z'.val) := rfl
  rw [hdef, decide_eq_true_eq, ge_iff_le, UInt32.le_iff_toNat_le, UInt32.le_iff_toNat_le]
  exact Iff.rfl

theorem isUpper_of_behind {c : Char} (h : 90 < c.toNat) : c.isUpper = false := by
  rw [← Bool.not_eq_true, isUpper_iff]
  omega

theorem isUpper_ofNat {n : Nat} (h : 90 < n) : (Char.ofNat n).isUpper = false := by
  by_cases hvalid : n.isValidChar
  · have hval : (Char.ofNat n).toNat = n := congrArg Char.toNat (dif_pos hvalid)
    exact isUpper_of_behind (by omega)
  · have hnull : Char.ofNat n = Char.ofNat 0 := dif_neg hvalid
    rw [hnull]
    rfl

/-- A capital of ASCII is lowered by thirty-two. -/
theorem toNat_toLower_of_upper {c : Char} (h : c.val ≥ 'A'.val ∧ c.val ≤ 'Z'.val) :
    c.toLower.toNat = c.toNat + 32 := by
  have hupper := isUpper_iff.mp (decide_eq_true h)
  have hlow : c.toLower.toNat = (c.val + 32).toNat := congrArg Char.toNat (dif_pos h)
  have hval : c.val.toNat = c.toNat := rfl
  have hnumber : (32 : UInt32).toNat = 32 := rfl
  rw [UInt32.toNat_add, hval, hnumber] at hlow
  omega

theorem isUpper_toLower (c : Char) : c.toLower.isUpper = false := by
  by_cases h : c.val ≥ 'A'.val ∧ c.val ≤ 'Z'.val
  · have hupper := isUpper_iff.mp (decide_eq_true h)
    have hlow := toNat_toLower_of_upper h
    exact isUpper_of_behind (by omega)
  · have hsame : c.toLower = c := dif_neg h
    rw [hsame]
    exact decide_eq_false h

/-- How a character is lowered: within ASCII, by a run of the table, or not at all. -/
theorem lowerChar_cases (c : Char) : (c.toNat < 0x80 ∧ lowerChar c = c.toLower) ∨ (0x80 ≤ c.toNat ∧ lowerChar c = c) ∨
    ∃ r ∈ lowerRuns, r.first ≤ c.toNat ∧ c.toNat ≤ r.last ∧
      lowerChar c = Char.ofNat (c.toNat + r.shift).toNat := by
  by_cases hascii : c.toNat < 0x80
  · exact Or.inl ⟨hascii, if_pos hascii⟩
  · rw [lowerChar, if_neg hascii]
    split
    · rename_i r hr
      have hin := List.find?_some hr
      simp only [Bool.and_eq_true, decide_eq_true_eq] at hin
      exact Or.inr (Or.inr ⟨r, List.mem_of_find?_eq_some hr, hin.1.1, hin.1.2, rfl⟩)
    · exact Or.inr (Or.inl ⟨Nat.le_of_not_lt hascii, rfl⟩)

theorem isUpper_lowerChar (c : Char) : (lowerChar c).isUpper = false := by
  rcases lowerChar_cases c with ⟨-, h⟩ | ⟨hbeyond, h⟩ | ⟨r, hr, hfirst, -, h⟩
  · rw [h]
    exact isUpper_toLower c
  · rw [h]
    exact isUpper_of_behind (by omega)
  · have hbehind := lowerRuns_behind r hr
    rw [h]
    exact isUpper_ofNat (by omega)

theorem isUpper_lowercase_singleton {c d : Char} (h : d ∈ lowercase [c]) : d.isUpper = false := by
  rw [lowercase_singleton] at h
  split at h
  · rw [List.mem_singleton.mp h]
    decide
  · split at h
    · rcases List.mem_pair.mp h with rfl | rfl <;> decide
    · rw [List.mem_singleton.mp h]
      exact isUpper_lowerChar c

/-- No capital of ASCII is left. -/
theorem isUpper_lowercase {s : Text} {c : Char} (h : c ∈ lowercase s) : c.isUpper = false := by
  have hsigma : ∀ d : Char, (usualSigma d).isUpper = d.isUpper := by
    intro d
    rw [usualSigma]
    split
    · rename_i hfinal
      rw [hfinal]
      decide
    · rfl
  have hmap := List.mem_map_of_mem (f := usualSigma) h
  rw [map_usualSigma_lowercase, List.mem_flatMap] at hmap
  obtain ⟨d, -, hd⟩ := hmap
  obtain ⟨low, hlow, hsame⟩ := List.mem_map.mp hd
  rw [← hsigma, ← hsame, hsigma]
  exact isUpper_lowercase_singleton hlow

/-! ### Blanks in lower case -/

/-- The characters of the table are no blanks, nor are the ones they are lowered to. -/
theorem lowerRuns_blankless : ∀ r ∈ lowerRuns, ∀ b ∈ blankRanges,
    (b.2 < r.first ∨ r.last < b.1) ∧ ((b.2 : Int) < r.first + r.shift ∨ r.last + r.shift < (b.1 : Int)) := by
  decide +kernel

theorem isBlank_eq_false_iff {c : Char} : isBlank c = false ↔ ∀ b ∈ blankRanges, c.toNat < b.1 ∨ b.2 < c.toNat := by
  rw [isBlank, List.any_eq_false]
  refine forall₂_congr fun b _ => ?_
  rw [Bool.and_eq_true, decide_eq_true_eq, decide_eq_true_eq]
  omega

theorem isBlank_ofNat {n : Nat} (h : ∀ b ∈ blankRanges, n < b.1 ∨ b.2 < n) : isBlank (Char.ofNat n) = false := by
  by_cases hvalid : n.isValidChar
  · have hval : (Char.ofNat n).toNat = n := congrArg Char.toNat (dif_pos hvalid)
    rw [isBlank_eq_false_iff, hval]
    exact h
  · have hnull : Char.ofNat n = Char.ofNat 0 := dif_neg hvalid
    rw [hnull]
    rfl

theorem isBlank_toLower (c : Char) : isBlank c.toLower = isBlank c := by
  by_cases h : c.val ≥ 'A'.val ∧ c.val ≤ 'Z'.val
  · have hletters : ∀ b ∈ blankRanges, b.2 < 65 ∨ 122 < b.1 := by decide
    have hupper := isUpper_iff.mp (decide_eq_true h)
    have hlow := toNat_toLower_of_upper h
    have hupperBlank : isBlank c = false := by
      rw [isBlank_eq_false_iff]
      intro b hb
      have hapart := hletters b hb
      omega
    rw [hupperBlank, isBlank_eq_false_iff]
    intro b hb
    have hapart := hletters b hb
    omega
  · have hsame : c.toLower = c := dif_neg h
    rw [hsame]

theorem isBlank_lowerChar (c : Char) : isBlank (lowerChar c) = isBlank c := by
  rcases lowerChar_cases c with ⟨-, h⟩ | ⟨-, h⟩ | ⟨r, hr, hfirst, hlast, h⟩
  · rw [h, isBlank_toLower]
  · rw [h]
  · have hlow : isBlank (lowerChar c) = false := by
      rw [h]
      have hbehind := lowerRuns_behind r hr
      refine isBlank_ofNat fun b hb => ?_
      have hshifted := (lowerRuns_blankless r hr b hb).2
      omega
    rw [hlow, eq_comm, isBlank_eq_false_iff]
    intro b hb
    have hapart := (lowerRuns_blankless r hr b hb).1
    omega

theorem any_isBlank_lowercase_singleton (c : Char) : (lowercase [c]).any isBlank = isBlank c := by
  rw [lowercase_singleton]
  split
  · rename_i hsigma
    rw [hsigma]
    decide
  · split
    · rename_i hdotted
      rw [hdotted]
      decide
    · rw [List.any_cons, List.any_nil, Bool.or_false, isBlank_lowerChar]

/-- Lowering neither makes blanks nor takes them away. -/
theorem unbroken_lowercase_iff {s : Text} : Unbroken (lowercase s) ↔ Unbroken s := by
  have hany : ∀ t : Text, Unbroken t ↔ t.any isBlank = false := by
    intro t
    simp [Unbroken]
  have hsigma : isBlank ∘ usualSigma = isBlank := by
    funext d
    rw [Function.comp_apply, usualSigma]
    split
    · rename_i hfinal
      rw [hfinal]
      decide
    · rfl
  have hmap := congrArg (List.any · isBlank) (map_usualSigma_lowercase s)
  simp only [List.any_map, List.any_flatMap, hsigma, any_isBlank_lowercase_singleton] at hmap
  rw [hany, hany, hmap]

end ResponsiveMarkup.Text
