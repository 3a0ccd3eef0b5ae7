import ResponsiveMarkup.Design.Validation
import ResponsiveMarkup.Proofs.Design.Slots
import ResponsiveMarkup.Proofs.Number.Doubles
import ResponsiveMarkup.Style.Box

/-!
How the measures of a layer that are reported as bad are drawn. A size that is negative or no number is drawn as zero. A
position is drawn as its offset from the frame, whatever its sign, so it is zero only if the offset is no number or too
small to be written.
-/

namespace ResponsiveMarkup

open Text Design

namespace Style

/-! ### Numbers written as zero -/

/-- Less than `num / den`, if it is a number. -/
def Below (num den : Nat) : Binary64 → Prop
  | .finite _ m q => den * (Binary64.fraction m q 0).1 < num * (Binary64.fraction m q 0).2
  | _ => True

/-- No number, or one so small that its thousandths are rounded to none. -/
def Vanishes (x : Float) : Prop :=
  (Binary64.ofFloat x).isFinite = true →
    Below wholeFrom 1 (Binary64.ofFloat x) ∧ Below 1 2 (Binary64.ofFloat (x * 1000))

theorem fraction_pos (m : Nat) (q : Int) : 0 < (Binary64.fraction m q 0).2 :=
  Nat.mul_pos (Nat.two_pow_pos _) (Nat.pow_pos (by decide))

theorem toDigits_eq_zero {n : Nat} (h : ∀ c ∈ Nat.toDigits 10 n, c = '0') : n = 0 := by
  rw [← Nat.ofDigitChars_ten_toDigits (n := n), List.eq_replicate_of_mem h, Nat.ofDigitChars_replicate_zero,
    Nat.mul_zero]

theorem signed_eq_zero_iff (negative : Bool) (s : Text) : signed negative s = ['0'] ↔ negative = false ∧ s = ['0'] := by
  cases negative <;> simp [signed]

/-- If all that is written is a zero, there are no digits but zeros on either side of the point. -/
theorem thousandths_eq_zero_iff (n : Nat) : thousandths n = ['0'] ↔ n = 0 := by
  constructor
  · intro h
    rw [thousandths] at h
    obtain ⟨d, ds, hdigits⟩ := List.exists_cons_of_ne_nil (Nat.toDigits_ne_nil (n := n / 1000) (b := 10))
    rw [hdigits, List.cons_append, List.cons.injEq, List.append_eq_nil_iff] at h
    obtain ⟨hzero, hnone, hplaces⟩ := h
    have hwhole : n / 1000 = 0 := by
      apply toDigits_eq_zero
      rw [hdigits, hnone, hzero]
      exact List.forall_mem_singleton.mpr rfl
    have hpart : n % 1000 = 0 := by
      apply toDigits_eq_zero
      intro c hc
      split at hplaces
      · rename_i hempty
        have hall := List.dropWhile_eq_nil_iff.mp (List.isEmpty_iff.mp hempty)
        exact beq_iff_eq.mp (hall c (List.mem_reverse.mpr (List.mem_append_right _ hc)))
      · cases hplaces
    omega
  · rintro rfl
    decide

theorem number_eq_zero_iff (x : Float) : number x = ['0'] ↔ Vanishes x := by
  rw [number, Vanishes]
  cases Binary64.ofFloat x with
  | nan => exact iff_of_true rfl Bool.noConfusion
  | infinite negative => exact iff_of_true rfl Bool.noConfusion
  | finite negative m q =>
    have hden := fraction_pos m q
    simp only [Below, Binary64.isFinite, true_imp_iff, Nat.one_mul]
    generalize Binary64.fraction m q 0 = share at hden ⊢
    by_cases hlarge : wholeFrom * share.2 ≤ share.1
    · -- a whole number of twelve digits and more
      have hwhole : roundDiv .toEven share.1 share.2 ≠ 0 := by
        have hquotient : wholeFrom ≤ share.1 / share.2 := (Nat.le_div_iff_mul_le hden).mpr hlarge
        have hround := le_roundDiv .toEven share.1 share.2
        have hpos : 0 < wholeFrom := by decide
        omega
      have hwritten : signed negative (Nat.toDigits 10 (roundDiv .toEven share.1 share.2)) ≠ ['0'] := by
        intro h
        apply hwhole
        apply toDigits_eq_zero
        rw [((signed_eq_zero_iff _ _).mp h).2]
        exact List.forall_mem_singleton.mpr rfl
      rw [if_pos hlarge]
      exact iff_of_false hwritten fun h => Nat.not_lt.mpr hlarge h.1
    · rw [if_neg hlarge, and_iff_right (Nat.not_le.mp hlarge)]
      cases Binary64.ofFloat (x * 1000) with
      | nan => exact iff_of_true rfl trivial
      | infinite negative => exact iff_of_true rfl trivial
      | finite negative n p =>
        simp only [signed_eq_zero_iff, thousandths_eq_zero_iff]
        rw [← roundDiv_away_eq_zero_iff, and_iff_right_iff_imp]
        intro hzero
        rw [hzero]
        exact Bool.and_false negative

/-- The token that draws a measure as zero. -/
def zeroToken (name : String) : Text := bracketed name "0px".toList

theorem px_eq_zero_iff (x : Float) : px x = "0px".toList ↔ Vanishes x := by
  have hzero : "0px".toList = ['0'] ++ "px".toList := by decide
  rw [← number_eq_zero_iff, px, hzero, List.append_left_inj]

/-- The names in front of the brackets tell the tokens of a box apart. -/
theorem bracketed_mem_boxTokens (l : Layer) (f : Frame) (p : Text) :
    (bracketed "left" p ∈ boxTokens l f ↔ p = px (position (l.x - f.x))) ∧
    (bracketed "top" p ∈ boxTokens l f ↔ p = px (position (l.y - f.y))) ∧
    (bracketed "w" p ∈ boxTokens l f ↔ p = px (extent l.w)) ∧
    (bracketed "h" p ∈ boxTokens l f ↔ p = px (extent l.h)) := by
  simp [boxTokens, bracketed]

end Style

/-! ### Reported measures -/

namespace Design

def Finding.measures : Finding → List (String × Float)
  | .badGeometry _ measures => measures
  | _ => []

/-- The measures of a node that its findings list. -/
def Node.reported (n : Node) : List (String × Float) := (checkNode n).flatMap Finding.measures

/-- The measures of a layer, by their names. -/
def Layer.measures (l : Layer) : List (String × Float) := [("x", l.x), ("y", l.y), ("w", l.w), ("h", l.h)]

theorem Node.reported_eq (n : Node) : n.reported = n.layer.measures.filter fun m => isBadMeasure m.2 := by
  have htext : (checkText n).flatMap Finding.measures = [] := by
    rw [checkText]
    split <;> rfl
  have himage : (checkImage n.layer).flatMap Finding.measures = [] := by
    rw [checkImage]
    split <;> rfl
  rw [Node.reported, checkNode, List.flatMap_append, List.flatMap_append, htext, himage, List.nil_append,
    List.append_nil, checkGeometry, ← Layer.measures]
  split
  · rename_i hempty
    exact (List.isEmpty_iff.mp hempty).symm
  · exact List.append_nil _

end Design

namespace Style

theorem px_extent_of_bad {x : Float} (h : isBadMeasure x = true) : px (extent x) = "0px".toList := by
  have hbad : ¬ (x.isFinite && x > 0) = true := by
    rw [Bool.and_eq_true, decide_eq_true_eq]
    rintro ⟨hfinite, hpos⟩
    rcases Bool.or_eq_true_iff.mp h with hbad | hbad
    · rw [hfinite] at hbad
      cases hbad
    · exact Doubles.not_pos_of_neg (of_decide_eq_true hbad) hpos
  rw [extent, if_neg hbad]
  decide +kernel

theorem px_position_of_no_number {x : Float} (h : x.isFinite = false) (origin : Float) :
    px (position (x - origin)) = "0px".toList := by
  rw [position, Doubles.isFinite_sub h origin, if_neg Bool.false_ne_true]
  decide +kernel

/-- Of the measures that are reported the sizes are drawn as zero, and a position is if it is no number. Any other
position is drawn as its offset, which is zero exactly if nothing is left of it at three decimals. -/
theorem reported_measures_drawn (n : Node) (f : Frame) :
    (∀ v, ("w", v) ∈ n.reported → zeroToken "w" ∈ boxTokens n.layer f) ∧
    (∀ v, ("h", v) ∈ n.reported → zeroToken "h" ∈ boxTokens n.layer f) ∧
    (∀ v, ("x", v) ∈ n.reported → (v.isFinite = false → zeroToken "left" ∈ boxTokens n.layer f) ∧
      (zeroToken "left" ∈ boxTokens n.layer f ↔ Vanishes (position (v - f.x)))) ∧
    ∀ v, ("y", v) ∈ n.reported → (v.isFinite = false → zeroToken "top" ∈ boxTokens n.layer f) ∧
      (zeroToken "top" ∈ boxTokens n.layer f ↔ Vanishes (position (v - f.y))) := by
  obtain ⟨hleft, htop, hwidth, hheight⟩ := bracketed_mem_boxTokens n.layer f "0px".toList
  have hreported : ∀ m, m ∈ n.reported ↔ m ∈ n.layer.measures ∧ isBadMeasure m.2 = true := by
    intro m
    rw [Node.reported_eq, List.mem_filter]
  simp only [hreported, zeroToken, hleft, htop, hwidth, hheight, ← px_eq_zero_iff]
  refine ⟨?_, ?_, ?_, ?_⟩
  · rintro v ⟨hv, hbad⟩
    have hw : v = n.layer.w := by simpa [Layer.measures] using hv
    exact (px_extent_of_bad (hw ▸ hbad)).symm
  · rintro v ⟨hv, hbad⟩
    have hh : v = n.layer.h := by simpa [Layer.measures] using hv
    exact (px_extent_of_bad (hh ▸ hbad)).symm
  · rintro v ⟨hv, -⟩
    have hx : v = n.layer.x := by simpa [Layer.measures] using hv
    subst hx
    exact ⟨fun hnone => (px_position_of_no_number hnone f.x).symm, eq_comm⟩
  · rintro v ⟨hv, -⟩
    have hy : v = n.layer.y := by simpa [Layer.measures] using hv
    subst hy
    exact ⟨fun hnone => (px_position_of_no_number hnone f.y).symm, eq_comm⟩

/-- A box that stands out on the left of its frame. -/
def leftOut : Node := .mk { bareLayer "n" with x := -4 } []

/-- Not every reported measure is drawn as zero: a negative position is drawn as it is. -/
theorem negative_position_drawn : ¬ ∀ (n : Node) (f : Frame),
    ∀ p ∈ [("x", "left"), ("y", "top"), ("w", "w"), ("h", "h")], ∀ v, (p.1, v) ∈ n.reported →
      zeroToken p.2 ∈ boxTokens n.layer f := by
  intro h
  have hreported : ("x", (-4 : Float)) ∈ leftOut.reported := by
    rw [Node.reported_eq]
    exact List.mem_filter.mpr ⟨List.mem_cons_self, by decide +kernel⟩
  have hdrawn : zeroToken "left" ∉ boxTokens leftOut.layer ⟨0, 0, 8, 8⟩ := by decide +kernel
  exact hdrawn (h leftOut ⟨0, 0, 8, 8⟩ ("x", "left") List.mem_cons_self (-4) hreported)

end Style

end ResponsiveMarkup
