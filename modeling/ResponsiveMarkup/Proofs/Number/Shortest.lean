import Mathlib.Algebra.Order.Field.Power
import Mathlib.Tactic.FieldSimp
import Mathlib.Tactic.Linarith
import Mathlib.Tactic.NormNum
import Mathlib.Tactic.Positivity
import Mathlib.Tactic.Ring
import ResponsiveMarkup.Number.Shortest

/-!
The value of a shortest decimal. It is never greater than the midpoint to the next double, whichever number of digits
it takes.
-/

namespace ResponsiveMarkup

/-- A power with its exponent taken apart at zero. -/
theorem zpow_mul_pow_toNat {b : ℚ} (hb : b ≠ 0) (e : Int) : b ^ e * b ^ (-e).toNat = b ^ e.toNat := by
  rw [← zpow_natCast, ← zpow_natCast, ← zpow_add₀ hb]
  congr 1
  omega

namespace Decimal

def value (d : Decimal) : ℚ := d.digits * 10 ^ d.exponent

/-- Comparing in whole numbers is comparing the values. -/
theorem compareScaled_le {a n : Nat} {i j : Int} (h : compareScaled a i n j ≠ .gt) :
    (a : ℚ) * 10 ^ i ≤ n * 2 ^ j := by
  have hle : a * 10 ^ i.toNat * 2 ^ (-j).toNat ≤ n * 2 ^ j.toNat * 10 ^ (-i).toNat := by
    rw [compareScaled, Ne, Nat.compare_eq_gt] at h
    exact Nat.not_lt.mp h
  have hten := zpow_mul_pow_toNat (b := 10) (by norm_num) i
  have htwo := zpow_mul_pow_toNat (b := 2) (by norm_num) j
  have hscaled : (a : ℚ) * 10 ^ i * (10 ^ (-i).toNat * 2 ^ (-j).toNat) ≤
      n * 2 ^ j * (10 ^ (-i).toNat * 2 ^ (-j).toNat) := by
    calc (a : ℚ) * 10 ^ i * (10 ^ (-i).toNat * 2 ^ (-j).toNat)
        = a * (10 ^ i * 10 ^ (-i).toNat) * 2 ^ (-j).toNat := by ring
      _ = a * 10 ^ i.toNat * 2 ^ (-j).toNat := by rw [hten]
      _ ≤ n * 2 ^ j.toNat * 10 ^ (-i).toNat := by exact_mod_cast hle
      _ = n * (2 ^ j * 2 ^ (-j).toNat) * 10 ^ (-i).toNat := by rw [htwo]
      _ = n * 2 ^ j * (10 ^ (-i).toNat * 2 ^ (-j).toNat) := by ring
  exact le_of_mul_le_mul_right hscaled (by positivity)

/-- What reads back lies below the midpoint to the next double. -/
theorem value_le_of_readsBack {m : Nat} {q : Int} {d : Decimal} (h : readsBack m q d = true) :
    d.value ≤ ((4 * m + 2 : Nat) : ℚ) * 2 ^ (q - 2) := by
  have hbelow : compareScaled d.digits d.exponent (4 * m + 2) (q - 2) ≠ .gt := by
    simp only [readsBack, Bool.and_eq_true] at h
    intro hgt
    rw [hgt] at h
    simp at h
  exact compareScaled_le hbelow

theorem readsBack_of_withDigits? {tie : Tie} {m n : Nat} {q : Int} {d : Decimal}
    (h : withDigits? tie m q n = some d) : readsBack m q d = true := by
  -- the equation of the definition would have its powers computed
  delta withDigits? at h
  dsimp only at h
  generalize scale m q - n = grid at h
  generalize Binary64.fraction m q (-grid) = scaled at h
  have hmid := roundDiv_eq tie scaled.1 scaled.2
  cases hlow : readsBack m q ⟨scaled.1 / scaled.2, grid⟩ <;>
    cases hhigh : readsBack m q ⟨scaled.1 / scaled.2 + 1, grid⟩ <;>
    simp only [hlow, hhigh, Option.some.injEq, reduceCtorEq] at h
  · rw [← h]
    exact hhigh
  · rw [← h]
    exact hlow
  · rw [← h]
    rcases hmid with heq | heq
    · rw [heq]
      exact hlow
    · rw [heq]
      exact hhigh

theorem value_strip (d : Decimal) : (strip d).value = d.value := by
  fun_induction strip d with
  | case1 d h ih =>
    have hdigits : ((d.digits / 10 : Nat) : ℚ) * 10 = d.digits := by
      exact_mod_cast Nat.div_mul_cancel (Nat.dvd_of_mod_eq_zero h.2)
    rw [ih, value, value, zpow_add_one₀ (by norm_num), ← hdigits]
    ring
  | case2 d h => rfl

/-- The shortest decimal is at most halfway to the next double. -/
theorem value_shortest_le (tie : Tie) (m : Nat) (q : Int) :
    (shortest tie m q).value ≤ ((4 * m + 2 : Nat) : ℚ) * 2 ^ (q - 2) := by
  have hown : (m : ℚ) * 2 ^ q ≤ ((4 * m + 2 : Nat) : ℚ) * 2 ^ (q - 2) := by
    rw [zpow_sub₀ (by norm_num)]
    push_cast
    have : (0 : ℚ) < 2 ^ q := by positivity
    linarith
  rw [shortest]
  split
  · simp only [value, Nat.cast_zero, zero_mul]
    positivity
  · split
    · rename_i d hd
      obtain ⟨n, _, hn⟩ := List.exists_of_findSome?_eq_some hd
      rw [value_strip]
      exact value_le_of_readsBack (readsBack_of_withDigits? hn)
    · -- no number of digits will do: the decimal is exact
      refine le_of_eq_of_le ?_ hown
      split
      · rename_i hq
        have hpow : (2 : ℚ) ^ q.toNat = 2 ^ q := by
          rw [← zpow_natCast, Int.toNat_of_nonneg hq]
        simp only [value, Nat.pow_eq, Nat.cast_mul, Nat.cast_pow, Nat.cast_ofNat, zpow_zero, mul_one, hpow]
      · have hfive : (5 : ℚ) ^ (-q).toNat * 10 ^ q = 2 ^ q := by
          have hexp : (-q).toNat = -q := by omega
          rw [← zpow_natCast, hexp, show (10 : ℚ) = 5 * 2 by norm_num, mul_zpow, ← mul_assoc,
            ← zpow_add₀ (by norm_num), neg_add_cancel, zpow_zero, one_mul]
        simp only [value, Nat.pow_eq, Nat.cast_mul, Nat.cast_pow, Nat.cast_ofNat, mul_assoc, hfive]

end Decimal

end ResponsiveMarkup
