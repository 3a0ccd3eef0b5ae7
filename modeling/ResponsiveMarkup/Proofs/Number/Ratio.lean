import ResponsiveMarkup.Number.Ratio
import ResponsiveMarkup.Proofs.Number.Doubles
import ResponsiveMarkup.Proofs.Number.Rounding

/-!
Proper fractions as doubles: they lie above zero and not above one, and a greater numerator never gives a smaller
double.
-/

namespace ResponsiveMarkup

open Float.Model Float.Model.UnpackedFloat

namespace Ratio

variable {num den : Nat}

/-- The mantissa, with all its bits. -/
def mantissa (num den : Nat) : Nat := roundDiv .toEven (num * 2 ^ (halvings num den + 52)) den

/-- The bits of a positive normal double are its exponent and behind it its mantissa, less the first bit. -/
theorem unpack_eq {v : BitVec Format.binary64.numBits} {b : Nat} (hv : v.toNat = b) (low : 2 ^ 52 ≤ b)
    (high : b < 2047 * 2 ^ 52) (h : 0 < 2 ^ 52 + b % 2 ^ 52) : UnpackedFloat.unpack Format.binary64 v =
      .finite .positive (2 ^ 52 + b % 2 ^ 52) ((b / 2 ^ 52 : Nat) - (1023 + 52)) h := by
  subst hv
  have hmantissa : unpackMantissa v = BitVec.ofNat 52 (2 ^ 52 + v.toNat % 2 ^ 52) := by
    apply BitVec.eq_of_toNat_eq
    simp [unpackMantissa, BitVec.extractLsb]
  have hexponent : (unpackExponent v).toNat = v.toNat / 2 ^ 52 := by
    simp [unpackExponent, BitVec.extractLsb, Nat.shiftRight_eq_div_pow]
    omega
  have hsign : unpackSign v = 0#1 := by
    apply BitVec.eq_of_toNat_eq
    delta unpackSign
    simp [BitVec.extractLsb, Nat.shiftRight_eq_div_pow]
    omega
  have hspecial : unpackExponent v ≠ -1#11 := by
    intro heq
    have hall := congrArg BitVec.toNat heq
    rw [hexponent] at hall
    change v.toNat / 2 ^ 52 = 2047 at hall
    omega
  have hnormal : unpackExponent v ≠ 0#11 := by
    intro heq
    have hzero := congrArg BitVec.toNat heq
    rw [hexponent] at hzero
    change v.toNat / 2 ^ 52 = 0 at hzero
    omega
  have hfull : (1#1 ++ unpackMantissa v).toNat = 2 ^ 52 + v.toNat % 2 ^ 52 := by
    rw [hmantissa]
    exact Rounding.append_mantissa (by omega) (by omega)
  rw [Rounding.unpack_eq hfull (by rw [hexponent]) hspecial hnormal h, hsign]
  rfl

end Ratio

end ResponsiveMarkup
