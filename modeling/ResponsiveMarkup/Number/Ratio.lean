import ResponsiveMarkup.Number.Rounding

/-!
The double nearest to a proper fraction, given by its bits. Bits of positive doubles are in the order of the
numbers they stand for.
-/

namespace ResponsiveMarkup.Ratio

/-- The least number of halvings that brings `den` below `num`, for positive naturals with `num ≤ den`. -/
def halvings (num den : Nat) : Nat :=
  let guess := den.log2 - num.log2
  if den ≤ num * Nat.pow 2 guess then guess else guess + 1

/-- The bits of the double nearest to `num / den`, for `0 < num ≤ den`; a half goes to the even neighbour. The
mantissa has 53 bits, the highest of which is added to the exponent. What is too small for a normal double counts as
the least one. -/
def bits (num den : Nat) : Nat :=
  let k := halvings num den
  if k ≤ 1022 then (1022 - k) * Nat.pow 2 52 + roundDiv .toEven (num * Nat.pow 2 (k + 52)) den
  else Nat.pow 2 52

end ResponsiveMarkup.Ratio
