import ResponsiveMarkup.Number.Binary64
import ResponsiveMarkup.Number.Rounding

/-!
The fewest decimal digits that read back to a given double. A decimal reads back when it lies between the
midpoints to the two neighbouring doubles; a midpoint itself counts when the mantissa is even.
-/

namespace ResponsiveMarkup

/-- `digits · 10 ^ exponent`. -/
structure Decimal where
  digits : Nat
  exponent : Int
  deriving DecidableEq, Repr

namespace Decimal

/-- The order of `a · 10 ^ i` and `n · 2 ^ j`. -/
def compareScaled (a : Nat) (i : Int) (n : Nat) (j : Int) : Ordering :=
  compare (a * Nat.pow 10 i.toNat * Nat.pow 2 (-j).toNat) (n * Nat.pow 2 j.toNat * Nat.pow 10 (-i).toNat)

/-- Whether a decimal lies among the numbers that are nearest to the double `m · 2 ^ q`. Below a power of
two the neighbour is only half as far away as above it. -/
def readsBack (m : Nat) (q : Int) (d : Decimal) : Bool :=
  let low := if m = Nat.pow 2 52 ∧ -1074 < q then 4 * m - 1 else 4 * m - 2
  let above := compareScaled d.digits d.exponent low (q - 2)
  let below := compareScaled d.digits d.exponent (4 * m + 2) (q - 2)
  let ends := m % 2 == 0
  (above == .gt || ends && above == .eq) && (below == .lt || ends && below == .eq)

/-- The least `k` with `m · 2 ^ q < 10 ^ k`, for a positive mantissa. -/
def scale (m : Nat) (q : Int) : Int :=
  let guess := ((m.log2 + q) * 30103).fdiv 100000
  ([guess, guess + 1].find? fun k => compareScaled 1 k m q == .gt).getD (guess + 2)

/-- The neighbours of a double among the decimals of `n` digits, if one reads back: the nearer of two. -/
def withDigits? (tie : Tie) (m : Nat) (q : Int) (n : Nat) : Option Decimal :=
  let grid := scale m q - n
  let (num, den) := Binary64.fraction m q (-grid)
  let low := num / den
  match readsBack m q ⟨low, grid⟩, readsBack m q ⟨low + 1, grid⟩ with
  | true, false => some ⟨low, grid⟩
  | false, true => some ⟨low + 1, grid⟩
  | true, true => some ⟨roundDiv tie num den, grid⟩
  | false, false => none

/-- Trailing zeros of the digits go into the exponent. -/
def strip (d : Decimal) : Decimal :=
  if h : d.digits ≠ 0 ∧ d.digits % 10 = 0 then strip ⟨d.digits / 10, d.exponent + 1⟩ else d
termination_by d.digits
decreasing_by omega

/-- The shortest decimal that reads back to `m · 2 ^ q`; the exact value if seventeen digits do not do. -/
def shortest (tie : Tie) (m : Nat) (q : Int) : Decimal :=
  if m = 0 then ⟨0, 0⟩
  else
    match (List.range' 1 17).findSome? (withDigits? tie m q) with
    | some d => strip d
    | none => if 0 ≤ q then ⟨m * Nat.pow 2 q.toNat, 0⟩ else ⟨m * Nat.pow 5 (-q).toNat, q⟩

end Decimal

end ResponsiveMarkup
