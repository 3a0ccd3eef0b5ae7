import ResponsiveMarkup.Text.Basic
import ResponsiveMarkup.Number.Shortest

/-!
Laying out the shortest digits of a double. A format decides four things: which way a tie between two equally
near decimals goes, whether a whole number keeps a zero after its point, which exponents are written
positionally, and what stands for the values that are no number.
-/

namespace ResponsiveMarkup

structure Notation where
  tie : Tie
  /-- Write `1.0` rather than `1`. -/
  pointZero : Bool
  /-- The least and greatest exponent of the leading digit that is written positionally; all if absent. -/
  plain : Option (Int × Int)
  nan : Text
  infinite : Text

namespace Notation

/-- The digits with the point after place `point`, padded with zeros on either side. -/
def positional (pointZero : Bool) (digits : Text) (point : Int) : Text :=
  if point ≤ 0 then "0.".toList ++ List.replicate (-point).toNat '0' ++ digits
  else
    let n := point.toNat
    if digits.length ≤ n then
      digits ++ List.replicate (n - digits.length) '0' ++ (if pointZero then ".0".toList else [])
    else digits.take n ++ ['.'] ++ digits.drop n

/-- One digit, the others after a point, and a signed exponent. -/
def scientific (digits : Text) (exponent : Int) : Text :=
  digits.take 1 ++ (if digits.length ≤ 1 then [] else ['.'] ++ digits.drop 1) ++
    (if exponent < 0 then "e-".toList else "e+".toList) ++ Nat.toDigits 10 exponent.natAbs

def magnitude (f : Notation) (d : Decimal) : Text :=
  let digits := Nat.toDigits 10 d.digits
  let leading := d.exponent + digits.length - 1
  if d.digits = 0 then (if f.pointZero then "0.0".toList else ['0'])
  else
    match f.plain with
    | some (least, greatest) =>
      if least ≤ leading ∧ leading ≤ greatest then positional f.pointZero digits (leading + 1)
      else scientific digits leading
    | none => positional f.pointZero digits (leading + 1)

/-- The text of a double. The sign of zero is written too. -/
def render (f : Notation) (x : Float) : Text :=
  let signed (negative : Bool) (s : Text) := if negative then '-' :: s else s
  match Binary64.ofFloat x with
  | .nan => f.nan
  | .infinite negative => signed negative f.infinite
  | .finite negative m q => signed negative (f.magnitude (Decimal.shortest f.tie m q))

end Notation

end ResponsiveMarkup
