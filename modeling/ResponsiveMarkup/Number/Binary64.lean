/-!
What a double stands for: a sign, a natural mantissa and a power of two, or one of the special values.
Everything that is written about a double is computed from here in exact arithmetic.
-/

namespace ResponsiveMarkup

inductive Binary64 where
  | nan
  | infinite (negative : Bool)
  /-- `mantissa · 2 ^ exponent`; the sign stands apart, so that zero has two forms. -/
  | finite (negative : Bool) (mantissa : Nat) (exponent : Int)
  deriving DecidableEq, Repr

namespace Binary64

def ofBits (b : UInt64) : Binary64 :=
  let negative := b >>> 63 == 1
  let e := ((b >>> 52) &&& 0x7FF).toNat
  let f := (b &&& 0xFFFFFFFFFFFFF).toNat
  if e = 0x7FF then (if f = 0 then .infinite negative else .nan)
  else if e = 0 then .finite negative f (-1074)
  else .finite negative (Nat.pow 2 52 + f) ((e : Int) - 1075)

def ofFloat (x : Float) : Binary64 := ofBits x.toBits

def isFinite : Binary64 → Bool
  | finite .. => true
  | _ => false

/-- `num / den` for the magnitude `m · 2 ^ q · 10 ^ t`. -/
def fraction (m : Nat) (q t : Int) : Nat × Nat :=
  (m * Nat.pow 2 q.toNat * Nat.pow 10 t.toNat, Nat.pow 2 (-q).toNat * Nat.pow 10 (-t).toNat)

end Binary64

end ResponsiveMarkup
