import ResponsiveMarkup.Json.Number
import ResponsiveMarkup.Proofs.Number.Shortest

/-!
How far a product of doubles is from the exact product. Each rounding adds at most one part in two to the
fifty-second; three roundings, two of the factors and one of the product, stay below the greatest double as long as
the exact product keeps a little distance from it.
-/

namespace ResponsiveMarkup

open Float.Model Float.Model.UnpackedFloat

namespace Rounding

/-! ### Shifting and rounding mantissas -/

theorem mantissa_shiftRight (em : ExtendedMantissa) (n : Nat) : (em >>> n).mantissa = em.mantissa / 2 ^ n := by
  induction n with
  | zero => rw [Nat.pow_zero, Nat.div_one]; rfl
  | succ n ih =>
    change (em >>> n).mantissa / 2 = _
    rw [ih, Nat.div_div_eq_div_mul, Nat.pow_succ]

theorem roundedMantissa_bounds (em : ExtendedMantissa) :
    em.mantissa ≤ em.roundedMantissa ∧ em.roundedMantissa ≤ em.mantissa + 1 := by
  obtain ⟨m, round, sticky⟩ := em
  cases round <;> cases sticky <;>
    simp only [ExtendedMantissa.roundedMantissa, ExtendedMantissa.accuracy, Accuracy.roundToNearestEven] <;> omega

theorem le_log2 {m : Nat} (hm : 2 ^ 52 ≤ m) : 52 ≤ m.log2 :=
  (Nat.le_log2 (by omega)).mpr hm

/-- A mantissa of at least fifty-three bits is cut to fifty-three. -/
theorem shiftToTargetExponent_eq {m : Nat} {e : Int} (hm : 2 ^ 52 ≤ m) (he : -1074 ≤ e) :
    shiftToTargetExponent Format.binary64 m e .exact =
      ((⟨m, false, false⟩ : ExtendedMantissa) >>> (m.log2 - 52), e + (m.log2 - 52 : Nat)) := by
  have hlog := le_log2 hm
  have htarget : Format.targetExponent Format.binary64 (totalExponent m e) = m.log2 + 1 + e - 53 := by
    have hmax : max ((m.log2 : Int) + 1 + e - 53) (-1074) = m.log2 + 1 + e - 53 := by omega
    exact hmax
  have hshift : ((m.log2 : Int) + 1 + e - 53 - e).toNat = m.log2 - 52 := by omega
  simp only [shiftToTargetExponent, shiftToExponent, htarget, hshift, ExtendedMantissa.ofMantissaAndAccuracy]

theorem div_bounds {m : Nat} (hm : 2 ^ 52 ≤ m) :
    2 ^ 52 ≤ m / 2 ^ (m.log2 - 52) ∧ m / 2 ^ (m.log2 - 52) < 2 ^ 53 := by
  have hlog := le_log2 hm
  have hlow : 2 ^ m.log2 ≤ m := Nat.log2_self_le (by omega)
  have hhigh : m < 2 ^ (m.log2 + 1) := Nat.lt_log2_self
  have hsplit : 2 ^ m.log2 = 2 ^ 52 * 2 ^ (m.log2 - 52) := by
    rw [← Nat.pow_add]
    congr 1
    omega
  constructor
  · rw [Nat.le_div_iff_mul_le (by positivity)]
    omega
  · rw [Nat.div_lt_iff_lt_mul (by positivity)]
    rw [Nat.pow_succ, hsplit] at hhigh
    omega

/-- Shifting a mantissa to the right never makes the number greater. -/
theorem div_mul_zpow_le (m n : Nat) (e : Int) : ((m / 2 ^ n : Nat) : ℚ) * 2 ^ (e + (n : Int)) ≤ m * 2 ^ e := by
  have hdiv : ((m / 2 ^ n : Nat) : ℚ) * 2 ^ n ≤ m := by
    exact_mod_cast Nat.div_mul_le_self m (2 ^ n)
  calc ((m / 2 ^ n : Nat) : ℚ) * 2 ^ (e + (n : Int))
      = ((m / 2 ^ n : Nat) : ℚ) * 2 ^ n * 2 ^ e := by
        rw [zpow_add₀ (by norm_num), zpow_natCast]
        ring
    _ ≤ m * 2 ^ e := mul_le_mul_of_nonneg_right hdiv (by positivity)

/-- Rounding keeps fifty-three bits and adds at most one part in two to the fifty-second. -/
theorem roundWithAccuracy_near (s : Sign) {m : Nat} {e : Int} (hm : 2 ^ 52 ≤ m) (he : -1074 ≤ e) :
    ∃ m' e' h, roundWithAccuracy Format.binary64 s m e .exact = .finite s m' e' h ∧ 2 ^ 52 ≤ m' ∧ m' < 2 ^ 53 ∧
      e ≤ e' ∧ (m' : ℚ) * 2 ^ e' ≤ m * 2 ^ e * (1 + 2 ^ (-52 : Int)) := by
  have hfirst := shiftToTargetExponent_eq hm he
  have hbounds := div_bounds hm
  have hlog : 2 ^ 52 * 2 ^ (m.log2 - 52) ≤ m := by
    rw [← Nat.le_div_iff_mul_le (by positivity)]
    exact hbounds.1
  generalize m.log2 - 52 = n at hfirst hbounds hlog
  generalize hem : (⟨m, false, false⟩ : ExtendedMantissa) >>> n = em at hfirst
  have hmantissa : em.mantissa = m / 2 ^ n := by
    rw [← hem, mantissa_shiftRight]
  have hround := roundedMantissa_bounds em
  generalize hr : em.roundedMantissa = r at hround
  rw [hmantissa] at hround
  -- one unit of the cut mantissa is at most one part in two to the fifty-second
  have hnear : (r : ℚ) * 2 ^ (e + (n : Int)) ≤ m * 2 ^ e * (1 + 2 ^ (-52 : Int)) := by
    have hup : (r : ℚ) ≤ (m / 2 ^ n : Nat) + 1 := by exact_mod_cast hround.2
    have hunit : (2 : ℚ) ^ (e + (n : Int)) ≤ m * 2 ^ e * 2 ^ (-52 : Int) := by
      have hlog' : (2 : ℚ) ^ 52 * 2 ^ n ≤ m := by exact_mod_cast hlog
      calc (2 : ℚ) ^ (e + (n : Int)) = 2 ^ 52 * 2 ^ n * 2 ^ e * 2 ^ (-52 : Int) := by
            rw [zpow_add₀ (by norm_num), zpow_natCast, zpow_neg]
            field_simp
        _ ≤ m * 2 ^ e * 2 ^ (-52 : Int) := by gcongr
    calc (r : ℚ) * 2 ^ (e + (n : Int))
        ≤ ((m / 2 ^ n : Nat) + 1) * 2 ^ (e + (n : Int)) := by gcongr
      _ = ((m / 2 ^ n : Nat) : ℚ) * 2 ^ (e + (n : Int)) + 2 ^ (e + (n : Int)) := by ring
      _ ≤ m * 2 ^ e + m * 2 ^ e * 2 ^ (-52 : Int) := add_le_add (div_mul_zpow_le m n e) hunit
      _ = m * 2 ^ e * (1 + 2 ^ (-52 : Int)) := by ring
  have hr52 : 2 ^ 52 ≤ r := by omega
  have hsecond := shiftToTargetExponent_eq (m := r) (e := e + (n : Int)) hr52 (by omega)
  have hfinal := div_bounds hr52
  generalize r.log2 - 52 = j at hsecond hfinal
  have hcut := (div_mul_zpow_le r j _).trans hnear
  have hlast : ((⟨r, false, false⟩ : ExtendedMantissa) >>> j).mantissa = r / 2 ^ j := mantissa_shiftRight _ j
  generalize (⟨r, false, false⟩ : ExtendedMantissa) >>> j = em' at hsecond hlast
  rw [← hlast] at hfinal hcut
  have hpos : 0 < em'.mantissa := by omega
  refine ⟨em'.mantissa, e + (n : Int) + (j : Int), hpos, ?_, hfinal.1, hfinal.2, by omega, hcut⟩
  rw [roundWithAccuracy, hfirst]
  dsimp only
  rw [hr, hsecond]
  exact dif_neg (Nat.ne_of_gt hpos)

/-! ### Doubles of full precision -/

/-- The double is `m · 2 ^ e` up to its sign, with all fifty-three bits in use. -/
structure Full (x : Float) (m : Nat) (e : Int) : Prop where
  unpacked : ∃ s h, x.toModel.unpack = .finite s m e h
  low : 2 ^ 52 ≤ m
  high : m < 2 ^ 53
  least : -1074 ≤ e

/-- The three parts of a number of full precision, the first bit of the mantissa left out. -/
theorem pack_eq {s : Sign} {m : Nat} {e : Int} (h : 0 < m) (low : 2 ^ 52 ≤ m) (high : m < 2 ^ 53)
    (least : -1074 ≤ e) (greatest : e ≤ 971) :
    UnpackedFloat.pack Format.binary64 (.finite s m e h) =
      packComponents Format.binary64 s (BitVec.ofNat 11 (e + 1075).toNat) (BitVec.ofNat 52 m) := by
  have hlog : m.log2 = 52 := (Nat.log2_eq_iff (by omega)).mpr ⟨low, high⟩
  have hroom : ¬ 2 ^ 11 ≤ (e + 1023 + 52).toNat + 1 := by omega
  have hfull : m.log2 + 1 = 53 := by rw [hlog]
  have hbias : (e + 1075).toNat = (e + 1023 + 52).toNat := by rw [Int.add_assoc]; rfl
  rw [hbias]
  exact (if_neg hroom).trans (if_pos hfull)

/-- A number of full precision, from the parts of its bits. -/
theorem unpack_eq {bits : BitVec Format.binary64.numBits} {m : Nat} {e : Int}
    (hmantissa : (1#1 ++ unpackMantissa bits).toNat = m)
    (hexponent : ((unpackExponent bits).toNat : Int) - (1023 + 52) = e) (hspecial : unpackExponent bits ≠ -1#11)
    (hnormal : unpackExponent bits ≠ 0#11) (hm : 0 < m) :
    UnpackedFloat.unpack Format.binary64 bits = .finite (Sign.ofBitVec (unpackSign bits)) m e hm := by
  subst hmantissa hexponent
  exact (if_neg hspecial).trans (if_neg hnormal)

theorem unpackSign_packComponents {spec : Format} (s : Sign) (exponent : BitVec spec.exponentBits)
    (mantissa : BitVec spec.mantissaBitsWithoutImplicit) :
    unpackSign (packComponents spec s exponent mantissa) = s.toBitVec := by
  apply BitVec.eq_of_getLsbD_eq
  intro i hi
  have hzero : i = 0 := by omega
  subst hzero
  delta unpackSign packComponents
  simp [BitVec.getLsbD_append, BitVec.getElem_append]

theorem ofNat_exponent {e : Int} (least : -1074 ≤ e) (greatest : e ≤ 971) :
    (BitVec.ofNat 11 (e + 1075).toNat).toNat = (e + 1075).toNat := by
  rw [BitVec.toNat_ofNat]
  omega

theorem append_mantissa {m : Nat} (low : 2 ^ 52 ≤ m) (high : m < 2 ^ 53) :
    (1#1 ++ BitVec.ofNat 52 m).toNat = m := by
  have hor : 2 ^ 52 * 1 + m % 2 ^ 52 = 2 ^ 52 * 1 ||| m % 2 ^ 52 :=
    Nat.two_pow_add_eq_or_of_lt (Nat.mod_lt _ (by decide)) 1
  rw [BitVec.toNat_append, BitVec.toNat_ofNat, BitVec.toNat_ofNat, Nat.shiftLeft_eq]
  change 1 * 2 ^ 52 ||| m % 2 ^ 52 = m
  rw [Nat.mul_comm, ← hor]
  omega

/-- A number of full precision is kept as it is, unless its exponent is too great. -/
theorem unpack_pack {s : Sign} {m : Nat} {e : Int} (h : 0 < m) (low : 2 ^ 52 ≤ m) (high : m < 2 ^ 53)
    (least : -1074 ≤ e) (greatest : e ≤ 971) :
    UnpackedFloat.unpack Format.binary64 (UnpackedFloat.pack Format.binary64 (.finite s m e h)) = .finite s m e h := by
  have hbits := ofNat_exponent least greatest
  have hspecial : BitVec.ofNat 11 (e + 1075).toNat ≠ -1#11 := by
    intro heq
    have hall := congrArg BitVec.toNat heq
    rw [hbits] at hall
    change (e + 1075).toNat = 2047 at hall
    omega
  have hnormal : BitVec.ofNat 11 (e + 1075).toNat ≠ 0#11 := by
    intro heq
    have hzero := congrArg BitVec.toNat heq
    rw [hbits] at hzero
    change (e + 1075).toNat = 0 at hzero
    omega
  have hback : (((e + 1075).toNat : Nat) : Int) - (1023 + 52) = e := by omega
  have hsign : Sign.ofBitVec s.toBitVec = s := by cases s <;> rfl
  rw [pack_eq h low high least greatest, unpack_eq (m := m) (e := e) ?_ ?_ ?_ ?_ h, unpackSign_packComponents, hsign]
  · rw [unpackMantissa_packComponents]
    exact append_mantissa low high
  · rw [unpackExponent_packComponents, hbits, hback]
  · rwa [unpackExponent_packComponents]
  · rwa [unpackExponent_packComponents]

theorem full_pack {s : Sign} {m : Nat} {e : Int} (h : 0 < m) (low : 2 ^ 52 ≤ m) (high : m < 2 ^ 53)
    (least : -1074 ≤ e) (greatest : e ≤ 971) : Full (.ofModel (.pack (.finite s m e h))) m e :=
  ⟨⟨s, h, unpack_pack h low high least greatest⟩, low, high, least⟩

theorem Full.isInf {x : Float} {m : Nat} {e : Int} (h : Full x m e) : x.isInf = false := by
  obtain ⟨s, hpos, hunpack⟩ := h.unpacked
  change x.toModel.unpack.isInf = false
  rw [hunpack]
  rfl

/-- The exponent of a number below two to the 1024th leaves room for its mantissa. -/
theorem exponent_le {m : Nat} {e : Int} (low : 2 ^ 52 ≤ m) (h : (m : ℚ) * 2 ^ e < 2 ^ 1024) : e ≤ 971 := by
  by_contra hlarge
  have hexp : (2 : ℚ) ^ (972 : Int) ≤ 2 ^ e := zpow_le_zpow_right₀ (by norm_num) (by omega)
  have hm : (2 : ℚ) ^ 52 ≤ m := by exact_mod_cast low
  have hprod : (2 : ℚ) ^ 52 * 2 ^ (972 : Int) ≤ m * 2 ^ e := mul_le_mul hm hexp (by positivity) (by positivity)
  have hpow : (2 : ℚ) ^ 52 * 2 ^ (972 : Int) = 2 ^ 1024 := by
    rw [show (972 : Int) = ((972 : Nat) : Int) from rfl, zpow_natCast, ← pow_add]
  exact absurd (hpow ▸ hprod) (not_le.mpr h)

/-- A number that is rounded and packed, if it is small enough. -/
theorem full_round (s : Sign) {m : Nat} {e : Int} (hm : 2 ^ 52 ≤ m) (he : -1074 ≤ e)
    (hsmall : (m : ℚ) * 2 ^ e * (1 + 2 ^ (-52 : Int)) < 2 ^ 1024) :
    ∃ m' e', Full (.ofModel (.pack (roundWithAccuracy Format.binary64 s m e .exact))) m' e' ∧ e ≤ e' ∧
      (m' : ℚ) * 2 ^ e' ≤ m * 2 ^ e * (1 + 2 ^ (-52 : Int)) := by
  obtain ⟨m', e', hpos, hround, low, high, hle, hnear⟩ := roundWithAccuracy_near s hm he
  have hfit := exponent_le low (lt_of_le_of_lt hnear hsmall)
  refine ⟨m', e', ?_, hle, hnear⟩
  rw [hround]
  exact full_pack hpos low high (by omega) hfit

/-! ### Whole numbers, powers of ten and their product -/

/-- A whole number is first moved up to fifty-three bits. -/
theorem ofNat_eq {n : Nat} (hn : 0 < n) :
    UnpackedFloat.ofNat Format.binary64 n =
      roundWithAccuracy Format.binary64 .positive (n <<< (52 - n.log2)) (0 - (52 - n.log2 : Nat)) .exact := by
  have hcompare : compare (n : Int) 0 = .gt := compare_gt_iff_gt.mpr (by omega)
  have htarget : Format.targetExponent Format.binary64 (totalExponent n 0) = n.log2 - 52 := by
    have hmax : max ((n.log2 : Int) + 1 + 0 - 53) (-1074) = n.log2 - 52 := by omega
    exact hmax
  have hshift : (0 - ((n.log2 : Int) - 52)).toNat = 52 - n.log2 := by omega
  simp only [UnpackedFloat.ofNat, UnpackedFloat.ofInt, UnpackedFloat.normalize, hcompare, UnpackedFloat.round,
    Int.toNat_natCast, htarget, decreaseExponent, hshift]

theorem shifted_whole {n : Nat} (hn : 0 < n) : 2 ^ 52 ≤ n <<< (52 - n.log2) := by
  rw [Nat.shiftLeft_eq]
  have hlog : 2 ^ n.log2 ≤ n := Nat.log2_self_le (by omega)
  calc 2 ^ 52 ≤ 2 ^ (n.log2 + (52 - n.log2)) := Nat.pow_le_pow_right (by decide) (by omega)
    _ = 2 ^ n.log2 * 2 ^ (52 - n.log2) := Nat.pow_add ..
    _ ≤ n * 2 ^ (52 - n.log2) := Nat.mul_le_mul_right _ hlog

theorem shifted_whole_value (n : Nat) :
    ((n <<< (52 - n.log2) : Nat) : ℚ) * 2 ^ (0 - (52 - n.log2 : Nat) : Int) = n := by
  rw [Nat.shiftLeft_eq, zero_sub, zpow_neg, zpow_natCast]
  push_cast
  field_simp

theorem full_toFloat {n : Nat} (hn : 0 < n) (hword : n < 2 ^ 64) :
    ∃ m e, Full n.toUInt64.toFloat m e ∧ -52 ≤ e ∧ (m : ℚ) * 2 ^ e ≤ n * (1 + 2 ^ (-52 : Int)) := by
  have hvalue := shifted_whole_value n
  have hsmall : (n : ℚ) * (1 + 2 ^ (-52 : Int)) < 2 ^ 1024 := by
    have hn64 : (n : ℚ) < 2 ^ 64 := by exact_mod_cast hword
    calc (n : ℚ) * (1 + 2 ^ (-52 : Int)) ≤ 2 ^ 64 * (1 + 2 ^ (-52 : Int)) := by gcongr
      _ < 2 ^ 65 := by norm_num
      _ ≤ 2 ^ 1024 := pow_le_pow_right₀ (by norm_num) (by norm_num)
  obtain ⟨m, e, hfull, hle, hnear⟩ := full_round .positive (shifted_whole hn) (e := 0 - (52 - n.log2 : Nat)) (by omega)
    (by rwa [hvalue])
  rw [hvalue] at hnear
  refine ⟨m, e, ?_, by omega, hnear⟩
  rw [← ofNat_eq hn] at hfull
  have hword' : n.toUInt64.toNat = n := Nat.mod_eq_of_lt hword
  change Full (.ofModel (.pack (UnpackedFloat.ofNat Format.binary64 n.toUInt64.toNat))) m e
  rwa [hword']

theorem full_mul {x y : Float} {m n : Nat} {e f : Int} (hx : Full x m e) (hy : Full y n f) (he : -1074 ≤ e + f)
    (hsmall : (m : ℚ) * 2 ^ e * (n * 2 ^ f) * (1 + 2 ^ (-52 : Int)) < 2 ^ 1024) :
    ∃ m' e', Full (x * y) m' e' ∧ e + f ≤ e' ∧
      (m' : ℚ) * 2 ^ e' ≤ m * 2 ^ e * (n * 2 ^ f) * (1 + 2 ^ (-52 : Int)) := by
  have hvalue : ((m * n : Nat) : ℚ) * 2 ^ (e + f) = m * 2 ^ e * (n * 2 ^ f) := by
    rw [zpow_add₀ (by norm_num)]
    push_cast
    ring
  have hlow : 2 ^ 52 ≤ m * n := by
    calc 2 ^ 52 ≤ m * 1 := by rw [Nat.mul_one]; exact hx.low
      _ ≤ m * n := Nat.mul_le_mul_left m (by have := hy.low; omega)
  obtain ⟨s, hm, hunpackx⟩ := hx.unpacked
  obtain ⟨t, hn, hunpacky⟩ := hy.unpacked
  obtain ⟨m', e', hfull, hle, hnear⟩ := full_round (s * t) hlow he (by rwa [hvalue])
  rw [hvalue] at hnear
  refine ⟨m', e', ?_, hle, hnear⟩
  have hprod : x * y = .ofModel (.pack (UnpackedFloat.mul Format.binary64 x.toModel.unpack y.toModel.unpack)) := rfl
  rw [hprod, hunpackx, hunpacky]
  exact hfull

/-- Mantissa and exponent of a double that is neither zero nor special. -/
def parts? (x : Float) : Option (Nat × Int) :=
  match x.toModel.unpack with
  | .finite _ m e _ => some (m, e)
  | _ => none

theorem full_of_parts? {x : Float} {m : Nat} {e : Int} (h : parts? x = some (m, e)) (low : 2 ^ 52 ≤ m)
    (high : m < 2 ^ 53) (least : -1074 ≤ e) : Full x m e := by
  refine ⟨?_, low, high, least⟩
  rw [parts?] at h
  cases hunpack : x.toModel.unpack with
  | finite s m' e' hpos =>
    rw [hunpack] at h
    obtain ⟨rfl, rfl⟩ := Prod.mk.inj (Option.some.inj h)
    exact ⟨s, hpos, rfl⟩
  | _ =>
    rw [hunpack] at h
    cases h

/-- The powers that are doubles themselves. -/
theorem parts?_tenTo : ∀ k < 23, (parts? (Json.Reader.tenTo k)).any (fun (m, e) => 2 ^ 52 ≤ m ∧ m < 2 ^ 53 ∧
    -52 ≤ e ∧ m * 2 ^ e.toNat = 10 ^ k * 2 ^ (-e).toNat) = true := by
  decide +kernel

/-- The greatest power below two to the 1024th is not even close to it. -/
theorem ten_pow_lt : (10 : ℚ) ^ 308 * (3 / 2) < 2 ^ 1024 := by
  have h : 10 ^ 308 * 3 < 2 ^ 1024 * 2 := by decide +kernel
  have hcast : ((10 ^ 308 * 3 : Nat) : ℚ) < (2 ^ 1024 * 2 : Nat) := Nat.cast_lt.mpr h
  simp only [Nat.cast_mul, Nat.cast_pow, Nat.cast_ofNat] at hcast
  generalize (10 : ℚ) ^ 308 = ten at hcast ⊢
  generalize (2 : ℚ) ^ 1024 = greatest at hcast ⊢
  linarith

theorem full_tenTo {k : Nat} (hk : k ≤ 308) :
    ∃ m e, Full (Json.Reader.tenTo k) m e ∧ -53 ≤ e ∧ (m : ℚ) * 2 ^ e ≤ 10 ^ k * (1 + 2 ^ (-52 : Int)) := by
  have hunit : (0 : ℚ) ≤ 2 ^ (-52 : Int) := by positivity
  rcases Nat.lt_or_ge k 23 with hsmall | hlarge
  · obtain ⟨⟨m, e⟩, hparts, hm⟩ := (Option.any_eq_true _ _).mp (parts?_tenTo k hsmall)
    obtain ⟨low, high, least, heq⟩ := of_decide_eq_true hm
    have hvalue : (m : ℚ) * 2 ^ e = 10 ^ k := by
      have hexp := zpow_mul_pow_toNat (b := 2) (by norm_num) e
      have heq' : (m : ℚ) * 2 ^ e.toNat = 10 ^ k * 2 ^ (-e).toNat := by exact_mod_cast heq
      rw [← hexp, ← mul_assoc] at heq'
      exact mul_right_cancel₀ (by positivity) heq'
    refine ⟨m, e, full_of_parts? hparts low high (by omega), by omega, ?_⟩
    rw [hvalue]
    have hten : (0 : ℚ) ≤ 10 ^ k * 2 ^ (-52 : Int) := by positivity
    linarith
  · have hlow : 2 ^ 52 ≤ 2 ^ 53 * 10 ^ k :=
      Nat.le_trans (by decide : 2 ^ 52 ≤ 2 ^ 53 * 1) (Nat.mul_le_mul_left _ (Nat.one_le_pow k 10 (by decide)))
    have hvalue : ((2 ^ 53 * 10 ^ k : Nat) : ℚ) * 2 ^ (-53 : Int) = 10 ^ k := by
      rw [Nat.cast_mul, Nat.cast_pow, Nat.cast_pow, Nat.cast_ofNat, Nat.cast_ofNat, zpow_neg]
      field_simp
    have hfit : (10 : ℚ) ^ k * (1 + 2 ^ (-52 : Int)) < 2 ^ 1024 := by
      have hten : (10 : ℚ) ^ k ≤ 10 ^ 308 := pow_le_pow_right₀ (by norm_num) hk
      have hhalf : (1 : ℚ) + 2 ^ (-52 : Int) ≤ 3 / 2 := by norm_num
      calc (10 : ℚ) ^ k * (1 + 2 ^ (-52 : Int))
          ≤ 10 ^ 308 * (3 / 2) := mul_le_mul hten hhalf (by positivity) (by positivity)
        _ < 2 ^ 1024 := ten_pow_lt
    obtain ⟨m, e, hfull, hle, hnear⟩ := full_round (.positive * .positive) hlow (e := -53) (by omega)
      (by rwa [hvalue])
    rw [hvalue] at hnear
    refine ⟨m, e, ?_, hle, hnear⟩
    have hslow : Json.Reader.tenTo k = .ofModel (Float.Model.ofScientific 1 (k : Int)) := by
      rw [Json.Reader.tenTo, Float.ofScientific, dif_neg (by omega)]
      rfl
    have hmodel : Float.Model.ofScientific 1 (k : Int) =
        .pack (roundWithAccuracy Format.binary64 (.positive * .positive) (2 ^ 53 * 10 ^ k) (-53) .exact) := by
      have hroom : ¬ (k : Int) > 2 ^ 11 := by omega
      have hlarge : ¬ (k : Int) < -((2 ^ 11 : Int) + (Nat.log2 1 : Nat)) := by omega
      have hnonneg : (0 : Int) ≤ k := by omega
      rw [Float.Model.ofScientific, UnpackedFloat.ofScientific, dif_neg (by decide), if_neg hroom, if_neg hlarge,
        if_pos hnonneg]
      rfl
    rwa [hslow, hmodel]

/-- Three roundings of a number this far below two to the 1024th stay below it. -/
theorem three_roundings {x : ℚ} (h : x ≤ 2 ^ 1024 - 2 ^ 974) : x * (1 + 2 ^ (-52 : Int)) ^ 3 < 2 ^ 1024 := by
  have hsplit : (2 : ℚ) ^ 1024 = 2 ^ 974 * 2 ^ 50 := by rw [← pow_add]
  have hpos : (0 : ℚ) < 2 ^ 974 := by positivity
  have hbound : ((2 : ℚ) ^ 50 - 1) * (1 + 2 ^ (-52 : Int)) ^ 3 < 2 ^ 50 := by norm_num
  rw [hsplit] at h ⊢
  generalize (2 : ℚ) ^ 974 = unit at h hpos ⊢
  calc x * (1 + 2 ^ (-52 : Int)) ^ 3
      ≤ (unit * 2 ^ 50 - unit) * (1 + 2 ^ (-52 : Int)) ^ 3 := mul_le_mul_of_nonneg_right h (by positivity)
    _ = unit * ((2 ^ 50 - 1) * (1 + 2 ^ (-52 : Int)) ^ 3) := by ring
    _ < unit * 2 ^ 50 := mul_lt_mul_of_pos_left hbound hpos

theorem isInf_zero_mul {y : Float} {m : Nat} {e : Int} (hy : Full y m e) :
    ((0 : Nat).toUInt64.toFloat * y).isInf = false := by
  obtain ⟨s, hpos, hunpack⟩ := hy.unpacked
  have hzero : (0 : Nat).toUInt64.toFloat.toModel.unpack = .zero .positive := by rfl
  have hproduct : (0 : Nat).toUInt64.toFloat * y =
      .ofModel (.pack (UnpackedFloat.mul Format.binary64 (0 : Nat).toUInt64.toFloat.toModel.unpack y.toModel.unpack)) := rfl
  rw [hproduct, hzero, hunpack]
  change (Float.Model.pack (.zero (.positive * s))).isInf = false
  cases s <;> decide

/-- A significand times a power of ten is a finite double, if the exact product is some way below the greatest. -/
theorem isInf_mul_tenTo {n k : Nat} (hn : n < 2 ^ 64) (hk : k ≤ 308) (h : (n : ℚ) * 10 ^ k ≤ 2 ^ 1024 - 2 ^ 974) :
    (n.toUInt64.toFloat * Json.Reader.tenTo k).isInf = false := by
  obtain ⟨l, f, hten, hf, hlvalue⟩ := full_tenTo hk
  rcases Nat.eq_zero_or_pos n with rfl | hpos
  · exact isInf_zero_mul hten
  obtain ⟨m, e, hfloat, he, hmvalue⟩ := full_toFloat hpos hn
  have hproduct : (m : ℚ) * 2 ^ e * (l * 2 ^ f) * (1 + 2 ^ (-52 : Int)) < 2 ^ 1024 := by
    refine lt_of_le_of_lt ?_ (three_roundings h)
    calc (m : ℚ) * 2 ^ e * (l * 2 ^ f) * (1 + 2 ^ (-52 : Int))
        ≤ n * (1 + 2 ^ (-52 : Int)) * (10 ^ k * (1 + 2 ^ (-52 : Int))) * (1 + 2 ^ (-52 : Int)) := by gcongr
      _ = n * 10 ^ k * (1 + 2 ^ (-52 : Int)) ^ 3 := by ring
  obtain ⟨m', e', hfull, _⟩ := full_mul hfloat hten (by omega) hproduct
  exact hfull.isInf

end Rounding

end ResponsiveMarkup
