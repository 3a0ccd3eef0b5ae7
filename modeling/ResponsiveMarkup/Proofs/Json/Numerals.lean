import ResponsiveMarkup.Proofs.Json.Reads
import ResponsiveMarkup.Proofs.Number.Rounding

/-!
Printed numbers are read as numbers. A whole number that fits a word is read as itself. A double is read as some
double: its digits may be too many for a significand, and each step is rounded, but what comes out is never beyond
the doubles, whichever finite double was printed.
-/

namespace ResponsiveMarkup.Json.Reader

/-! ### Digits -/

/-- Digits and nothing else, at least one. -/
structure Digits (s : Text) : Prop where
  all : ∀ c ∈ s, isDigit c = true
  nonempty : s ≠ []

theorem isDigit_of_isDigit {c : Char} (h : c.isDigit = true) : isDigit c = true := by
  exact h

theorem digits_toDigits (n : Nat) : Digits (Nat.toDigits 10 n) where
  all c hc := isDigit_of_isDigit (Nat.isDigit_of_mem_toDigits (by decide) (by decide) hc)
  nonempty := Nat.toDigits_ne_nil

/-- Only zero is written with a leading zero. -/
theorem head_toDigits {n : Nat} (hn : 0 < n) : (Nat.toDigits 10 n).head? ≠ some '0' := by
  induction n using Nat.strongRecOn with
  | _ n ih =>
    rw [Nat.toDigits_eq_if (by decide)]
    split
    · rename_i hsmall
      have hdigit : ∀ d < 10, 0 < d → Nat.digitChar d ≠ '0' := by decide
      simpa using hdigit n hsmall hn
    · have hprefix := ih (n / 10) (by omega) (by omega)
      rwa [List.head?_append_of_ne_nil _ Nat.toDigits_ne_nil]

/-- Digits are taken in as a number is read off, if all of them fit. -/
theorem takeIn_eq {n : Nat} (s : Text) (h : Nat.ofDigitChars 10 s n ≤ maxWord) :
    takeIn n s = (Nat.ofDigitChars 10 s n, []) := by
  induction s generalizing n with
  | nil => simp [takeIn]
  | cons c s ih =>
    have hnext : Nat.ofDigitChars 10 (c :: s) n = Nat.ofDigitChars 10 s (n * 10 + digitValue c) := by
      rw [Nat.ofDigitChars_cons, Nat.mul_comm 10 n]
      rfl
    rw [hnext] at h ⊢
    have hfit : n * 10 + digitValue c ≤ maxWord := by
      rw [Nat.ofDigitChars_eq_ofDigitChars_zero] at h
      have hpow : 1 ≤ 10 ^ s.length := Nat.one_le_pow _ _ (by decide)
      have hmul := Nat.mul_le_mul_right (n * 10 + digitValue c) hpow
      omega
    simp only [takeIn, hfit, if_true]
    exact ih h

/-- What is taken in fits a word; it is the number itself but for the digits left over. -/
theorem takeIn_le {n : Nat} (s : Text) (hn : n ≤ maxWord) :
    (takeIn n s).1 ≤ maxWord ∧ (takeIn n s).1 * 10 ^ (takeIn n s).2.length ≤ Nat.ofDigitChars 10 s n ∧
      (takeIn n s).2.length ≤ s.length := by
  induction s generalizing n with
  | nil => simpa [takeIn] using hn
  | cons c s ih =>
    have hnext : Nat.ofDigitChars 10 (c :: s) n = Nat.ofDigitChars 10 s (n * 10 + digitValue c) := by
      rw [Nat.ofDigitChars_cons, Nat.mul_comm 10 n]
      rfl
    simp only [takeIn]
    split
    · rename_i hfit
      obtain ⟨hle, hvalue, hlength⟩ := ih hfit
      rw [hnext]
      exact ⟨hle, hvalue, by simp only [List.length_cons]; omega⟩
    · refine ⟨hn, ?_, Nat.le_refl _⟩
      rw [Nat.ofDigitChars_eq_ofDigitChars_zero, Nat.mul_comm]
      exact Nat.le_add_right _ _

theorem takeIn_append {n m : Nat} {s : Text} (t : Text) (h : takeIn n s = (m, [])) :
    takeIn n (s ++ t) = takeIn m t := by
  induction s generalizing n with
  | nil => simp_all [takeIn]
  | cons c s ih =>
    simp only [takeIn] at h
    split at h
    · rename_i hfit
      simp only [List.cons_append, takeIn, hfit, if_true]
      exact ih h
    · simp at h

/-! ### The integer part -/

/-- Digits that a number may begin with. -/
structure IntegerPart (s : Text) : Prop extends Digits s where
  zero : s.head? = some '0' → s = ['0']

theorem digits_zero : Digits ['0'] where
  all c hc := by
    rw [List.mem_singleton.mp hc]
    decide
  nonempty := List.cons_ne_nil _ _

theorem integerPart_zero : IntegerPart ['0'] := ⟨digits_zero, fun _ => rfl⟩

theorem integerPart_toDigits (n : Nat) : IntegerPart (Nat.toDigits 10 n) where
  toDigits := digits_toDigits n
  zero h := by
    rcases Nat.eq_zero_or_pos n with rfl | hn
    · exact Nat.toDigits_zero 10
    · exact absurd h (head_toDigits hn)

/-- What is done after an integer part that fits a word depends on the next character. -/
theorem reads_unsigned {negative : Bool} {s t rest : Text} {a : Number} (hs : IntegerPart s) (ht : Stops isDigit t)
    {n : Nat} (hn : takeIn 0 s = (n, []))
    (h : Reads (if t.head? = some '.' then do
          let _ ← next
          fractionPart negative n 0
        else if t.head? = some 'e' ∨ t.head? = some 'E' then do
          let _ ← next
          exponentPart negative n 0
        else if !negative then return .whole n
        else if n = 0 ∨ Nat.pow 2 63 < n then return .float (-n.toUInt64.toFloat)
        else return .negative n) t a rest) :
    Reads (unsigned negative) (s ++ t) a rest := by
  cases s with
  | nil => exact absurd rfl hs.nonempty
  | cons c more =>
    have hc : isDigit c = true := hs.all c List.mem_cons_self
    have hmore (f : Text → Reader Number) (hf : Reads (f more) t a rest) :
        Reads (if c = '0' then Pure.pure [] >>= f else takeWhile isDigit >>= f) (more ++ t) a rest := by
      split
      · rename_i hzero
        subst hzero
        have hnone : more = [] := by simpa using hs.zero rfl
        subst hnone
        exact (Reads.pure _ _).bind hf
      · exact (reads_takeWhile (fun d hd => hs.all d (List.mem_cons_of_mem c hd)) ht).bind hf
    have hstop : t.head?.any isDigit = false := by
      cases t with
      | nil => rfl
      | cons d t => exact ht d rfl
    refine (reads_next c _).bind ?_
    simp only [hc, Bool.not_true, Bool.false_eq_true, if_false]
    refine hmore _ ((reads_front t).bind ?_)
    simp only [hstop, Bool.false_eq_true, and_false, if_false, hn, List.length_nil, List.isEmpty_nil, Bool.not_true]
    exact h

theorem Ended.stops_isDigit {rest : Text} (h : Ended rest) : Stops isDigit rest := h.stops (by decide) (by decide)

theorem Ended.head_ne {rest : Text} (h : Ended rest) {c : Char} (hcomma : c ≠ ',') (hline : c ≠ '\n') :
    rest.head? ≠ some c := by
  intro hhead
  rcases h c hhead with rfl | rfl
  · exact hcomma rfl
  · exact hline rfl

theorem reads_number {s rest : Text} {a : Number} (hs : s.head? ≠ some '-') (h : Reads (unsigned false) s a rest) :
    Reads number s a rest := by
  refine (reads_front s).bind ?_
  simp only [hs, if_false]
  exact h

theorem reads_number_negative {s rest : Text} {a : Number} (h : Reads (unsigned true) s a rest) :
    Reads number ('-' :: s) a rest := by
  refine (reads_front _).bind ?_
  simp only [List.head?_cons, if_true]
  exact (reads_next '-' s).bind h

/-- A whole number that fits a word is read as itself. -/
theorem reads_whole {n : Nat} (hn : n ≤ maxWord) {rest : Text} (hrest : Ended rest) :
    Reads (unsigned false) (Nat.toDigits 10 n ++ rest) (.whole n) rest := by
  have hvalue : Nat.ofDigitChars 10 (Nat.toDigits 10 n) 0 = n := Nat.ofDigitChars_ten_toDigits
  have htake : takeIn 0 (Nat.toDigits 10 n) = (n, []) := by
    rw [takeIn_eq _ (by rwa [hvalue]), hvalue]
  refine reads_unsigned (integerPart_toDigits n) hrest.stops_isDigit htake ?_
  have hpoint := hrest.head_ne (c := '.') (by decide) (by decide)
  have hsmall := hrest.head_ne (c := 'e') (by decide) (by decide)
  have hlarge := hrest.head_ne (c := 'E') (by decide) (by decide)
  simp only [hpoint, hsmall, hlarge, or_self, if_false, Bool.not_false, if_true]
  exact Reads.pure _ _

/-! ### Doubles -/

/-- A significand and an exponent that make a finite double. -/
structure Fits (significand : Nat) (exponent : Int) : Prop where
  finite : 0 ≤ exponent → exponent ≤ 308 → (significand.toUInt64.toFloat * tenTo exponent.natAbs).isInf = false
  exponent : 308 < exponent → significand = 0

theorem reads_scaled (negative : Bool) {n : Nat} {k : Int} (h : Fits n k) :
    ∃ x, ∀ t, Reads (scaled negative n k) t (.float x) t := by
  rw [scaled]
  simp only []
  split
  · exact ⟨_, fun t => Reads.pure _ t⟩
  · split
    · rename_i hneg hle
      rw [h.finite (by omega) hle]
      exact ⟨_, fun t => Reads.pure _ t⟩
    · rename_i hneg hle
      rw [if_pos (h.exponent (by omega))]
      exact ⟨_, fun t => Reads.pure _ t⟩

/-- The doubles end before ten to the 309th. -/
theorem greatest_lt : (2 : ℚ) ^ 1024 - 2 ^ 974 < 10 ^ 309 := by
  have hgreat : 2 ^ 1024 < 10 ^ 309 := by decide +kernel
  have hcast : ((2 ^ 1024 : Nat) : ℚ) < (10 ^ 309 : Nat) := Nat.cast_lt.mpr hgreat
  simp only [Nat.cast_pow, Nat.cast_ofNat] at hcast
  have hpositive : (0 : ℚ) < 2 ^ 974 := by positivity
  exact lt_trans (sub_lt_self _ hpositive) hcast

theorem fits_of_le {n : Nat} {k : Int} (hn : n ≤ maxWord)
    (h : 0 ≤ k → (n : ℚ) * 10 ^ k.toNat ≤ 2 ^ 1024 - 2 ^ 974) : Fits n k where
  finite hk hle := by
    have habs : k.natAbs = k.toNat := by omega
    rw [habs]
    exact Rounding.isInf_mul_tenTo (Nat.lt_of_le_of_lt hn (by decide)) (by omega) (h hk)
  exponent hk := by
    by_contra hpos
    have hone : (1 : ℚ) ≤ n := by exact_mod_cast Nat.one_le_iff_ne_zero.mpr hpos
    have hten : (10 : ℚ) ^ 309 ≤ 10 ^ k.toNat := pow_le_pow_right₀ (by norm_num) (by omega)
    have hproduct : (10 : ℚ) ^ 309 ≤ n * 10 ^ k.toNat := hten.trans (le_mul_of_one_le_left (by positivity) hone)
    exact absurd (hproduct.trans (h (by omega))) (not_le.mpr greatest_lt)

/-- With no positive exponent every significand does. -/
theorem fits_of_nonpos {n : Nat} {k : Int} (hn : n ≤ maxWord) (hk : k ≤ 0) : Fits n k := by
  refine fits_of_le hn fun hnonneg => ?_
  have hzero : k.toNat = 0 := by omega
  have hword : (n : ℚ) ≤ ((2 ^ 64 : Nat) : ℚ) := Nat.cast_le.mpr (Nat.le_trans hn (by decide))
  have hlarge : ((2 ^ 64 : Nat) : ℚ) ≤ ((2 ^ 1024 - 2 ^ 974 : Nat) : ℚ) := Nat.cast_le.mpr (by decide +kernel)
  have hsub : ((2 ^ 1024 - 2 ^ 974 : Nat) : ℚ) = 2 ^ 1024 - 2 ^ 974 := by
    rw [Nat.cast_sub (Nat.pow_le_pow_right (by decide) (by decide))]
    simp only [Nat.cast_pow, Nat.cast_ofNat]
  rw [hzero, pow_zero, mul_one, ← hsub]
  exact hword.trans hlarge

theorem reads_afterDigits {negative : Bool} {n : Nat} {k : Int} {rest : Text} {a : Number} (hrest : Ended rest)
    (h : Reads (scaled negative n k) rest a rest) : Reads (afterDigits negative n k) rest a rest := by
  refine (reads_front rest).bind ?_
  split
  · rename_i hhead
    exact absurd hhead (hrest.head_ne (by decide) (by decide))
  · rename_i hhead
    exact absurd hhead (hrest.head_ne (by decide) (by decide))
  · exact h

theorem reads_fractionPart {negative : Bool} {n : Nat} {k : Int} {s t rest : Text} {a : Number} (hs : Digits s)
    (ht : Stops isDigit t)
    (h : Reads (afterDigits negative (takeIn n s).1 (k - ((s.length : Int) - (takeIn n s).2.length))) t a rest) :
    Reads (fractionPart negative n k) (s ++ t) a rest := by
  refine (reads_takeWhile hs.all ht).bind ?_
  have hfull : s.isEmpty = false := by simpa using hs.nonempty
  simp only [hfull, Bool.false_eq_true, if_false]
  exact h

theorem ofDigitChars_lt {s : Text} (hs : ∀ c ∈ s, isDigit c = true) (n : Nat) :
    Nat.ofDigitChars 10 s n < (n + 1) * 10 ^ s.length := by
  induction s generalizing n with
  | nil => simp
  | cons c s ih =>
    have hdigit : c.toNat - '0'.toNat ≤ 9 := by
      have hc := hs c List.mem_cons_self
      simp only [isDigit, Bool.and_eq_true, decide_eq_true_eq, Char.le_def, UInt32.le_iff_toNat_le] at hc
      have hnine : ('9' : Char).val.toNat = 57 := rfl
      have hzero : ('0' : Char).toNat = 48 := rfl
      have hval : c.toNat = c.val.toNat := rfl
      omega
    rw [Nat.ofDigitChars_cons]
    refine Nat.lt_of_lt_of_le (ih (fun d hd => hs d (List.mem_cons_of_mem c hd)) _) ?_
    rw [List.length_cons, Nat.pow_succ, Nat.mul_comm (10 ^ s.length) 10, ← Nat.mul_assoc]
    exact Nat.mul_le_mul_right _ (by omega)

/-- Digits on either side of a point make a double, if those before it fit a word. -/
theorem reads_point (negative : Bool) {whole fraction : Text} (hwhole : IntegerPart whole)
    (hlength : whole.length ≤ 16) (hfraction : Digits fraction) :
    ∃ x, ∀ rest, Ended rest → Reads (unsigned negative) (whole ++ '.' :: (fraction ++ rest)) (.float x) rest := by
  have hword : Nat.ofDigitChars 10 whole 0 ≤ maxWord := by
    have hlt := ofDigitChars_lt hwhole.all 0
    have hpow : 10 ^ whole.length ≤ 10 ^ 16 := Nat.pow_le_pow_right (by decide) hlength
    have hmax : 10 ^ 16 ≤ maxWord := by decide
    omega
  have htake := takeIn_eq whole hword
  generalize Nat.ofDigitChars 10 whole 0 = n at hword htake
  obtain ⟨hfit, -, hleft⟩ := takeIn_le fraction hword
  obtain ⟨x, hx⟩ := reads_scaled negative
    (fits_of_nonpos (k := 0 - ((fraction.length : Int) - (takeIn n fraction).2.length)) hfit (by omega))
  refine ⟨x, fun rest hrest => reads_unsigned hwhole (stops_cons _ (by decide)) htake ?_⟩
  simp only [List.head?_cons, if_true]
  refine (reads_next '.' _).bind (reads_fractionPart hfraction hrest.stops_isDigit ?_)
  exact reads_afterDigits hrest (hx rest)

theorem foldl_toDigits (n : Nat) : (Nat.toDigits 10 n).foldl (fun n d => n * 10 + digitValue d) 0 = n := by
  have hstep : (fun n d => n * 10 + digitValue d) = fun n (d : Char) => 10 * n + (d.toNat - '0'.toNat) := by
    funext n d
    rw [Nat.mul_comm]
    rfl
  rw [hstep, ← Nat.ofDigitChars_eq_foldl]
  exact Nat.ofDigitChars_ten_toDigits

/-- A signed exponent. One that is too great for a word only makes the number zero, if it is negative. -/
theorem reads_exponentPart (negative : Bool) {n size : Nat} {start : Int} {sign : Char}
    (hsign : sign = '+' ∨ sign = '-') (hsize : sign = '+' → size < 2 ^ 31)
    (h : Fits n (if sign = '-' then start - size else start + size)) :
    ∃ x, ∀ rest, Ended rest →
      Reads (exponentPart negative n start) (sign :: (Nat.toDigits 10 size ++ rest)) (.float x) rest := by
  obtain ⟨x, hx⟩ := reads_scaled negative h
  have hdigits := digits_toDigits size
  have hvalue := foldl_toDigits size
  cases hd : Nat.toDigits 10 size with
  | nil => exact absurd hd hdigits.nonempty
  | cons c more =>
    rw [hd] at hdigits hvalue
    have hc : isDigit c = true := hdigits.all c List.mem_cons_self
    have hmore : ∀ d ∈ more, isDigit d = true := fun d hd => hdigits.all d (List.mem_cons_of_mem c hd)
    refine ⟨if size < Nat.pow 2 31 then x else if negative then -0.0 else 0.0, fun rest hrest => ?_⟩
    refine (reads_front _).bind ?_
    simp only [List.head?_cons, Option.some.injEq, hsign, if_true]
    refine (reads_next sign _).bind ((reads_next c _).bind ?_)
    simp only [hc, Bool.not_true, Bool.false_eq_true, if_false]
    refine (reads_takeWhile hmore hrest.stops_isDigit).bind ?_
    rw [hvalue]
    split
    · exact hx rest
    · rename_i hlarge
      have hplus : sign ≠ '+' := fun hplus => hlarge (hsize hplus)
      have hminus : sign = '-' := hsign.resolve_left hplus
      simp only [hminus, ne_eq, not_true_eq_false, and_false, if_false]
      exact Reads.pure _ _

/-- The sign and the size of an exponent. -/
theorem reads_signedExponent (negative : Bool) {n : Nat} {start exponent : Int} (hexp : exponent < 2 ^ 31)
    (h : Fits n (start + exponent)) :
    ∃ x, ∀ rest, Ended rest → Reads (exponentPart negative n start)
      ((if exponent < 0 then '-' else '+') :: (Nat.toDigits 10 exponent.natAbs ++ rest)) (.float x) rest := by
  by_cases hneg : exponent < 0
  · simp only [hneg, if_true]
    refine reads_exponentPart negative (.inr rfl) (fun hsign => absurd hsign (by decide)) ?_
    have hsum : start - exponent.natAbs = start + exponent := by omega
    rwa [if_pos rfl, hsum]
  · simp only [hneg, if_false]
    refine reads_exponentPart negative (.inl rfl) (fun _ => by omega) ?_
    have hsum : start + exponent.natAbs = start + exponent := by omega
    rwa [if_neg (by decide), hsum]

/-- One digit, further digits after a point, and a signed exponent. -/
theorem reads_scientific (negative : Bool) {s : Text} {exponent : Int} (hs : Digits s) (hexp : exponent < 2 ^ 31)
    (hfit : Fits (takeIn 0 s).1 (exponent - (s.length - 1) + (takeIn 0 s).2.length)) :
    ∃ x, ∀ rest, Ended rest →
      Reads (unsigned negative) (Notation.scientific s exponent ++ rest) (.float x) rest := by
  cases s with
  | nil => exact absurd rfl hs.nonempty
  | cons c more =>
    have hfirst : IntegerPart [c] :=
      ⟨⟨fun d hd => hs.all d (by simp_all), by simp⟩, fun h => by simp_all⟩
    have htake : takeIn 0 [c] = (Nat.ofDigitChars 10 [c] 0, []) := by
      have hten : (0 + 1) * 10 ^ 1 ≤ maxWord := by decide
      exact takeIn_eq [c] (Nat.le_of_lt (Nat.lt_of_lt_of_le (ofDigitChars_lt hfirst.all 0) hten))
    generalize Nat.ofDigitChars 10 [c] 0 = n at htake
    have hall : takeIn 0 (c :: more) = takeIn n more := takeIn_append more htake
    rw [hall] at hfit
    have hsum : exponent - (((c :: more).length : Int) - 1) + (takeIn n more).2.length =
        0 - ((more.length : Int) - (takeIn n more).2.length) + exponent := by
      simp only [List.length_cons]
      omega
    rw [hsum] at hfit
    obtain ⟨x, hx⟩ := reads_signedExponent negative hexp hfit
    refine ⟨x, fun rest hrest => ?_⟩
    cases more with
    | nil =>
      have htext : Notation.scientific [c] exponent ++ rest =
          [c] ++ 'e' :: ((if exponent < 0 then '-' else '+') :: (Nat.toDigits 10 exponent.natAbs ++ rest)) := by
        by_cases hneg : exponent < 0 <;> simp [Notation.scientific, hneg]
      rw [htext]
      refine reads_unsigned hfirst (stops_cons _ (by decide)) htake ?_
      simp only [List.head?_cons, Option.some.injEq, show ¬ ('e' = '.') by decide, if_false, true_or, if_true]
      exact (reads_next 'e' _).bind (hx rest hrest)
    | cons d more =>
      have htext : Notation.scientific (c :: d :: more) exponent ++ rest = [c] ++ '.' :: ((d :: more) ++
          'e' :: ((if exponent < 0 then '-' else '+') :: (Nat.toDigits 10 exponent.natAbs ++ rest))) := by
        by_cases hneg : exponent < 0 <;> simp [Notation.scientific, hneg]
      rw [htext]
      refine reads_unsigned hfirst (stops_cons _ (by decide)) htake ?_
      simp only [List.head?_cons, if_true]
      refine (reads_next '.' _).bind (reads_fractionPart ?_ (stops_cons _ (by decide)) ?_)
      · exact ⟨fun b hb => hs.all b (List.mem_cons_of_mem c hb), by simp⟩
      · refine (reads_front _).bind ?_
        simp only [List.head?_cons]
        exact (reads_next 'e' _).bind (hx rest hrest)

/-- Digits with a point among them, before them or after them. -/
theorem reads_positional (negative : Bool) {s : Text} {point : Int} (hs : IntegerPart s) (hhead : s.head? ≠ some '0')
    (hpoint : point ≤ 16) :
    ∃ x, ∀ rest, Ended rest →
      Reads (unsigned negative) (Notation.positional true s point ++ rest) (.float x) rest := by
  have hzeros (n : Nat) : ∀ c ∈ List.replicate n '0', isDigit c = true := by
    intro c hc
    rw [List.eq_of_mem_replicate hc]
    decide
  by_cases hbefore : point ≤ 0
  · have hfraction : Digits (List.replicate (-point).toNat '0' ++ s) := by
      refine ⟨fun c hc => ?_, by simp [hs.nonempty]⟩
      rcases List.mem_append.mp hc with hc | hc
      · exact hzeros _ c hc
      · exact hs.all c hc
    obtain ⟨x, hx⟩ := reads_point negative integerPart_zero (by simp) hfraction
    refine ⟨x, fun rest hrest => ?_⟩
    have htext : Notation.positional true s point ++ rest =
        ['0'] ++ '.' :: (List.replicate (-point).toNat '0' ++ s ++ rest) := by
      simp [Notation.positional, hbefore]
    rw [htext]
    exact hx rest hrest
  · by_cases hafter : s.length ≤ point.toNat
    · have hwhole : IntegerPart (s ++ List.replicate (point.toNat - s.length) '0') := by
        refine ⟨⟨fun c hc => ?_, by simp [hs.nonempty]⟩, fun h => ?_⟩
        · rcases List.mem_append.mp hc with hc | hc
          · exact hs.all c hc
          · exact hzeros _ c hc
        · rw [List.head?_append_of_ne_nil _ hs.nonempty] at h
          exact absurd h hhead
      obtain ⟨x, hx⟩ := reads_point negative hwhole (by simp; omega) digits_zero
      refine ⟨x, fun rest hrest => ?_⟩
      have htext : Notation.positional true s point ++ rest =
          s ++ List.replicate (point.toNat - s.length) '0' ++ '.' :: (['0'] ++ rest) := by
        simp [Notation.positional, hbefore, hafter]
      rw [htext]
      exact hx rest hrest
    · have hwhole : IntegerPart (s.take point.toNat) := by
        refine ⟨⟨fun c hc => hs.all c (List.mem_of_mem_take hc), ?_⟩, fun h => ?_⟩
        · simp only [ne_eq, List.take_eq_nil_iff, hs.nonempty, or_false]
          omega
        · rw [List.head?_take, if_neg (by omega)] at h
          exact absurd h hhead
      have hfraction : Digits (s.drop point.toNat) := by
        refine ⟨fun c hc => hs.all c (List.mem_of_mem_drop hc), ?_⟩
        simp only [ne_eq, List.drop_eq_nil_iff]
        omega
      obtain ⟨x, hx⟩ := reads_point negative hwhole (by simp; omega) hfraction
      refine ⟨x, fun rest hrest => ?_⟩
      have htext : Notation.positional true s point ++ rest =
          s.take point.toNat ++ '.' :: (s.drop point.toNat ++ rest) := by
        simp [Notation.positional, hbefore, hafter]
      rw [htext]
      exact hx rest hrest

/-- What is needed of a decimal to be read as a double when it is written with an exponent. -/
structure Readable (d : Decimal) : Prop where
  fits : Fits (takeIn 0 (Nat.toDigits 10 d.digits)).1 (d.exponent + (takeIn 0 (Nat.toDigits 10 d.digits)).2.length)
  leading : d.exponent + (Nat.toDigits 10 d.digits).length - 1 < 2 ^ 31

theorem reads_magnitude (negative : Bool) {d : Decimal} (h : d.digits ≠ 0 → Readable d) :
    ∃ x, ∀ rest, Ended rest → Reads (unsigned negative) (Json.number.magnitude d ++ rest) (.float x) rest := by
  have hdigits := integerPart_toDigits d.digits
  simp only [Notation.magnitude, Json.number]
  split
  · exact reads_point negative integerPart_zero (by simp) digits_zero
  · rename_i hpos
    split
    · rename_i hplain
      exact reads_positional negative hdigits (head_toDigits (by omega)) (by omega)
    · refine reads_scientific negative hdigits.toDigits (h hpos).leading ?_
      have hsum : d.exponent + (Nat.toDigits 10 d.digits).length - 1 - ((Nat.toDigits 10 d.digits).length - 1) =
          d.exponent := by omega
      rw [hsum]
      exact (h hpos).fits

/-! ### Which decimals are readable -/

theorem pow_length_le {n : Nat} (hn : n ≠ 0) : 10 ^ ((Nat.toDigits 10 n).length - 1) ≤ n := by
  rcases Nat.eq_zero_or_pos ((Nat.toDigits 10 n).length - 1) with hone | hmore
  · rw [hone, Nat.pow_zero]
    omega
  · by_contra hlt
    have hle := (Nat.length_toDigits_le_iff (by decide) hmore).mpr (Nat.not_le.mp hlt)
    omega

/-- A decimal some way below the greatest double is readable, however many digits it has. -/
theorem readable_of_value_le {d : Decimal} (hd : d.digits ≠ 0) (h : d.value ≤ 2 ^ 1024 - 2 ^ 974) : Readable d where
  fits := by
    obtain ⟨hword, hvalue, -⟩ := takeIn_le (n := 0) (Nat.toDigits 10 d.digits) (by decide)
    rw [Nat.ofDigitChars_ten_toDigits] at hvalue
    generalize takeIn 0 (Nat.toDigits 10 d.digits) = taken at hword hvalue
    refine fits_of_le hword fun hk => le_trans ?_ h
    have hcast : (taken.1 : ℚ) * 10 ^ taken.2.length ≤ d.digits := by exact_mod_cast hvalue
    have hpow : (10 : ℚ) ^ (d.exponent + taken.2.length).toNat = 10 ^ taken.2.length * 10 ^ d.exponent := by
      rw [← zpow_natCast, Int.toNat_of_nonneg hk, zpow_add₀ (by norm_num), zpow_natCast, mul_comm]
    rw [hpow, ← mul_assoc]
    exact mul_le_mul_of_nonneg_right hcast (by positivity)
  leading := by
    by_contra hlarge
    have hlength := pow_length_le hd
    have hpositive : 0 < (Nat.toDigits 10 d.digits).length := Nat.length_toDigits_pos
    generalize (Nat.toDigits 10 d.digits).length = l at hlarge hlength hpositive
    have hvalue : (10 : ℚ) ^ (309 : Nat) ≤ d.value := by
      have hcast : (10 : ℚ) ^ (l - 1) ≤ d.digits := by exact_mod_cast hlength
      calc (10 : ℚ) ^ (309 : Nat) ≤ 10 ^ (((l - 1 : Nat) : Int) + d.exponent) := by
            rw [← zpow_natCast]
            exact zpow_le_zpow_right₀ (by norm_num) (by omega)
        _ = 10 ^ (l - 1) * 10 ^ d.exponent := by rw [zpow_add₀ (by norm_num), zpow_natCast]
        _ ≤ d.value := mul_le_mul_of_nonneg_right hcast (by positivity)
    exact absurd (hvalue.trans h) (not_le.mpr greatest_lt)

/-- The last eight doubles are too close to the end for an estimate, but each of them is readable. -/
theorem readable_last : ∀ i < 8,
    let d := Decimal.shortest .toEven (2 ^ 53 - 8 + i) 971
    d.digits ≤ maxWord ∧ 0 ≤ d.exponent ∧ d.exponent ≤ 308 ∧ (Nat.toDigits 10 d.digits).length ≤ 17 ∧
      (d.digits.toUInt64.toFloat * tenTo d.exponent.natAbs).isInf = false := by
  decide +kernel

theorem midpoint_le {m : Nat} {q : Int} (hm : m < 2 ^ 53) (hq : q ≤ 971) (h : q = 971 → m < 2 ^ 53 - 8) :
    ((4 * m + 2 : Nat) : ℚ) * 2 ^ (q - 2) ≤ 2 ^ 1024 - 2 ^ 974 := by
  have hgreatest : (2 : ℚ) ^ 1024 - 2 ^ 974 = (2 ^ 55 - 32) * 2 ^ (969 : Int) := by
    have hfirst : (2 : ℚ) ^ 1024 = 2 ^ 55 * 2 ^ 969 := by rw [← pow_add]
    have hsecond : (2 : ℚ) ^ 974 = 2 ^ 5 * 2 ^ 969 := by rw [← pow_add]
    rw [show (969 : Int) = ((969 : Nat) : Int) from rfl, zpow_natCast, hfirst, hsecond, ← sub_mul]
    norm_num
  rw [hgreatest]
  by_cases hlast : q = 971
  · subst hlast
    have hm := h rfl
    have hmantissa : ((4 * m + 2 : Nat) : ℚ) ≤ ((2 ^ 55 - 32 : Nat) : ℚ) := Nat.cast_le.mpr (by omega)
    have hsub : ((2 ^ 55 - 32 : Nat) : ℚ) = 2 ^ 55 - 32 := by norm_num
    exact mul_le_mul (hmantissa.trans hsub.le) (by norm_num) (by positivity) (by norm_num)
  · have hmantissa : ((4 * m + 2 : Nat) : ℚ) ≤ ((2 ^ 55 : Nat) : ℚ) := Nat.cast_le.mpr (by omega)
    have hpow : (2 : ℚ) ^ (q - 2) ≤ 2 ^ (968 : Int) := zpow_le_zpow_right₀ (by norm_num) (by omega)
    have hhalf : (2 : ℚ) ^ (969 : Int) = 2 ^ (968 : Int) * 2 := zpow_add_one₀ (by norm_num) 968
    have hpositive : (0 : ℚ) < 2 ^ (968 : Int) := by positivity
    calc ((4 * m + 2 : Nat) : ℚ) * 2 ^ (q - 2) ≤ ((2 ^ 55 : Nat) : ℚ) * 2 ^ (968 : Int) := by gcongr
      _ ≤ (2 ^ 55 - 32) * 2 ^ (969 : Int) := by
        rw [hhalf]
        generalize (2 : ℚ) ^ (968 : Int) = unit at hpositive ⊢
        norm_num
        linarith

/-- Whatever finite double was written, its decimal is readable. -/
theorem readable_shortest {m : Nat} {q : Int} (hm : m < 2 ^ 53) (hq : q ≤ 971)
    (hd : (Decimal.shortest .toEven m q).digits ≠ 0) : Readable (Decimal.shortest .toEven m q) := by
  by_cases hlast : q = 971 ∧ 2 ^ 53 - 8 ≤ m
  · obtain ⟨rfl, hm8⟩ := hlast
    obtain ⟨hword, hnonneg, hle, hlength, hfinite⟩ := readable_last (m - (2 ^ 53 - 8)) (by omega)
    have hsum : 2 ^ 53 - 8 + (m - (2 ^ 53 - 8)) = m := by omega
    rw [hsum] at hword hnonneg hle hlength hfinite
    have htake : takeIn 0 (Nat.toDigits 10 (Decimal.shortest .toEven m 971).digits) =
        ((Decimal.shortest .toEven m 971).digits, []) := by
      rw [takeIn_eq _ (by rwa [Nat.ofDigitChars_ten_toDigits]), Nat.ofDigitChars_ten_toDigits]
    refine ⟨?_, by omega⟩
    rw [htake, List.length_nil, Nat.cast_zero, add_zero]
    exact ⟨fun _ _ => hfinite, fun hlarge => absurd hlarge (by omega)⟩
  · exact readable_of_value_le hd
      ((Decimal.value_shortest_le .toEven m q).trans (midpoint_le hm hq fun hq => by omega))

theorem ofBits_bounds {b : UInt64} {negative : Bool} {m : Nat} {q : Int}
    (h : Binary64.ofBits b = .finite negative m q) : m < 2 ^ 53 ∧ q ≤ 971 := by
  have hexponent : ((b >>> 52) &&& 0x7FF).toNat ≤ 0x7FF := by
    rw [UInt64.toNat_and]
    exact Nat.and_le_right
  have hmantissa : (b &&& 0xFFFFFFFFFFFFF).toNat ≤ 0xFFFFFFFFFFFFF := by
    rw [UInt64.toNat_and]
    exact Nat.and_le_right
  simp only [Binary64.ofBits] at h
  generalize ((b >>> 52) &&& 0x7FF).toNat = e at h hexponent
  generalize (b &&& 0xFFFFFFFFFFFFF).toNat = f at h hmantissa
  have hpow : Nat.pow 2 52 = 2 ^ 52 := rfl
  rw [hpow] at h
  split at h
  · split at h <;> simp at h
  · split at h
    · obtain ⟨-, rfl, rfl⟩ := Binary64.finite.inj h
      omega
    · obtain ⟨-, rfl, rfl⟩ := Binary64.finite.inj h
      omega

/-! ### Numbers as values -/

theorem unsigned_nil (negative : Bool) : unsigned negative [] = .error .endInValue := rfl

theorem unsigned_cons_of_not_digit (negative : Bool) {c : Char} (s : Text) (hc : isDigit c = false) :
    unsigned negative (c :: s) = .error .invalidNumber := by
  refine bind_error (reads_next c s) ?_
  simp only [hc, Bool.not_false, if_true]
  rfl

theorem opens_of_reads_unsigned {negative : Bool} {s rest : Text} {a : Number}
    (h : Reads (unsigned negative) s a rest) : ∃ c t, s = c :: t ∧ isDigit c = true := by
  obtain ⟨_, h⟩ := h
  cases s with
  | nil => exact absurd (h.symm.trans (unsigned_nil negative)) (by simp)
  | cons c t =>
    cases hc : isDigit c with
    | true => exact ⟨c, t, rfl, hc⟩
    | false => exact absurd (h.symm.trans (unsigned_cons_of_not_digit negative t hc)) (by simp)

theorem ended_nil : Ended [] := by simp [Ended]

theorem ne_of_isDigit {c d : Char} (hc : isDigit c = true) (hd : isDigit d = false) : c ≠ d := by
  rintro rfl
  simp [hc] at hd

theorem not_blank_of_isDigit {c : Char} (hc : isDigit c = true) : isJsonBlank c = false := by
  have hspace := ne_of_isDigit hc (d := ' ') (by decide)
  have htab := ne_of_isDigit hc (d := '\t') (by decide)
  have hline := ne_of_isDigit hc (d := '\n') (by decide)
  have hreturn := ne_of_isDigit hc (d := '\r') (by decide)
  simp [isJsonBlank, hspace, htab, hline, hreturn]

/-- A number is a value. -/
theorem accepts_numberOf (expected : String) {s : Text} {a : Number}
    (h : ∀ rest, Ended rest → Reads (unsigned false) (s ++ rest) a rest) : Accepts (numberOf expected) s a := by
  obtain ⟨c, t, hs, hc⟩ := opens_of_reads_unsigned (h [] ended_nil)
  rw [List.append_nil] at hs
  refine ⟨⟨c, t, hs, not_blank_of_isDigit hc, ne_of_isDigit hc (by decide)⟩, fun blanks rest hblanks hrest => ?_⟩
  have hread := h rest hrest
  rw [hs, List.cons_append] at hread ⊢
  refine (reads_peek hblanks (stops_cons _ (not_blank_of_isDigit hc))).bind ?_
  simp only [List.head?_cons, hc, true_or, if_true]
  refine reads_number ?_ hread
  simpa using ne_of_isDigit hc (by decide)

/-- A number after a minus sign is a value. -/
theorem accepts_numberOf_negative (expected : String) {s : Text} {a : Number}
    (h : ∀ rest, Ended rest → Reads (unsigned true) (s ++ rest) a rest) :
    Accepts (numberOf expected) ('-' :: s) a := by
  refine ⟨⟨'-', s, rfl, by decide, by decide⟩, fun blanks rest hblanks hrest => ?_⟩
  rw [List.cons_append]
  refine (reads_peek hblanks (stops_cons _ (by decide))).bind ?_
  simp only [List.head?_cons, or_true, if_true]
  exact reads_number_negative (h rest hrest)

/-- A whole number is read as itself by whoever allows it. -/
theorem accepts_nat {n greatest : Nat} (expected : String) (hn : n ≤ greatest) (hword : n ≤ maxWord) :
    Accepts (nat greatest expected) (printNumber (.whole n)) n := by
  refine (accepts_numberOf expected fun rest hrest => reads_whole hword hrest).lift ?_
  simp only [boundedNat, hn, if_true]

/-- A finite double is read as a double. -/
theorem accepts_float {x : Float} (hx : (Binary64.ofFloat x).isFinite = true) :
    ∃ y, Accepts float (printNumber (.float x)) y := by
  simp only [printNumber, Notation.render]
  cases hparts : Binary64.ofFloat x with
  | nan => simp [hparts, Binary64.isFinite] at hx
  | infinite negative => simp [hparts, Binary64.isFinite] at hx
  | finite negative m q =>
    obtain ⟨hm, hq⟩ := ofBits_bounds hparts
    obtain ⟨y, hy⟩ := reads_magnitude negative (readable_shortest hm hq)
    cases negative with
    | false => exact ⟨_, (accepts_numberOf "f64" hy).map Number.toFloat⟩
    | true => exact ⟨_, (accepts_numberOf_negative "f64" hy).map Number.toFloat⟩

end ResponsiveMarkup.Json.Reader
