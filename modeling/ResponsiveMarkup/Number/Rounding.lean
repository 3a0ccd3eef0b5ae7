/-!
A quotient of naturals rounded to the nearest natural, with the two ways a half can go.
-/

namespace ResponsiveMarkup

inductive Tie where
  | toEven
  | away
  deriving DecidableEq, Repr

/-- `num / den` to the nearest natural. -/
def roundDiv (tie : Tie) (num den : Nat) : Nat :=
  let whole := num / den
  match compare (2 * (num % den)) den, tie with
  | .lt, _ => whole
  | .gt, _ => whole + 1
  | .eq, .away => whole + 1
  | .eq, .toEven => if whole % 2 = 0 then whole else whole + 1

theorem roundDiv_near (tie : Tie) (num den : Nat) (h : 0 < den) :
    2 * (roundDiv tie num den * den) ≤ 2 * num + den ∧
      2 * num ≤ 2 * (roundDiv tie num den * den) + den := by
  have split_num : den * (num / den) + num % den = num := Nat.div_add_mod num den
  have small : num % den < den := Nat.mod_lt _ h
  simp only [roundDiv]
  generalize num / den = w at *
  generalize num % den = r at *
  have next : (w + 1) * den = den * w + den := by rw [Nat.add_mul, Nat.mul_comm]; simp
  have same : w * den = den * w := Nat.mul_comm ..
  generalize den * w = p at *
  split
  · rename_i hc; rw [Nat.compare_eq_lt] at hc; omega
  · rename_i hc; rw [Nat.compare_eq_gt] at hc; omega
  · rename_i hc; rw [Nat.compare_eq_eq] at hc; omega
  · rename_i hc; rw [Nat.compare_eq_eq] at hc; split <;> omega

theorem roundDiv_eq (tie : Tie) (num den : Nat) :
    roundDiv tie num den = num / den ∨ roundDiv tie num den = num / den + 1 := by
  simp only [roundDiv]
  split
  · exact .inl rfl
  · exact .inr rfl
  · exact .inr rfl
  · split
    · exact .inl rfl
    · exact .inr rfl

theorem le_roundDiv (tie : Tie) (num den : Nat) : num / den ≤ roundDiv tie num den := by
  rcases roundDiv_eq tie num den with h | h <;> omega

theorem roundDiv_away_eq_zero_iff (num den : Nat) : roundDiv .away num den = 0 ↔ 2 * num < den := by
  constructor
  · intro hzero
    have hquotient : num / den = 0 := Nat.le_zero.mp (hzero ▸ le_roundDiv .away num den)
    have hremainder : num % den = num := by
      have hsplit := Nat.div_add_mod num den
      rw [hquotient, Nat.mul_zero, Nat.zero_add] at hsplit
      exact hsplit
    simp only [roundDiv, hquotient, hremainder] at hzero
    split at hzero
    · rename_i hbelow
      exact Nat.compare_eq_lt.mp hbelow
    · cases hzero
    · cases hzero
    · contradiction
  · intro hsmall
    have hquotient : num / den = 0 := Nat.div_eq_of_lt (by omega)
    have hremainder : num % den = num := Nat.mod_eq_of_lt (by omega)
    simp only [roundDiv, hremainder, hquotient, Nat.compare_eq_lt.mpr hsmall]

end ResponsiveMarkup
