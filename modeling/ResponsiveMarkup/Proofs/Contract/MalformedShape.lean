import Mathlib.Data.List.Basic
import ResponsiveMarkup.Merge.Viewport
import ResponsiveMarkup.Proofs.Contract.CleanTokens

/-!
Which tokens are malformed. The check looks for an open font utility at the front of a token and else takes a scope
off. No token leaves it a choice between the two, for a bracket comes behind a utility and a colon behind a scope. So it
finds all tokens of the shape, also those whose scopes are named like utilities, and a scope in front of a token makes
no difference to it.
-/

namespace ResponsiveMarkup.Typography

open Text

theorem isScopeChar_iff {c : Char} :
    isScopeChar c = true ↔ ('a' ≤ c ∧ c ≤ 'z') ∨ ('0' ≤ c ∧ c ≤ '9') ∨ c = '-' := by
  simp [isScopeChar, or_assoc]

/-- A scope without its colon. -/
def IsScope (scope : Text) : Prop :=
  scope ≠ [] ∧ ∀ c ∈ scope, ('a' ≤ c ∧ c ≤ 'z') ∨ ('0' ≤ c ∧ c ≤ '9') ∨ c = '-'

instance (scope : Text) : Decidable (IsScope scope) :=
  decidable_of_iff (scope ≠ [] ∧ scope.all isScopeChar = true) (by simp [IsScope, isScopeChar_iff])

/-- Any number of scopes, each with its colon, then a font utility and a bracket that is not closed. -/
def MalformedShape (token : Text) : Prop :=
  ∃ (scopes : List Text) (utility rest : Text),
    (∀ scope ∈ scopes, IsScope scope) ∧ utility ∈ fontUtilities ∧ ']' ∉ rest ∧
      token = scopes.flatMap (· ++ [':']) ++ utility ++ "-[".toList ++ rest

theorem IsScope.chars {scope : Text} (h : IsScope scope) : ∀ c ∈ scope, isScopeChar c = true :=
  fun c hc => isScopeChar_iff.mpr (h.2 c hc)

/-! ### One turn of the check -/

theorem isOpenFont_iff {token : Text} : isOpenFont token = true ↔
    ∃ utility ∈ fontUtilities, ∃ rest, ']' ∉ rest ∧ token = utility ++ "-[".toList ++ rest := by
  simp only [isOpenFont, List.any_eq_true, Option.any_eq_true, stripStart?_eq_some]
  apply exists_congr
  intro utility
  apply and_congr_right
  intro _
  apply exists_congr
  intro rest
  rw [and_comm]
  simp

theorem behindScope?_eq_some_iff {token rest : Text} :
    behindScope? token = some rest ↔ ∃ scope, IsScope scope ∧ token = scope ++ ':' :: rest := by
  constructor
  · intro h
    rw [behindScope?] at h
    split at h
    · cases h
    · rename_i hfilled
      refine ⟨token.takeWhile isScopeChar, ⟨by simpa using hfilled, ?_⟩, ?_⟩
      · intro c hc
        exact isScopeChar_iff.mp (List.mem_takeWhile_imp hc)
      · have hrest := stripStart?_eq_some.mp h
        rw [List.singleton_append] at hrest
        rw [← hrest, List.takeWhile_append_dropWhile]
  · rintro ⟨scope, hscope, rfl⟩
    have hcolon : isScopeChar ':' = false := by decide
    have htake : (scope ++ ':' :: rest).takeWhile isScopeChar = scope := by
      rw [List.takeWhile_append_of_pos hscope.chars, List.takeWhile_cons_of_neg (by simp [hcolon]), List.append_nil]
    have hdrop : (scope ++ ':' :: rest).dropWhile isScopeChar = ':' :: rest := by
      rw [List.dropWhile_append_of_pos hscope.chars, List.dropWhile_cons_of_neg (by simp [hcolon])]
    have hfilled : scope.isEmpty = false := by simpa using hscope.1
    rw [behindScope?, htake, hdrop, hfilled, if_neg Bool.false_ne_true]
    exact stripStart?_eq_some.mpr rfl

/-- Behind the characters that a scope could consist of an open font utility has its bracket. -/
theorem behindScope?_of_isOpenFont {token : Text} (h : isOpenFont token = true) : behindScope? token = none := by
  have hchars : ∀ utility ∈ fontUtilities, (utility ++ ['-']).all isScopeChar = true := by decide
  have hbracket : isScopeChar '[' = false := by decide
  obtain ⟨utility, hutility, rest, -, rfl⟩ := isOpenFont_iff.mp h
  have hsplit : utility ++ "-[".toList ++ rest = (utility ++ ['-']) ++ '[' :: rest := by
    simp
  have hdrop : (utility ++ "-[".toList ++ rest).dropWhile isScopeChar = '[' :: rest := by
    rw [hsplit, List.dropWhile_append_of_pos (List.all_eq_true.mp (hchars utility hutility)),
      List.dropWhile_cons_of_neg (by simp [hbracket])]
  rw [behindScope?, hdrop]
  split
  · rfl
  · rfl

/-- A scope in front of a token makes no difference. -/
theorem isMalformedFont_scoped {scope : Text} (hscope : IsScope scope) (token : Text) :
    isMalformedFont (scope ++ ':' :: token) = isMalformedFont token := by
  have hbehind : behindScope? (scope ++ ':' :: token) = some token :=
    behindScope?_eq_some_iff.mpr ⟨scope, hscope, rfl⟩
  have hopen : isOpenFont (scope ++ ':' :: token) = false := by
    by_contra hopen
    rw [Bool.not_eq_false] at hopen
    rw [behindScope?_of_isOpenFont hopen] at hbehind
    cases hbehind
  rw [isMalformedFont_eq, hopen, hbehind]
  rfl

/-! ### The shape -/

theorem MalformedShape.scoped {scope token : Text} (hscope : IsScope scope) (h : MalformedShape token) :
    MalformedShape (scope ++ ':' :: token) := by
  obtain ⟨scopes, utility, rest, hscopes, hutility, hrest, rfl⟩ := h
  refine ⟨scope :: scopes, utility, rest, ?_, hutility, hrest, by simp⟩
  intro s hs
  rcases List.mem_cons.mp hs with rfl | hs
  · exact hscope
  · exact hscopes s hs

theorem isMalformedFont_of_scopes {scopes : List Text} (hscopes : ∀ scope ∈ scopes, IsScope scope) (token : Text) :
    isMalformedFont (scopes.flatMap (· ++ [':']) ++ token) = isMalformedFont token := by
  induction scopes with
  | nil => rfl
  | cons scope scopes ih =>
    have hfront : (scope :: scopes).flatMap (· ++ [':']) ++ token =
        scope ++ ':' :: (scopes.flatMap (· ++ [':']) ++ token) := by
      simp
    rw [hfront, isMalformedFont_scoped (hscopes scope List.mem_cons_self)]
    exact ih fun s hs => hscopes s (List.mem_cons_of_mem scope hs)

theorem malformedShape_of_isMalformedFont {token : Text} (h : isMalformedFont token = true) :
    MalformedShape token := by
  -- on the length, as each turn of the check goes on with what stands behind a scope
  induction hlength : token.length using Nat.strong_induction_on generalizing token with
  | _ n ih =>
    rw [isMalformedFont_eq, Bool.or_eq_true, Option.any_eq_true] at h
    rcases h with hopen | ⟨rest, hbehind, hrest⟩
    · obtain ⟨utility, hutility, rest, hrest, rfl⟩ := isOpenFont_iff.mp hopen
      exact ⟨[], utility, rest, by simp, hutility, hrest, rfl⟩
    · have hshorter := length_behindScope? hbehind
      obtain ⟨scope, hscope, rfl⟩ := behindScope?_eq_some_iff.mp hbehind
      exact .scoped hscope (ih rest.length (by omega) hrest rfl)

theorem isMalformedFont_iff {token : Text} : isMalformedFont token = true ↔ MalformedShape token := by
  constructor
  · exact malformedShape_of_isMalformedFont
  · rintro ⟨scopes, utility, rest, hscopes, hutility, hrest, rfl⟩
    have hopen : isOpenFont (utility ++ "-[".toList ++ rest) = true :=
      isOpenFont_iff.mpr ⟨utility, hutility, rest, hrest, rfl⟩
    rw [List.append_assoc, List.append_assoc, isMalformedFont_of_scopes hscopes, ← List.append_assoc,
      isMalformedFont_eq, hopen, Bool.true_or]

/-- The names of utilities are scopes as well. -/
example : MalformedShape "font:text-2xl:text-[".toList :=
  isMalformedFont_iff.mp (by decide +kernel)

/-! ### The scopes of viewports -/

theorem isScope_of_mem_knownScopes : ∀ scope ∈ knownScopes, ∃ name, IsScope name ∧ scope = name ++ [':'] := by
  have hnames : ∀ scope ∈ knownScopes, IsScope scope.dropLast ∧ scope = scope.dropLast ++ [':'] := by decide
  intro scope hscope
  exact ⟨scope.dropLast, hnames scope hscope⟩

theorem isMalformedFont_scopeToken {scope : Text} (hscope : scope ∈ knownScopes) (token : Text) :
    isMalformedFont (scopeToken token scope) = isMalformedFont token := by
  obtain ⟨name, hname, rfl⟩ := isScope_of_mem_knownScopes scope hscope
  rw [scopeToken]
  split
  · rfl
  · rw [List.append_assoc]
    exact isMalformedFont_scoped hname token

end ResponsiveMarkup.Typography
