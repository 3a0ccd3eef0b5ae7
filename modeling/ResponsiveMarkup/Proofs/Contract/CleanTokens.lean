import Mathlib.Data.List.Basic
import ResponsiveMarkup.Proofs.Contract.ClassRules
import ResponsiveMarkup.Proofs.Markup.Regular

/-!
What the two contracts that rewrite classes leave behind. After the first no token is malformed, and after the second
none is a trigger; a replacement comes out as escaped tokens, which are malformed just when those in the table are.
-/

namespace ResponsiveMarkup

open Text Contract

namespace Typography

/-! ### Malformed tokens -/

/-- What stands behind the first scope of a token. -/
def behindScope? (s : Text) : Option Text :=
  if (s.takeWhile isScopeChar).isEmpty then none else stripStart? [':'] (s.dropWhile isScopeChar)

theorem isMalformedFont_eq (s : Text) :
    isMalformedFont s = (isOpenFont s || (behindScope? s).any isMalformedFont) := by
  rw [isMalformedFont, behindScope?]
  congr 1
  cases hscope : (s.takeWhile isScopeChar).isEmpty with
  | true => split <;> simp
  | false =>
    split
    · rename_i rest hrest
      simp [hrest, stripStart?]
    · rename_i hno
      cases hrest : s.dropWhile isScopeChar with
      | nil => rfl
      | cons c rest =>
        have hcolon : ':' ≠ c := fun heq => hno rest (by rw [hrest, heq])
        simp [stripStart?, hcolon]

theorem length_behindScope? {s rest : Text} (h : behindScope? s = some rest) : rest.length < s.length := by
  rw [behindScope?] at h
  split at h
  · cases h
  · have hrest := congrArg List.length (stripStart?_eq_some.mp h)
    have hle := (List.dropWhile_sublist (l := s) isScopeChar).length_le
    rw [List.length_append, List.length_singleton] at hrest
    omega

theorem isOpenFont_escapeQuoted (s : Text) : isOpenFont (escapeQuoted s) = isOpenFont s := by
  have hplain : ∀ u ∈ fontUtilities, '&' ∉ u ++ "-[".toList ∧ '"' ∉ u ++ "-[".toList := by decide
  have hbracket (rest : Text) : (escapeQuoted rest).contains ']' = rest.contains ']' := by
    rw [Bool.eq_iff_iff, List.contains_iff_mem, List.contains_iff_mem]
    exact bracket_mem_escapeQuoted
  rw [isOpenFont, isOpenFont, Bool.eq_iff_iff, List.any_eq_true, List.any_eq_true]
  apply exists_congr
  intro u
  apply and_congr_right
  intro hu
  obtain ⟨hamp, hquot⟩ := hplain u hu
  rw [stripStart?_escapeQuoted hamp hquot, Option.any_map]
  simp only [hbracket]

theorem behindScope?_escapeQuoted (s : Text) : behindScope? (escapeQuoted s) = (behindScope? s).map escapeQuoted := by
  obtain ⟨htake, hdrop⟩ := cut_escapeQuoted (p := isScopeChar) (by decide) (by decide) s
  rw [behindScope?, behindScope?, htake, hdrop, stripStart?_escapeQuoted (by decide) (by decide)]
  split <;> rfl

/-- No character that is escaped has a part in what makes a token malformed. -/
theorem isMalformedFont_escapeQuoted (s : Text) : isMalformedFont (escapeQuoted s) = isMalformedFont s := by
  induction hlen : s.length using Nat.strong_induction_on generalizing s with
  | _ n ih =>
    rw [isMalformedFont_eq, isMalformedFont_eq s, isOpenFont_escapeQuoted, behindScope?_escapeQuoted]
    congr 1
    cases hrest : behindScope? s with
    | none => rfl
    | some rest =>
      have hlt := length_behindScope? hrest
      exact ih rest.length (by omega) rest rfl

/-! ### After the contract -/

def WellFormed (token : Text) : Prop := isMalformedFont token = false

theorem words_rule {v v' : Text} (h : v' ∈ (rule v).value? v) :
    words v' = (words v).filter fun t => !isMalformedFont t := by
  rw [rule, List.partition_eq_filter_filter] at h
  simp only at h
  split at h
  · rename_i hnone
    cases h
    rw [List.isEmpty_iff, List.filter_eq_nil_iff] at hnone
    exact (List.filter_eq_self.mpr fun t ht => by simpa using hnone t ht).symm
  · split at h
    · cases h
    · cases h
      exact words_joinWith fun u hu => (isWord_of_mem_words (List.mem_filter.mp hu).1).1

theorem wellFormed_rule {v v' : Text} (h : v' ∈ (rule v).value? v) : ∀ w ∈ words v', WellFormed w := by
  intro w hw
  rw [words_rule h] at hw
  simpa [WellFormed] using (List.mem_filter.mp hw).2

end Typography

namespace LearnedRules

variable {table : RuleTable}

/-- Neither a trigger nor malformed. -/
structure Final (table : RuleTable) (token : Text) : Prop where
  noTrigger : ruleFor? table token = none
  wellFormed : Typography.WellFormed token

/-- The replacements of the table hold no triggers and no malformed tokens. -/
def Closed (table : RuleTable) : Prop :=
  ∀ r ∈ table.rules, ∀ w ∈ words r.replacement,
    (∀ s ∈ table.rules, s.trigger ≠ w) ∧ Typography.isMalformedFont w = false

theorem final_escapeQuoted {w : Text} (htrigger : ∀ s ∈ table.rules, s.trigger ≠ w)
    (hformed : Typography.isMalformedFont w = false) : Final table (escapeQuoted w) := by
  constructor
  · rw [ruleFor?, unescapeAttr_escapeQuoted, RuleTable.lookup?, List.find?_eq_none]
    intro s hs hsame
    exact htrigger s hs (by simpa using hsame)
  · rw [Typography.WellFormed, Typography.isMalformedFont_escapeQuoted]
    exact hformed

theorem words_rule {v v' : Text} (h : v' ∈ (rule table v).value? v) :
    words v' = (words v).flatMap fun t => words (substituteToken table t) := by
  rw [rule] at h
  split at h
  · cases h
    rw [classValue, words_joinWith_flatMap, substituteClass, List.flatMap_map]
  · rename_i hhits
    cases h
    rw [substituteClass, Nat.not_lt, Nat.le_zero, List.length_eq_zero_iff, List.filter_eq_nil_iff] at hhits
    have hkept : ∀ t ∈ words v, words (substituteToken table t) = [t] := by
      intro t ht
      have hrule : ruleFor? table t = none := by simpa using hhits t ht
      simp only [substituteToken, hrule, (isWord_of_mem_words ht).1.words_eq]
    rw [List.flatMap_congr hkept, List.flatMap_singleton']

/-- What is left is what no rule is for, and what the rules bring is written with entities. -/
theorem mem_words_rule {v v' w : Text} (h : v' ∈ (rule table v).value? v) (hw : w ∈ words v') :
    w ∈ words v ∧ ruleFor? table w = none ∨ ∃ r ∈ table.rules, ∃ u ∈ words r.replacement, w = escapeQuoted u := by
  rw [words_rule h] at hw
  obtain ⟨t, ht, hw⟩ := List.mem_flatMap.mp hw
  rw [substituteToken] at hw
  cases hrule : ruleFor? table t with
  | none =>
    rw [hrule] at hw
    simp only [(isWord_of_mem_words ht).1.words_eq, List.mem_singleton] at hw
    rw [hw]
    exact Or.inl ⟨ht, hrule⟩
  | some r =>
    rw [hrule] at hw
    simp only [words_escapeAttr] at hw
    obtain ⟨u, hu, rfl⟩ := List.mem_map.mp hw
    exact Or.inr ⟨r, List.mem_of_find?_eq_some hrule, u, hu, rfl⟩

theorem final_rule (hclosed : Closed table) {v v' : Text} (hv : ∀ w ∈ words v, Typography.WellFormed w)
    (h : v' ∈ (rule table v).value? v) : ∀ w ∈ words v', Final table w := by
  intro w hw
  rcases mem_words_rule h hw with ⟨hkept, hrule⟩ | ⟨r, hr, u, hu, rfl⟩
  · exact ⟨hrule, hv w hkept⟩
  · obtain ⟨htrigger, hformed⟩ := hclosed r hr u hu
    exact final_escapeQuoted htrigger hformed

end LearnedRules

end ResponsiveMarkup
