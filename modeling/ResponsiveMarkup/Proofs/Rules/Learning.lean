import ResponsiveMarkup.Contract.LearnedRules
import ResponsiveMarkup.Proofs.Markup.Escape
import ResponsiveMarkup.Rules.Mining

/-!
Rules that were learned, applied to the class values they were learned from. An edit that swaps one token for another
takes the first away wherever it stands; a rule does the same to the class value as markup writes it, with its quotes
and ampersands escaped.
-/

namespace ResponsiveMarkup

open Text LearnedRules

namespace EditRecord

variable {e : EditRecord} {t r w : Text}

theorem mem_removed : w ∈ e.removed ↔ w ∈ words e.before ∧ w ∉ words e.after := by
  simp only [removed, List.mem_filter, mem_dedupe, decide_eq_true_eq]

theorem mem_added : w ∈ e.added ↔ w ∈ words e.after ∧ w ∉ words e.before := by
  simp only [added, List.mem_filter, mem_dedupe, decide_eq_true_eq]

theorem swap?_eq_some_iff : e.swap? = some (t, r) ↔ e.removed = [t] ∧ e.added = [r] := by
  rw [swap?]
  split
  · rename_i trigger replacement hremoved hadded
    rw [hremoved, hadded, Option.some_inj, Prod.mk.injEq, List.singleton_inj, List.singleton_inj]
  · rename_i hother
    simp only [reduceCtorEq, false_iff]
    exact fun ⟨hremoved, hadded⟩ => hother t r hremoved hadded

/-- The one token removed was there and is gone. -/
theorem gone_of_swap (h : e.swap? = some (t, r)) (w : Text) : w ∈ words e.before ∧ w ∉ words e.after ↔ w = t := by
  rw [← mem_removed, (swap?_eq_some_iff.mp h).1, List.mem_singleton]

/-- The one token added is there and is new. -/
theorem new_of_swap (h : e.swap? = some (t, r)) (w : Text) : w ∈ words e.after ∧ w ∉ words e.before ↔ w = r := by
  rw [← mem_added, (swap?_eq_some_iff.mp h).2, List.mem_singleton]

theorem mem_words_after (h : e.swap? = some (t, r)) :
    w ∈ words e.after ↔ w = r ∨ w ∈ words e.before ∧ w ≠ t := by
  have hgone := gone_of_swap h w
  have hnew := new_of_swap h w
  constructor
  · intro hafter
    by_cases hbefore : w ∈ words e.before
    · exact Or.inr ⟨hbefore, fun heq => (hgone.mpr heq).2 hafter⟩
    · exact Or.inl (hnew.mp ⟨hafter, hbefore⟩)
  · rintro (heq | ⟨hbefore, hne⟩)
    · exact (hnew.mpr heq).1
    · by_contra hafter
      exact hne (hgone.mp ⟨hbefore, hafter⟩)

end EditRecord

namespace RuleTable

/-- A token after the rules, both without entities. -/
def reworded (table : RuleTable) (w : Text) : Text :=
  match table.lookup? w with
  | some rule => collapse rule.replacement
  | none => w

theorem unescapeAttr_substituteToken (table : RuleTable) (w : Text) :
    unescapeAttr (substituteToken table (escapeQuoted w)) = table.reworded w := by
  rw [substituteToken, ruleFor?, unescapeAttr_escapeQuoted, reworded]
  cases table.lookup? w with
  | some rule => exact unescapeAttr_escapeQuoted (collapse rule.replacement)
  | none => exact unescapeAttr_escapeQuoted w

/-- The rules see the tokens of a class value through the entities it is written with. -/
theorem substituteClass_escapeAttr (table : RuleTable) (s : Text) :
    (substituteClass table (escapeAttr s)).tokens.map unescapeAttr = (words s).map table.reworded := by
  rw [substituteClass, words_escapeAttr, List.map_map, List.map_map]
  exact List.map_congr_left fun w _ => unescapeAttr_substituteToken table w

theorem hits_escapeAttr (table : RuleTable) (s : Text) :
    (substituteClass table (escapeAttr s)).hits = (words s).countP fun w => (table.lookup? w).isSome := by
  rw [substituteClass, words_escapeAttr, ← List.countP_eq_length_filter, List.countP_map]
  refine List.countP_congr fun w _ => ?_
  rw [Function.comp_apply, ruleFor?, unescapeAttr_escapeQuoted]

end RuleTable

namespace Mining

theorem mem_swaps {edits : List EditRecord} {p : Text × Text} :
    p ∈ swaps edits ↔ ∃ e ∈ edits, e.swap? = some p := List.mem_filterMap

/-- A rule that was learned is a swap that some edit made. -/
theorem exists_swap_of_mem_rules {o : Thresholds} {edits : List EditRecord} {rule : Rule} (h : rule ∈ rules o edits) :
    ∃ e ∈ edits, e.swap? = some (rule.trigger, rule.replacement) := by
  obtain ⟨tally, htally, rfl⟩ := List.mem_map.mp h
  obtain ⟨p, hp, rfl⟩ := List.mem_map.mp (List.mem_of_mem_filter (List.mem_mergeSort.mp htally))
  exact mem_swaps.mp (mem_dedupe.mp hp)

/-- A swap comes out again where the rules swap the same tokens and touch none of the others. -/
theorem swap_reproduced {e : EditRecord} {t r : Text} (hswap : e.swap? = some (t, r)) {table : RuleTable} {rule : Rule}
    (hrule : table.lookup? t = some rule) (hreplacement : rule.replacement = r)
    (hothers : ∀ w ∈ words e.before, w ≠ t → table.lookup? w = none) :
    (∀ w, w ∈ (substituteClass table (escapeAttr e.before)).tokens.map unescapeAttr ↔ w ∈ words e.after) ∧
    (substituteClass table (escapeAttr e.before)).hits = (words e.before).count t := by
  have ht : t ∈ words e.before := ((EditRecord.gone_of_swap hswap t).mpr rfl).1
  have hr : IsWord r := (isWord_of_mem_words ((EditRecord.new_of_swap hswap r).mpr rfl).1).1
  have htrigger : table.reworded t = r := by
    simp only [RuleTable.reworded, hrule, hreplacement, hr.collapse_eq]
  have hother : ∀ w ∈ words e.before, w ≠ t → table.reworded w = w := by
    intro w hw hne
    simp only [RuleTable.reworded, hothers w hw hne]
  constructor
  · intro w
    rw [RuleTable.substituteClass_escapeAttr, EditRecord.mem_words_after hswap, List.mem_map]
    constructor
    · rintro ⟨v, hv, rfl⟩
      by_cases hvt : v = t
      · exact Or.inl (hvt ▸ htrigger)
      · rw [hother v hv hvt]
        exact Or.inr ⟨hv, hvt⟩
    · rintro (rfl | ⟨hw, hne⟩)
      · exact ⟨t, ht, htrigger⟩
      · exact ⟨w, hw, hother w hw hne⟩
  · rw [RuleTable.hits_escapeAttr, List.count]
    refine List.countP_congr fun w hw => ?_
    by_cases hwt : w = t
    · simp [hwt, hrule]
    · simp [hwt, hothers w hw hwt]

/-- What was learned from edits, applied to what an edit started from, gives what it ended with. -/
theorem learned_swap_reproduced (edits : List EditRecord) (o : Thresholds) (sourceHash : String) :
    ∀ e ∈ edits, ∀ t r, e.swap? = some (t, r) →
    (∃ rule, (RuleTable.ofRules (rules o edits) sourceHash).lookup? t = some rule ∧ rule.replacement = r) →
    (∀ w ∈ words e.before, w ≠ t → (RuleTable.ofRules (rules o edits) sourceHash).lookup? w = none) →
    (∀ w, w ∈ (substituteClass (RuleTable.ofRules (rules o edits) sourceHash) (escapeAttr e.before)).tokens.map
        unescapeAttr ↔ w ∈ words e.after) ∧
    (substituteClass (RuleTable.ofRules (rules o edits) sourceHash) (escapeAttr e.before)).hits =
      (words e.before).count t := by
  rintro e - t r hswap ⟨rule, hrule, hreplacement⟩ hothers
  exact swap_reproduced hswap hrule hreplacement hothers

def quotedToken : Text := "[&>a]:w-[\"1\"]".toList

def otherToken : Text := "[&>b]:w-[\"2\"]".toList

/-- The token that is swapped stands twice. -/
def quotedSwap : EditRecord :=
  ⟨none, quotedToken ++ "\n flex ".toList ++ quotedToken, "flex ".toList ++ otherToken⟩

def quotedSwaps : List EditRecord := [quotedSwap, ⟨none, "flex".toList, "flex grow".toList⟩, quotedSwap]

theorem rules_quotedSwaps : rules Thresholds.standard quotedSwaps = [Tally.rule ⟨quotedToken, otherToken, 2, 2⟩] := by
  have htallies : tallies quotedSwaps = [⟨quotedToken, otherToken, 2, 2⟩] := by decide
  have hpasses : Tally.passes Thresholds.standard ⟨quotedToken, otherToken, 2, 2⟩ = true := by decide
  rw [rules, htallies, List.filter_cons_of_pos hpasses, List.filter_nil, List.mergeSort_singleton, List.map_singleton]

theorem learned_swap_reproduced_quotedSwaps :
    quotedSwap.swap? = some (quotedToken, otherToken) ∧
    (∃ rule, (RuleTable.ofRules (rules Thresholds.standard quotedSwaps) "").lookup? quotedToken = some rule ∧
      rule.replacement = otherToken) ∧
    (∀ w ∈ words quotedSwap.before, w ≠ quotedToken →
      (RuleTable.ofRules (rules Thresholds.standard quotedSwaps) "").lookup? w = none) ∧
    (∀ w, w ∈ (substituteClass (RuleTable.ofRules (rules Thresholds.standard quotedSwaps) "")
        (escapeAttr quotedSwap.before)).tokens.map unescapeAttr ↔ w ∈ words quotedSwap.after) ∧
    (substituteClass (RuleTable.ofRules (rules Thresholds.standard quotedSwaps) "")
        (escapeAttr quotedSwap.before)).hits = (words quotedSwap.before).count quotedToken := by
  have hswap : quotedSwap.swap? = some (quotedToken, otherToken) := by decide
  have hrule : ∃ rule, (RuleTable.ofRules (rules Thresholds.standard quotedSwaps) "").lookup? quotedToken = some rule ∧
      rule.replacement = otherToken := by
    rw [rules_quotedSwaps]
    exact ⟨_, rfl, rfl⟩
  have hothers : ∀ w ∈ words quotedSwap.before, w ≠ quotedToken →
      (RuleTable.ofRules (rules Thresholds.standard quotedSwaps) "").lookup? w = none := by
    rw [rules_quotedSwaps]
    decide
  exact ⟨hswap, hrule, hothers,
    learned_swap_reproduced quotedSwaps Thresholds.standard "" quotedSwap List.mem_cons_self _ _ hswap hrule hothers⟩

end Mining

end ResponsiveMarkup
