import ResponsiveMarkup.Rules.TriggerIndex

/-!
The index of a rule table leads to the first rule of each trigger.
-/

namespace ResponsiveMarkup

namespace TriggerIndex

theorem place?_enter (x : TriggerIndex) (trigger : Text) (place : Nat) (wanted : Text) :
    (x.enter trigger place).place? wanted =
      (x.place? wanted).or (if trigger == wanted then some place else none) := by
  rw [enter]
  split
  · rename_i hpresent
    by_cases hwanted : trigger = wanted
    · have hfound : (x.place? wanted).isSome := by
        rw [place?, Option.isSome_map, List.find?_isSome, ← hwanted]
        exact List.any_eq_true.mp hpresent
      rw [Option.or_of_isSome hfound]
    · simp [hwanted]
  · rw [place?, place?, List.find?_append, List.find?_singleton, Option.map_or]
    simp only
    split <;> rfl

/-- Entering rules one after another gives each trigger the place of its first rule. -/
theorem place?_foldl (rules : List Rule) (x : TriggerIndex) (start : Nat) (wanted : Text) :
    ((rules.zipIdx start).foldl (fun x (rule, place) => x.enter rule.trigger place) x).place? wanted =
      (x.place? wanted).or ((rules.findIdx? (·.trigger == wanted)).map (· + start)) := by
  induction rules generalizing x start with
  | nil => simp
  | cons r rules ih =>
    rw [List.zipIdx_cons, List.foldl_cons, ih, place?_enter, Option.or_assoc, List.findIdx?_cons]
    cases hr : r.trigger == wanted with
    | true => simp
    | false =>
      simp only [Bool.false_eq_true, if_false, Option.none_or, Option.map_map]
      congr 2
      funext i
      simp only [Function.comp]
      omega

end TriggerIndex

namespace RuleTable

/-- The place of a trigger is that of its first rule. -/
theorem position?_eq (t : RuleTable) (trigger : Text) :
    t.position? trigger = t.rules.findIdx? (·.trigger == trigger) := by
  rw [position?, index, TriggerIndex.place?_foldl]
  simp [TriggerIndex.place?, TriggerIndex.empty]

/-- Looking a trigger up is going to its place. -/
theorem lookup?_eq (t : RuleTable) (trigger : Text) :
    t.lookup? trigger = (t.position? trigger).bind (t.rules[·]?) := by
  rw [position?_eq, lookup?, List.find?_eq_bind_findIdx?_getElem?]

end RuleTable

end ResponsiveMarkup
