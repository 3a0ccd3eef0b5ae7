import ResponsiveMarkup.Rules.Table

/-!
The index of a rule table: for each trigger the place of its first rule. It is built rule by rule whenever a table is
made or read, and is no part of the written form.
-/

namespace ResponsiveMarkup

/-- Triggers with the places of their rules, each trigger once. -/
structure TriggerIndex where
  entries : List (Text × Nat)
  distinct : (entries.map (·.1)).Nodup

namespace TriggerIndex

def empty : TriggerIndex := ⟨[], List.nodup_nil⟩

theorem distinct_append {entries : List (Text × Nat)} {trigger : Text} (place : Nat)
    (h : (entries.map (·.1)).Nodup) (hnew : ¬entries.any (·.1 == trigger) = true) :
    ((entries ++ [(trigger, place)]).map (·.1)).Nodup := by
  rw [List.map_append, List.nodup_append]
  refine ⟨h, by simp, ?_⟩
  rintro _ ha b hb rfl
  obtain ⟨e, he, hsame⟩ := List.mem_map.mp ha
  have htrigger : e.1 = trigger := hsame.trans (List.mem_singleton.mp hb)
  exact hnew (List.any_eq_true.mpr ⟨e, he, beq_iff_eq.mpr htrigger⟩)

/-- A trigger that has a place keeps it. -/
def enter (x : TriggerIndex) (trigger : Text) (place : Nat) : TriggerIndex :=
  if h : x.entries.any (·.1 == trigger) = true then x
  else ⟨x.entries ++ [(trigger, place)], distinct_append place x.distinct h⟩

def place? (x : TriggerIndex) (trigger : Text) : Option Nat := (x.entries.find? (·.1 == trigger)).map (·.2)

end TriggerIndex

namespace RuleTable

def index (t : RuleTable) : TriggerIndex :=
  t.rules.zipIdx.foldl (fun x (rule, place) => x.enter rule.trigger place) .empty

/-- The place of the rule that counts for a trigger. -/
def position? (t : RuleTable) (trigger : Text) : Option Nat := t.index.place? trigger

end RuleTable

end ResponsiveMarkup
