import ResponsiveMarkup.Json.Printer
import ResponsiveMarkup.Json.Schema

/-!
Tables of learned rules, as values and as JSON. A rule says which class token gives way to what; the first
rule of a trigger is the one that counts. Confidence and occurrences tell where a rule comes from and decide
nothing.
-/

namespace ResponsiveMarkup

open Json Json.Reader

structure Rule where
  trigger : Text
  replacement : Text
  confidence : Float
  occurrences : Nat

structure RuleTable where
  version : Nat
  /-- The fingerprint of the logs that the rules were learned from. -/
  sourceHash : String
  rules : List Rule

namespace Rule

/-- A rule that is given, not learned. -/
def certain (trigger replacement : Text) : Rule := ⟨trigger, replacement, 1, 1⟩

def schema : Schema (Reader (Rule → Rule)) Rule where
  title := "struct LearnedRule"
  start := ⟨[], [], 0, 0⟩
  fields :=
    [requiredField "trigger" text fun v r => { r with trigger := v },
     requiredField "replacement" text fun v r => { r with replacement := v },
     field "confidence" float fun v r => { r with confidence := v },
     field "occurrences" word64 fun v r => { r with occurrences := v }]

def reader (room : Nat) : Reader Rule := record "struct LearnedRule" (inside room fun _ => schema)

def toJson (r : Rule) : Value :=
  .object
    [("trigger".toList, .string r.trigger),
     ("replacement".toList, .string r.replacement),
     ("confidence".toList, .number (.float r.confidence)),
     ("occurrences".toList, .number (.whole r.occurrences))]

end Rule

namespace RuleTable

def currentVersion : Nat := 1

def ofRules (rules : List Rule) (sourceHash : String) : RuleTable := ⟨currentVersion, sourceHash, rules⟩

/-- The table that stands for one that could not be read. -/
def empty : RuleTable := ⟨0, "", []⟩

def lookup? (t : RuleTable) (trigger : Text) : Option Rule := t.rules.find? (·.trigger == trigger)

def size (t : RuleTable) : Nat := t.rules.length

def isEmpty (t : RuleTable) : Bool := t.rules.isEmpty

def schema (room : Nat) : Schema (Reader (RuleTable → RuleTable)) RuleTable where
  title := "struct RuleTable"
  start := empty
  fields :=
    [field "version" word32 fun v t => { t with version := v },
     field "sourceHash" string fun v t => { t with sourceHash := v },
     field "rules" (list (inside room Rule.reader)) fun v t => { t with rules := v }]

def ofJson (s : Text) : Except Fault RuleTable :=
  Reader.parse (record "struct RuleTable" (inside maxNesting schema)) s

def toJson (t : RuleTable) : Value :=
  .object
    [("version".toList, .number (.whole t.version)),
     ("sourceHash".toList, .string t.sourceHash.toList),
     ("rules".toList, .list (t.rules.map Rule.toJson))]

end RuleTable

end ResponsiveMarkup
