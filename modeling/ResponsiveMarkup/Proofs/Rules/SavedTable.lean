import Mathlib
import ResponsiveMarkup.Proofs.Json.Numerals
import ResponsiveMarkup.Proofs.Rules.Index
import ResponsiveMarkup.Proofs.Storage.WriteRead
import ResponsiveMarkup.Rules.Store

/-!
A rule table that is saved and loaded again. Nothing is lost on the way but, perhaps, the last digit of a confidence;
and the index, which is not written, is built anew with the same places.
-/

namespace ResponsiveMarkup

open Json Json.Reader

/-! ### The written form -/

namespace Rule

/-- What counts of a rule: which token gives way to what, and how often that was seen. -/
def mapping (r : Rule) : Text × Text × Nat := (r.trigger, r.replacement, r.occurrences)

theorem printAt_toJson (r : Rule) (level : Nat) :
    r.toJson.printAt level = bracketedLines level '\x7b' '\x7d'
      [printedMember "trigger".toList (printString r.trigger),
       printedMember "replacement".toList (printString r.replacement),
       printedMember "confidence".toList (printNumber (.float r.confidence)),
       printedMember "occurrences".toList (printNumber (.whole r.occurrences))] := rfl

/-- A rule is read from what is printed for it. -/
theorem accepts_reader {r : Rule} (level room : Nat) (hoccurrences : r.occurrences < 2 ^ 64)
    (hfinite : (Binary64.ofFloat r.confidence).isFinite = true) :
    ∃ loaded : Rule, Accepts (reader (room + 1)) (r.toJson.printAt level) loaded ∧ loaded.mapping = r.mapping := by
  obtain ⟨confidence, hconfidence⟩ := accepts_float hfinite
  have hword : r.occurrences ≤ Nat.pow 2 64 - 1 := Nat.le_sub_one_of_lt hoccurrences
  have hcount : Accepts word64 _ r.occurrences := accepts_nat "u64" hword hword
  refine ⟨{ r with confidence := confidence }, ?_, rfl⟩
  rw [printAt_toJson]
  exact accepts_fields schema "struct LearnedRule" level
    [⟨requiredField "trigger" text fun v r => { r with trigger := v }, _, _⟩,
     ⟨requiredField "replacement" text fun v r => { r with replacement := v }, _, _⟩,
     ⟨field "confidence" float fun v r => { r with confidence := v }, _, _⟩,
     ⟨field "occurrences" word64 fun v r => { r with occurrences := v }, _, _⟩]
    (by decide) (by decide) rfl (by simp) (by
      simp only [List.forall_mem_cons]
      exact ⟨(accepts_text r.trigger).map _, (accepts_text r.replacement).map _, hconfidence.map _, hcount.map _,
        List.forall_mem_nil _⟩)

/-- The rules of a list, one after another. -/
theorem accepts_readers {rules : List Rule} (level room : Nat) (hoccurrences : ∀ r ∈ rules, r.occurrences < 2 ^ 64)
    (hfinite : ∀ r ∈ rules, (Binary64.ofFloat r.confidence).isFinite = true) :
    ∃ loaded : List Rule,
      List.Forall₂ (Accepts (reader (room + 1))) (Value.printItems level (rules.map toJson)) loaded ∧
        loaded.map mapping = rules.map mapping := by
  induction rules with
  | nil => exact ⟨[], .nil, rfl⟩
  | cons r rules ih =>
    rw [List.forall_mem_cons] at hoccurrences hfinite
    obtain ⟨first, hfirst, hsame⟩ := accepts_reader level room hoccurrences.1 hfinite.1
    obtain ⟨further, hfurther, hrest⟩ := ih hoccurrences.2 hfinite.2
    refine ⟨first :: further, .cons hfirst hfurther, ?_⟩
    rw [List.map_cons, List.map_cons, hsame, hrest]

end Rule

namespace RuleTable

theorem print_toJson (t : RuleTable) : t.toJson.print = bracketedLines 0 '\x7b' '\x7d'
    [printedMember "version".toList (printNumber (.whole t.version)),
     printedMember "sourceHash".toList (printString t.sourceHash.toList),
     printedMember "rules".toList (bracketedLines 1 '[' ']' (Value.printItems 2 (t.rules.map Rule.toJson)))] := rfl

/-- Tables whose rules say the same have the same places. -/
theorem position?_congr {t loaded : RuleTable} (h : loaded.rules.map Rule.mapping = t.rules.map Rule.mapping)
    (trigger : Text) : loaded.position? trigger = t.position? trigger := by
  have htriggers (table : RuleTable) : table.position? trigger =
      (table.rules.map Rule.mapping).findIdx? (·.1 == trigger) := by
    rw [position?_eq, List.findIdx?_map]
    rfl
  rw [htriggers, htriggers, h]

/-- What is printed for a table is read as a table that says the same. -/
theorem ofJson_print (t : RuleTable) (hversion : t.version < 2 ^ 32)
    (hoccurrences : ∀ r ∈ t.rules, r.occurrences < 2 ^ 64)
    (hfinite : ∀ r ∈ t.rules, (Binary64.ofFloat r.confidence).isFinite = true) :
    ∃ loaded, ofJson t.toJson.print = .ok loaded ∧ loaded.version = t.version ∧
      loaded.sourceHash = t.sourceHash ∧ loaded.rules.map Rule.mapping = t.rules.map Rule.mapping := by
  obtain ⟨rules, hrules, hsame⟩ := Rule.accepts_readers 2 124 hoccurrences hfinite
  have hword : t.version ≤ Nat.pow 2 32 - 1 := Nat.le_sub_one_of_lt hversion
  have hversion : Accepts word32 _ t.version := accepts_nat "u32" hword (Nat.le_trans hword (by decide))
  have hlist := accepts_list 1 hrules
  refine ⟨⟨t.version, t.sourceHash, rules⟩, ?_, rfl, rfl, hsame⟩
  have hroom : inside maxNesting schema = some (schema 126) := rfl
  rw [print_toJson, ofJson, hroom]
  refine Accepts.parse ?_
  exact accepts_fields (schema 126) "struct RuleTable" 0
    [⟨field "version" word32 fun v t => { t with version := v }, _, _⟩,
     ⟨field "sourceHash" string fun v t => { t with sourceHash := v }, _, _⟩,
     ⟨field "rules" (list (inside 126 Rule.reader)) fun v t => { t with rules := v }, _, _⟩]
    (by decide) (by decide) rfl (by simp) (by
      simp only [List.forall_mem_cons]
      exact ⟨hversion.map _, (accepts_string t.sourceHash).map _, hlist.map _, List.forall_mem_nil _⟩)

theorem write_of_save {t : RuleTable} {st : Storage} {path : Text} (h : (t.save st path).fault = none) :
    ∃ before : Storage, before.write path (Text.utf8 t.toJson.print) = .ok (t.save st path).storage := by
  simp only [save, Storage.Changed.mapFault, Storage.Changed.andThen, Option.map_eq_none_iff] at h ⊢
  cases hfolders : (st.createFolders (Storage.parentOf path)).fault with
  | some e => simp [hfolders] at h
  | none =>
    refine ⟨(st.createFolders (Storage.parentOf path)).storage, ?_⟩
    simp only [hfolders] at h ⊢
    split at h
    · rename_i after hwrite
      rw [hwrite]
    · exact absurd h (by simp)

/-- A table that was saved is loaded as what is read of its text. -/
theorem load_save {t loaded : RuleTable} {st : Storage} {path : Text} (h : (t.save st path).fault = none)
    (hread : decode path t.toJson.print = .ok loaded) : load (t.save st path).storage path = .ok loaded := by
  obtain ⟨before, hwrite⟩ := write_of_save h
  rw [load, Storage.readText_write hwrite]
  exact hread

/-- A saved table is read without fault, and nothing of it is lost: not the version, not the fingerprint, not a rule,
its trigger, its replacement or its count. Every trigger leads to the same place as before, that of its first rule. -/
theorem load_saved (t : RuleTable) (hversion : t.version < 2 ^ 32)
    (hoccurrences : ∀ r ∈ t.rules, r.occurrences < 2 ^ 64)
    (hfinite : ∀ r ∈ t.rules, (Binary64.ofFloat r.confidence).isFinite = true) :
    ∃ loaded : RuleTable,
      (∀ path, decode path t.toJson.print = .ok loaded) ∧
      (∀ st path, (t.save st path).fault = none → load (t.save st path).storage path = .ok loaded) ∧
      loaded.version = t.version ∧ loaded.sourceHash = t.sourceHash ∧
      loaded.rules.map Rule.mapping = t.rules.map Rule.mapping ∧
      ∀ trigger, loaded.position? trigger = t.position? trigger ∧
        t.position? trigger = t.rules.findIdx? (·.trigger == trigger) ∧
        t.lookup? trigger = (t.position? trigger).bind (t.rules[·]?) ∧
        loaded.lookup? trigger = (loaded.position? trigger).bind (loaded.rules[·]?) := by
  obtain ⟨loaded, hread, hversion', hhash, hrules⟩ := ofJson_print t hversion hoccurrences hfinite
  have hdecode (path : Text) : decode path t.toJson.print = .ok loaded := by
    rw [decode, hread]
    rfl
  refine ⟨loaded, hdecode, fun st path h => load_save h (hdecode path), hversion', hhash, hrules, fun trigger => ?_⟩
  exact ⟨position?_congr hrules trigger, position?_eq t trigger, lookup?_eq t trigger, lookup?_eq loaded trigger⟩

/-- Characters that are escaped and characters of several bytes, two rules of one trigger, the greatest counts and
the greatest double. -/
def crowded : RuleTable :=
  ⟨4294967295, "\"\\\x01é",
    [⟨"p-4".toList, "p-2".toList, 0.1, 18446744073709551615⟩,
     ⟨"p-4".toList, "\t\x00😀".toList, -2.5e-7, 0⟩,
     ⟨[], "\x7f".toList, Float.ofBits 0x7FEFFFFFFFFFFFFF, 1⟩]⟩

theorem load_saved_crowded :
    (crowded.version < 2 ^ 32 ∧ (∀ r ∈ crowded.rules, r.occurrences < 2 ^ 64) ∧
      ∀ r ∈ crowded.rules, (Binary64.ofFloat r.confidence).isFinite = true) ∧
    (crowded.save .empty "out/rules.json".toList).fault = none ∧
    ∃ loaded : RuleTable,
      load (crowded.save .empty "out/rules.json".toList).storage "out/rules.json".toList = .ok loaded ∧
      loaded.rules.map Rule.mapping = crowded.rules.map Rule.mapping ∧ loaded.position? "p-4".toList = some 0 := by
  have hversion : crowded.version < 2 ^ 32 := by decide
  have hoccurrences : ∀ r ∈ crowded.rules, r.occurrences < 2 ^ 64 := by decide +kernel
  have hfinite : ∀ r ∈ crowded.rules, (Binary64.ofFloat r.confidence).isFinite = true := by decide +kernel
  have hfolder : Storage.empty.createFolders (Storage.parentOf "out/rules.json".toList) =
      ⟨⟨[(["out".toList], .folder)]⟩, none⟩ := by cbv
  have hfile (bytes : List UInt8) : (⟨[(["out".toList], .folder)]⟩ : Storage).write "out/rules.json".toList bytes =
      .ok ⟨[(["out".toList], .folder), (["out".toList, "rules.json".toList], .file bytes)]⟩ := by cbv
  have hsaved : (crowded.save .empty "out/rules.json".toList).fault = none := by
    rw [save, hfolder]
    simp only [Storage.Changed.andThen, Storage.Changed.mapFault, hfile, Option.map_none]
  obtain ⟨loaded, -, hload, -, -, hrules, hplaces⟩ := load_saved crowded hversion hoccurrences hfinite
  refine ⟨⟨hversion, hoccurrences, hfinite⟩, hsaved, loaded, hload .empty _ hsaved, hrules, ?_⟩
  rw [(hplaces _).1]
  decide +kernel

end RuleTable

end ResponsiveMarkup
