import Mathlib
import ResponsiveMarkup.Proofs.Rules.Learning
import ResponsiveMarkup.Proofs.Storage.WriteRead
import ResponsiveMarkup.Rules.Store

/-!
What the learned rules depend on: the multiset of the edits, each by its sets of tokens, and nothing else. Tallies that
tie in every part of the order are one tally, so the order in which they are counted or looked through leaves no trace.
For logs this means that it does not matter which file a line stands in.
-/

namespace ResponsiveMarkup

open Text

namespace EditRecord

variable {e e' : EditRecord}

/-- The same tokens before and after, whatever their order, their number, the blanks and the node. -/
structure SameTokens (e e' : EditRecord) : Prop where
  before : ∀ w, w ∈ words e.before ↔ w ∈ words e'.before
  after : ∀ w, w ∈ words e.after ↔ w ∈ words e'.after

theorem SameTokens.refl (e : EditRecord) : SameTokens e e := ⟨fun _ => Iff.rfl, fun _ => Iff.rfl⟩

theorem SameTokens.mem_removed_iff (h : SameTokens e e') (w : Text) : w ∈ e.removed ↔ w ∈ e'.removed := by
  rw [mem_removed, mem_removed, h.before, h.after]

theorem SameTokens.mem_added_iff (h : SameTokens e e') (w : Text) : w ∈ e.added ↔ w ∈ e'.added := by
  rw [mem_added, mem_added, h.before, h.after]

theorem SameTokens.removed_perm (h : SameTokens e e') : e.removed.Perm e'.removed :=
  (List.perm_ext_iff_of_nodup ((nodup_dedupe _).filter _) ((nodup_dedupe _).filter _)).mpr h.mem_removed_iff

theorem SameTokens.added_perm (h : SameTokens e e') : e.added.Perm e'.added :=
  (List.perm_ext_iff_of_nodup ((nodup_dedupe _).filter _) ((nodup_dedupe _).filter _)).mpr h.mem_added_iff

/-- A list of one token has no other order. -/
theorem SameTokens.swap?_eq (h : SameTokens e e') : e.swap? = e'.swap? := by
  apply Option.ext
  rintro ⟨t, r⟩
  have hremoved : e.removed = [t] ↔ e'.removed = [t] := by
    rw [← List.perm_singleton, ← List.perm_singleton]
    exact ⟨h.removed_perm.symm.trans, h.removed_perm.trans⟩
  have hadded : e.added = [r] ↔ e'.added = [r] := by
    rw [← List.perm_singleton, ← List.perm_singleton]
    exact ⟨h.added_perm.symm.trans, h.added_perm.trans⟩
  rw [swap?_eq_some_iff, swap?_eq_some_iff, hremoved, hadded]

end EditRecord

namespace Mining

open EditRecord

variable {o : Thresholds} {edits edits' : List EditRecord}

/-- The same edits in any order, each taken as its sets of tokens. -/
def Alike (edits edits' : List EditRecord) : Prop :=
  ∃ shuffled, edits.Perm shuffled ∧ List.Forall₂ SameTokens shuffled edits'

theorem alike_of_perm (h : edits.Perm edits') : Alike edits edits' :=
  ⟨edits', h, List.forall₂_same.mpr fun e _ => .refl e⟩

namespace Alike

theorem swaps_perm (h : Alike edits edits') : (swaps edits).Perm (swaps edits') := by
  obtain ⟨shuffled, hperm, hsame⟩ := h
  have heq : swaps shuffled = swaps edits' := by
    clear hperm
    induction hsame with
    | nil => rfl
    | cons hfirst _ ih =>
      simp only [swaps, List.filterMap_cons, hfirst.swap?_eq] at ih ⊢
      rw [ih]
  exact (hperm.filterMap _).trans (.of_eq heq)

theorem timesRemoved_eq (h : Alike edits edits') (t : Text) : timesRemoved edits t = timesRemoved edits' t := by
  obtain ⟨shuffled, hperm, hsame⟩ := h
  have heq : timesRemoved shuffled t = timesRemoved edits' t := by
    clear hperm
    induction hsame with
    | nil => rfl
    | cons hfirst _ ih =>
      simp only [timesRemoved, List.countP_cons, hfirst.mem_removed_iff] at ih ⊢
      rw [ih]
  exact (hperm.countP_eq _).trans heq

theorem tallies_perm (h : Alike edits edits') : (tallies edits).Perm (tallies edits') := by
  have hpairs : (dedupe (swaps edits)).Perm (dedupe (swaps edits')) := by
    rw [List.perm_ext_iff_of_nodup (nodup_dedupe _) (nodup_dedupe _)]
    intro p
    rw [mem_dedupe, mem_dedupe, h.swaps_perm.mem_iff]
  have hcounts : ∀ p : Text × Text, (⟨p.1, p.2, (swaps edits).count p, timesRemoved edits p.1⟩ : Tally) =
      ⟨p.1, p.2, (swaps edits').count p, timesRemoved edits' p.1⟩ := by
    intro p
    rw [h.swaps_perm.count_eq, h.timesRemoved_eq]
  rw [tallies, tallies, funext hcounts]
  exact hpairs.map _

end Alike

/-! ### The order of the rules -/

namespace Tally

/-- The parts of the order, the first that tells two tallies apart deciding. -/
def order : Tally → Tally → Ordering :=
  compareLex (fun a b => compare b.confidenceBits a.confidenceBits) <|
    compareLex (fun a b => compare b.swapped a.swapped) <|
      compareLex (compareOn trigger) (compareOn replacement)

theorem atLeast_eq (a b : Tally) : atLeast a b = (order a b).isLE := by
  simp only [atLeast, order, compareLex, compareOn]

/-- Greater values of a key first. -/
theorem transCmp_descending {α β : Type} [Ord β] [Std.TransOrd β] (key : α → β) :
    Std.TransCmp fun a b => compare (key b) (key a) :=
  have hkey : Std.TransCmp (compareOn key) := inferInstance
  hkey.opposite

instance transCmp_order : Std.TransCmp order := by
  have hbits := transCmp_descending confidenceBits
  have hswapped := transCmp_descending swapped
  unfold order
  infer_instance

theorem atLeast_trans (a b c : Tally) (hab : atLeast a b = true) (hbc : atLeast b c = true) : atLeast a c = true := by
  rw [atLeast_eq] at *
  exact Std.TransCmp.isLE_trans hab hbc

theorem atLeast_total (a b : Tally) : (atLeast a b || atLeast b a) = true := by
  have hswap : order b a = (order a b).swap := Std.OrientedCmp.eq_swap
  rw [atLeast_eq, atLeast_eq, hswap]
  cases order a b <;> rfl

theorem eq_of_atLeast {a b : Tally} (hab : atLeast a b = true) (hba : atLeast b a = true) :
    a.trigger = b.trigger ∧ a.replacement = b.replacement := by
  have heq : order a b = .eq := by
    rw [atLeast_eq] at hab hba
    have hswap : order b a = (order a b).swap := Std.OrientedCmp.eq_swap
    rw [hswap] at hba
    cases h : order a b <;> simp_all
  simp only [order, compareLex, Ordering.then_eq_eq, compareOn, Std.LawfulEqOrd.compare_eq_iff_eq] at heq
  exact heq.2.2

end Tally

/-- Rules from tallies in whatever order these come. -/
def ranked (o : Thresholds) (tallies : List Tally) : List Rule :=
  ((tallies.filter (·.passes o)).mergeSort Tally.atLeast).map Tally.rule

theorem rules_eq_ranked (o : Thresholds) (edits : List EditRecord) : rules o edits = ranked o (tallies edits) := rfl

/-- A tally is known by its two tokens. -/
theorem tally_ext {a b : Tally} (ha : a ∈ tallies edits) (hb : b ∈ tallies edits) (htrigger : a.trigger = b.trigger)
    (hreplacement : a.replacement = b.replacement) : a = b := by
  obtain ⟨p, -, rfl⟩ := List.mem_map.mp ha
  obtain ⟨q, -, rfl⟩ := List.mem_map.mp hb
  have hpq : p = q := Prod.ext htrigger hreplacement
  rw [hpq]

theorem ranked_perm {ts : List Tally} (h : ts.Perm (tallies edits)) : ranked o ts = ranked o (tallies edits) := by
  have hsorted := fun l : List Tally => List.pairwise_mergeSort Tally.atLeast_trans Tally.atLeast_total l
  have hperm : (ts.filter (·.passes o)).mergeSort Tally.atLeast |>.Perm
      (((tallies edits).filter (·.passes o)).mergeSort Tally.atLeast) :=
    (List.mergeSort_perm _ _).trans ((h.filter _).trans (List.mergeSort_perm _ _).symm)
  have hmem : ∀ a, a ∈ ((tallies edits).filter (·.passes o)).mergeSort Tally.atLeast → a ∈ tallies edits :=
    fun a ha => List.mem_of_mem_filter (List.mem_mergeSort.mp ha)
  rw [ranked, ranked, hperm.eq_of_pairwise (fun a b ha hb hab hba => ?_) (hsorted _) (hsorted _)]
  obtain ⟨htrigger, hreplacement⟩ := Tally.eq_of_atLeast hab hba
  exact tally_ext (hmem a (hperm.mem_iff.mp ha)) (hmem b hb) htrigger hreplacement

theorem rules_alike (h : Alike edits edits') : rules o edits = rules o edits' := by
  rw [rules_eq_ranked, rules_eq_ranked, ranked_perm h.tallies_perm]

end Mining

namespace EditLogs

variable {st st' : Storage} {path path' : Text} {o : Mining.Thresholds}

/-- Every log under a path can be read as text. -/
def Readable (st : Storage) (path : Text) : Prop := ∀ names ∈ find st path, ∃ log, read st path names = .ok log

/-- The texts of the logs that can be read. -/
def texts (st : Storage) (path : Text) : List Text := (find st path).filterMap fun names => (read st path names).toOption

/-- The lines that hold a record, of all logs together. -/
def records (logs : List Text) : List Text := (logs.flatMap lines).filter fun line => (EditRecord.ofLine? line).isSome

theorem flatMap_ofLog (logs : List Text) : logs.flatMap EditRecord.ofLog = (records logs).filterMap EditRecord.ofLine? := by
  have hlines : logs.flatMap EditRecord.ofLog = (logs.flatMap lines).filterMap EditRecord.ofLine? :=
    List.filterMap_flatMap.symm
  rw [hlines, records, List.filterMap_filter]
  refine List.filterMap_congr fun line _ => ?_
  cases EditRecord.ofLine? line <;> rfl

theorem mapM_read (h : Readable st path) : (find st path).mapM (read st path) = .ok (texts st path) := by
  unfold Readable at h
  rw [texts]
  generalize find st path = names at h ⊢
  induction names with
  | nil => rfl
  | cons n names ih =>
    obtain ⟨log, hlog⟩ := h n List.mem_cons_self
    rw [List.mapM_cons, hlog, ih fun m hm => h m (List.mem_cons_of_mem n hm), List.filterMap_cons, hlog]
    rfl

/-- A table is learned from readable logs, and its rules are those of the records in them. -/
theorem compile_readable (h : Readable st path) : ∃ table, compile st path o = .ok table ∧
    table.rules = Mining.rules o ((records (texts st path)).filterMap EditRecord.ofLine?) := by
  rw [compile, mapM_read h, ← flatMap_ofLog]
  exact ⟨_, rfl, rfl⟩

theorem mapM_read_error (h : ¬ Readable st path) : ∃ fault, (find st path).mapM (read st path) = .error fault := by
  unfold Readable at h
  generalize find st path = names at h ⊢
  induction names with
  | nil => exact absurd (List.forall_mem_nil _) h
  | cons n names ih =>
    rw [List.mapM_cons]
    cases hlog : read st path n with
    | error fault => exact ⟨fault, rfl⟩
    | ok log =>
      obtain ⟨fault, hfault⟩ := ih fun hrest => h fun m hm =>
        (List.mem_cons.mp hm).elim (fun heq => ⟨log, heq ▸ hlog⟩) (hrest m)
      exact ⟨fault, by rw [hfault]; rfl⟩

theorem compile_unreadable (h : ¬ Readable st path) : ∃ fault, compile st path o = .error fault := by
  obtain ⟨fault, hfault⟩ := mapM_read_error h
  exact ⟨fault, by rw [compile, hfault]; rfl⟩

theorem read_of_bytes {names : Path} {log : Text} (h : st.read (pathOf path names) = .ok (utf8 log)) :
    read st path names = .ok log := by
  rw [read, Storage.readText_of_read h]
  rfl

/-- Logs that are known one by one. -/
theorem texts_eq {names : List Path} {logs : List Text} (hfind : find st path = names)
    (hread : List.Forall₂ (fun n log => st.read (pathOf path n) = .ok (utf8 log)) names logs) :
    Readable st path ∧ texts st path = logs := by
  rw [Readable, texts, hfind]
  clear hfind
  induction hread with
  | nil => exact ⟨List.forall_mem_nil _, rfl⟩
  | cons hfirst _ ih =>
    obtain ⟨hreadable, htexts⟩ := ih
    refine ⟨List.forall_mem_cons.mpr ⟨⟨_, read_of_bytes hfirst⟩, hreadable⟩, ?_⟩
    rw [List.filterMap_cons, read_of_bytes hfirst, htexts]
    rfl

end EditLogs

namespace Mining

/-- Rules depend on the multiset of the edits and each edit's sets of tokens, in whatever order the tallies are looked
through; so logs with the same lines teach the same rules, however the lines are spread over files. -/
theorem rules_of_multiset (o : Thresholds) :
    (∀ edits edits', Alike edits edits' → rules o edits = rules o edits') ∧
    (∀ edits ts, ts.Perm (tallies edits) → ranked o ts = rules o edits) ∧
    ∀ st path, (EditLogs.Readable st path →
        (∃ table, EditLogs.compile st path o = .ok table) ∧
        ∀ st' path', EditLogs.Readable st' path' →
          (EditLogs.records (EditLogs.texts st path)).Perm (EditLogs.records (EditLogs.texts st' path')) →
          ∃ table table', EditLogs.compile st path o = .ok table ∧ EditLogs.compile st' path' o = .ok table' ∧
            table.rules = table'.rules) ∧
      (¬ EditLogs.Readable st path → ∃ fault, EditLogs.compile st path o = .error fault) := by
  refine ⟨fun _ _ => rules_alike, fun _ _ => ranked_perm, fun st path => ⟨fun h => ⟨?_, ?_⟩, EditLogs.compile_unreadable⟩⟩
  · obtain ⟨table, htable, -⟩ := EditLogs.compile_readable (o := o) h
    exact ⟨table, htable⟩
  · intro st' path' h' hperm
    obtain ⟨table, htable, hrules⟩ := EditLogs.compile_readable (o := o) h
    obtain ⟨table', htable', hrules'⟩ := EditLogs.compile_readable (o := o) h'
    refine ⟨table, table', htable, htable', ?_⟩
    rw [hrules, hrules']
    exact rules_alike (alike_of_perm (hperm.filterMap _))

def paddingLine : Text := "\x7b\"before\":\"p-2\",\"after\":\"p-4\"\x7d".toList

def widthLine : Text := "\x7b\"before\":\"w-1\",\"after\":\"w-2\"\x7d".toList

def logFolder : Text := "logs".toList

/-- Both records in one log, with a line between them that holds none. -/
def oneLog : Storage :=
  ⟨[([logFolder], .folder),
    ([logFolder, "a.jsonl".toList], .file (utf8 (paddingLine ++ "\r\nx\n".toList ++ widthLine)))]⟩

/-- The same records in two logs, one of them in a folder of its own. -/
def twoLogs : Storage :=
  ⟨[([logFolder], .folder), ([logFolder, "b".toList], .folder),
    ([logFolder, "b".toList, "z.jsonl".toList], .file (utf8 widthLine)),
    ([logFolder, "c.jsonl".toList], .file (utf8 ('\n' :: paddingLine)))]⟩

/-- A log that is no text. -/
def brokenLog : Storage := ⟨[([logFolder], .folder), ([logFolder, "a.jsonl".toList], .file [0xFF])]⟩

theorem texts_oneLog : EditLogs.Readable oneLog logFolder ∧
    EditLogs.texts oneLog logFolder = [paddingLine ++ "\r\nx\n".toList ++ widthLine] := by
  have hfind : EditLogs.find oneLog logFolder = [["a.jsonl".toList]] := by cbv
  have hread : oneLog.read "logs/a.jsonl".toList = .ok (utf8 (paddingLine ++ "\r\nx\n".toList ++ widthLine)) := by cbv
  exact EditLogs.texts_eq hfind (.cons hread .nil)

theorem texts_twoLogs : EditLogs.Readable twoLogs logFolder ∧
    EditLogs.texts twoLogs logFolder = [widthLine, '\n' :: paddingLine] := by
  have hfind : EditLogs.find twoLogs logFolder = [["b".toList, "z.jsonl".toList], ["c.jsonl".toList]] := by cbv
  have hfirst : twoLogs.read "logs/b/z.jsonl".toList = .ok (utf8 widthLine) := by cbv
  have hsecond : twoLogs.read "logs/c.jsonl".toList = .ok (utf8 ('\n' :: paddingLine)) := by cbv
  exact EditLogs.texts_eq hfind (.cons hfirst (.cons hsecond .nil))

theorem not_readable_brokenLog : ¬ EditLogs.Readable brokenLog logFolder := by
  intro h
  have hfind : EditLogs.find brokenLog logFolder = [["a.jsonl".toList]] := by cbv
  have hbytes : brokenLog.read (EditLogs.pathOf logFolder ["a.jsonl".toList]) = .ok [0xFF] := by cbv
  obtain ⟨log, hlog⟩ := h ["a.jsonl".toList] (by rw [hfind]; exact List.mem_cons_self)
  rw [EditLogs.read, Storage.readText_of_noText hbytes (by decide +kernel)] at hlog
  cases hlog

theorem records_perm_twoLogs : (EditLogs.records (EditLogs.texts oneLog logFolder)).Perm
    (EditLogs.records (EditLogs.texts twoLogs logFolder)) := by
  have hrecords : EditLogs.records [paddingLine ++ "\r\nx\n".toList ++ widthLine] = [paddingLine, widthLine] := by
    decide +kernel
  have hrecords' : EditLogs.records [widthLine, '\n' :: paddingLine] = [widthLine, paddingLine] := by decide +kernel
  rw [texts_oneLog.2, texts_twoLogs.2, hrecords, hrecords']
  exact .swap ..

def paddingEdit : EditRecord := ⟨none, "flex p-2".toList, "p-4 flex".toList⟩

/-- Written otherwise. -/
def paddingEditAgain : EditRecord := ⟨none, "p-2 flex flex".toList, "flex\tp-4".toList⟩

def widthEdit : EditRecord := ⟨some "n".toList, "w-1".toList, "w-2".toList⟩

theorem alike_paddingEditAgain : Alike [paddingEdit, widthEdit] [widthEdit, paddingEditAgain] := by
  have hsame : paddingEdit.SameTokens paddingEditAgain := by
    have hbefore : words paddingEdit.before = ["flex".toList, "p-2".toList] := by decide
    have hafter : words paddingEdit.after = ["p-4".toList, "flex".toList] := by decide
    have hbefore' : words paddingEditAgain.before = ["p-2".toList, "flex".toList, "flex".toList] := by decide
    have hafter' : words paddingEditAgain.after = ["flex".toList, "p-4".toList] := by decide
    constructor
    · intro w
      rw [hbefore, hbefore']
      simp only [List.mem_cons, List.not_mem_nil]
      tauto
    · intro w
      rw [hafter, hafter']
      simp only [List.mem_cons, List.not_mem_nil]
      tauto
  exact ⟨[widthEdit, paddingEdit], .swap .., .cons (.refl _) (.cons hsame .nil)⟩

theorem rules_of_multiset_twoLogs :
    (Alike [paddingEdit, widthEdit] [widthEdit, paddingEditAgain] ∧
      rules .standard [paddingEdit, widthEdit] = rules .standard [widthEdit, paddingEditAgain]) ∧
    ((tallies [paddingEdit, widthEdit]).reverse.Perm (tallies [paddingEdit, widthEdit]) ∧
      ranked .standard (tallies [paddingEdit, widthEdit]).reverse = rules .standard [paddingEdit, widthEdit]) ∧
    (EditLogs.Readable oneLog logFolder ∧ EditLogs.Readable twoLogs logFolder ∧
      (EditLogs.records (EditLogs.texts oneLog logFolder)).Perm (EditLogs.records (EditLogs.texts twoLogs logFolder)) ∧
      ∃ table table', EditLogs.compile oneLog logFolder .standard = .ok table ∧
        EditLogs.compile twoLogs logFolder .standard = .ok table' ∧ table.rules = table'.rules) ∧
    ¬ EditLogs.Readable brokenLog logFolder ∧ ∃ fault, EditLogs.compile brokenLog logFolder .standard = .error fault := by
  have hreverse := List.reverse_perm (tallies [paddingEdit, widthEdit])
  obtain ⟨hrules, hranked, hlogs⟩ := rules_of_multiset .standard
  exact ⟨⟨alike_paddingEditAgain, hrules _ _ alike_paddingEditAgain⟩, ⟨hreverse, hranked _ _ hreverse⟩,
    ⟨texts_oneLog.1, texts_twoLogs.1, records_perm_twoLogs,
      ((hlogs oneLog logFolder).1 texts_oneLog.1).2 twoLogs logFolder texts_twoLogs.1 records_perm_twoLogs⟩,
    not_readable_brokenLog, (hlogs brokenLog logFolder).2 not_readable_brokenLog⟩

end Mining

end ResponsiveMarkup
