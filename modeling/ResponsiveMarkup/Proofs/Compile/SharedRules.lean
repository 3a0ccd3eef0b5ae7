import Mathlib
import ResponsiveMarkup.Compile.History
import ResponsiveMarkup.Proofs.Compile.Sound
import ResponsiveMarkup.Proofs.Storage.WriteRead

/-!
Rules that are loaded once. The first time that any handle of a cache is asked for its table, the file is read and what
came of it is kept, be it a table or the empty one; after that nothing that happens to the file, to the handles or to
other caches makes a difference to any handle of this cache.
-/

namespace ResponsiveMarkup

open Text

namespace Compile

theorem stageContracts_standard {stage : String} (h : stage ≠ Contract.markupStage) (rules rules' : RuleTable) :
    (Pipeline.standard rules).stageContracts stage = (Pipeline.standard rules').stageContracts stage := by
  have hne : (Contract.markupStage == stage) = false := beq_eq_false_iff_ne.mpr h.symm
  have hlearned : ∀ table, (LearnedRules.contract table).stage = Contract.markupStage := fun _ => rfl
  simp only [Pipeline.stageContracts, Pipeline.standard, List.filter_cons, hlearned, hne, Bool.false_eq_true, if_false]

/-- Rules that do not come to be applied do not count. -/
theorem run_of_not_appliesRules {o : Options} {i : Input} (h : appliesRules o i = false) (rules rules' : RuleTable) :
    run o rules i = run o rules' i := by
  cases hbase : (fragments o.render i).merge.stats.baseViewport with
  | none => rw [run_of_none hbase, run_of_none hbase]
  | some base =>
    have hstages : Contract.markupStage ∉ o.stages := by
      rw [appliesRules, hbase, Option.isSome_some, Bool.true_and] at h
      simpa using h
    have hcontracts : o.stages.flatMap (Pipeline.standard rules).stageContracts =
        o.stages.flatMap (Pipeline.standard rules').stageContracts := by
      rw [List.flatMap_def, List.flatMap_def]
      congr 1
      refine List.map_congr_left fun stage hstage => stageContracts_standard ?_ rules rules'
      exact fun heq => hstages (heq ▸ hstage)
    have houtcome : outcome o rules i base = outcome o rules' i base := by
      rw [outcome, outcome, Pipeline.run, Pipeline.run, hcontracts]
    rw [run_of_base hbase, run_of_base hbase, houtcome]

/-- Whether or not the cache is asked, the result is that of a run with the table it would hand out. -/
theorem runCached_fst (st : Storage) (r : CacheRack) (handle : Nat) (o : Options) (i : Input) :
    (runCached st r handle o i).1 = run o (r.get st handle).1 i := by
  rw [runCached]
  split
  · rfl
  · rename_i h
    exact run_of_not_appliesRules (by simpa using h) _ _

end Compile

namespace CacheRack

variable {r : CacheRack} {handle place : Nat} {c : RuleCache}

theorem get_of_cache (st : Storage) (hhandle : r.handles[handle]? = some place) (hcache : r.caches[place]? = some c) :
    r.get st handle = ((c.get st).1, { r with caches := r.caches.set place (c.get st).2 }) := by
  simp only [get, cache?, hhandle, hcache, Option.bind_some]

theorem isLoaded_of_cache (hhandle : r.handles[handle]? = some place) (hcache : r.caches[place]? = some c) :
    r.isLoaded handle = c.isLoaded := by
  simp only [isLoaded, cache?, hhandle, hcache, Option.bind_some, Option.any_some]

theorem handles_get (st : Storage) (r : CacheRack) (handle : Nat) : (r.get st handle).2.handles = r.handles := by
  rw [get]
  split <;> rfl

/-- Only the cache that is asked changes. -/
theorem caches_get_of_ne (st : Storage) (h : r.handles[handle]? ≠ some place) :
    (r.get st handle).2.caches[place]? = r.caches[place]? := by
  rw [get]
  split
  · rename_i p c hp _
    refine List.getElem?_set_ne fun heq : p = place => h ?_
    rw [hp, heq]
  · rfl

namespace World

variable {w : World} {e : Event} {events : List Event} {source : RuleSource} {t : RuleTable}

/-- The event asks the cache at this place for its table. -/
def Asks (w : World) (place : Nat) (e : Event) : Prop := e.asked?.bind (w.rack.handles[·]?) = some place

instance (w : World) (place : Nat) (e : Event) : Decidable (w.Asks place e) := inferInstanceAs (Decidable (_ = _))

/-- One of the events asks the cache at this place. -/
def Asked (w : World) (place : Nat) : List Event → Prop
  | [] => False
  | e :: events => w.Asks place e ∨ (w.after e).Asked place events

/-- An event that asks a handle does nothing else to the caches. -/
theorem after_of_asked (h : e.asked? = some handle) :
    w.after e = { w with rack := (w.rack.get w.storage handle).2 } := by
  cases e with
  | get => cases h; rfl
  | compile handle' o i =>
    rw [Event.asked?] at h
    split at h
    · rename_i happlies
      cases h
      rw [after, Compile.runCached, if_pos happlies]
    · cases h
  | _ => cases h

/-- All else adds caches and handles at the end. -/
theorem after_of_not_asked (h : e.asked? = none) :
    (∃ caches, (w.after e).rack.caches = w.rack.caches ++ caches) ∧
      ∃ handles, (w.after e).rack.handles = w.rack.handles ++ handles := by
  cases e with
  | openSource source => exact ⟨⟨_, rfl⟩, _, rfl⟩
  | clone handle => exact ⟨⟨[], (List.append_nil _).symm⟩, _, rfl⟩
  | get => cases h
  | compile handle o i =>
    rw [Event.asked?] at h
    split at h
    · cases h
    · rename_i happlies
      rw [after, Compile.runCached, if_neg happlies]
      exact ⟨⟨[], (List.append_nil _).symm⟩, [], (List.append_nil _).symm⟩
  | change st => exact ⟨⟨[], (List.append_nil _).symm⟩, [], (List.append_nil _).symm⟩

theorem handle_after (h : w.rack.handles[handle]? = some place) (e : Event) :
    (w.after e).rack.handles[handle]? = some place := by
  cases hasked : e.asked? with
  | some asked => rw [after_of_asked hasked, handles_get, h]
  | none =>
    obtain ⟨-, handles, hhandles⟩ := after_of_not_asked (w := w) hasked
    rw [hhandles, List.getElem?_append_left (List.getElem?_eq_some_iff.mp h).1, h]

/-- What an event does to a cache that is there. -/
theorem cache_after (h : w.rack.caches[place]? = some c) (e : Event) :
    (w.after e).rack.caches[place]? = some (if w.Asks place e then (c.get w.storage).2 else c) := by
  cases hasked : e.asked? with
  | some asked =>
    rw [after_of_asked hasked]
    by_cases hplace : w.rack.handles[asked]? = some place
    · have hasks : w.Asks place e := by rw [Asks, hasked, Option.bind_some, hplace]
      rw [if_pos hasks, get_of_cache w.storage hplace h]
      exact List.getElem?_set_self (List.getElem?_eq_some_iff.mp h).1
    · have hasks : ¬ w.Asks place e := by rwa [Asks, hasked, Option.bind_some]
      rw [if_neg hasks, caches_get_of_ne w.storage hplace, h]
  | none =>
    have hasks : ¬ w.Asks place e := by
      rw [Asks, hasked]
      exact fun heq => nomatch heq
    obtain ⟨⟨caches, hcaches⟩, -⟩ := after_of_not_asked (w := w) hasked
    rw [if_neg hasks, hcaches, List.getElem?_append_left (List.getElem?_eq_some_iff.mp h).1, h]

/-- A handle stands for its cache whatever happens. -/
theorem handle_run (h : w.rack.handles[handle]? = some place) (events : List Event) :
    (w.run events).rack.handles[handle]? = some place := by
  induction events generalizing w with
  | nil => exact h
  | cons e events ih => exact ih (handle_after h e)

theorem cache_run_of_not_asked (h : w.rack.caches[place]? = some c) (hnot : ¬ w.Asked place events) :
    (w.run events).rack.caches[place]? = some c := by
  induction events generalizing w with
  | nil => exact h
  | cons e events ih =>
    obtain ⟨hfirst, hrest⟩ := not_or.mp hnot
    have hcache := cache_after h e
    rw [if_neg hfirst] at hcache
    exact ih hcache hrest

/-- Once there is a table it stays, whoever asks. -/
theorem cache_run_of_loaded (h : w.rack.caches[place]? = some ⟨source, some t⟩) (events : List Event) :
    (w.run events).rack.caches[place]? = some ⟨source, some t⟩ := by
  induction events generalizing w with
  | nil => exact h
  | cons e events ih =>
    have hcache := cache_after h e
    rw [RuleCache.get, Option.getD_some, ite_self] at hcache
    exact ih hcache

theorem run_append (w : World) (past future : List Event) : w.run (past ++ future) = (w.run past).run future :=
  List.foldl_append

/-- The first event that asks decides. -/
theorem cache_run_of_asked {past future : List Event} {first : Event} (h : w.rack.caches[place]? = some ⟨source, none⟩)
    (hnot : ¬ w.Asked place past) (hasks : (w.run past).Asks place first) :
    (w.run (past ++ first :: future)).rack.caches[place]? =
      some ⟨source, some (source.table (w.run past).storage)⟩ := by
  have hcache := cache_after (cache_run_of_not_asked h hnot) first
  rw [if_pos hasks, RuleCache.get, Option.getD_none] at hcache
  rw [run_append]
  exact cache_run_of_loaded hcache future

/-- A cache is loaded once. Before any of its handles is asked for the table, none is loaded, and the table would be
what the source holds now; after that, whatever happened since, all its handles are loaded and hand out the table that
the source held when one of them was asked first, and every compilation applies that table. -/
theorem loaded_once (st : Storage) (earlier : List Event) (source : RuleSource) (events : List Event) :
    let before := (start st).run earlier
    let place := before.rack.caches.length
    let opened := before.after (.openSource source)
    let now := opened.run events
    opened.rack.handles[before.rack.handles.length]? = some place ∧
    ∀ handle, now.rack.handles[handle]? = some place →
      (now.after (.clone handle)).rack.handles[now.rack.handles.length]? = some place ∧
      (¬ opened.Asked place events →
        now.rack.isLoaded handle = false ∧
        (now.rack.get now.storage handle).1 = source.table now.storage ∧
        ∀ o i, (Compile.runCached now.storage now.rack handle o i).1 = Compile.run o (source.table now.storage) i) ∧
      ∀ past first future, events = past ++ first :: future →
        ¬ opened.Asked place past → (opened.run past).Asks place first →
        now.rack.isLoaded handle = true ∧
        (now.rack.get now.storage handle).1 = source.table (opened.run past).storage ∧
        ∀ o i, (Compile.runCached now.storage now.rack handle o i).1 =
          Compile.run o (source.table (opened.run past).storage) i := by
  intro before place opened now
  have hopened : opened.rack.caches[place]? = some ⟨source, none⟩ := List.getElem?_concat_length
  refine ⟨List.getElem?_concat_length, fun handle hhandle => ⟨?_, fun hnot => ?_, ?_⟩⟩
  · show (now.rack.handles ++ (now.rack.handles[handle]?).toList)[now.rack.handles.length]? = some place
    rw [hhandle, Option.toList_some]
    exact List.getElem?_concat_length
  · have hcache : now.rack.caches[place]? = some ⟨source, none⟩ := cache_run_of_not_asked hopened hnot
    have hget : (now.rack.get now.storage handle).1 = source.table now.storage := by
      rw [get_of_cache now.storage hhandle hcache]
      rfl
    exact ⟨isLoaded_of_cache hhandle hcache, hget, fun o i => by rw [Compile.runCached_fst, hget]⟩
  · intro past first future hevents hnot hasks
    have hcache : now.rack.caches[place]? = some ⟨source, some (source.table (opened.run past).storage)⟩ := by
      have hcached : (opened.run (past ++ first :: future)).rack.caches[place]? = _ :=
        cache_run_of_asked hopened hnot hasks
      rwa [← hevents] at hcached
    have hget : (now.rack.get now.storage handle).1 = source.table (opened.run past).storage := by
      rw [get_of_cache now.storage hhandle hcache]
      rfl
    exact ⟨isLoaded_of_cache hhandle hcache, hget, fun o i => by rw [Compile.runCached_fst, hget]⟩

def tablePath : Text := "rules.json".toList

def ruleText : Text := "\x7b\"rules\":[\x7b\"trigger\":\"p-2\",\"replacement\":\"p-4\"\x7d]\x7d".toList

def oneRule : Storage := ⟨[([tablePath], .file (utf8 ruleText))]⟩

/-- The file of the table is no text any more. -/
def spoiled : Storage := ⟨[([tablePath], .file [0xFF])]⟩

/-- One more handle, and the file is spoiled. -/
def spoiling : List Event := [.clone 1, .change spoiled]

/-- The file is mended after the first time that the table was asked for, and there is one more handle. -/
def mending : List Event := [.change oneRule, .clone 1, .get 1]

theorem loaded_once_spoiled :
    let before := (start oneRule).run [.openSource .nothing, .get 0]
    let opened := before.after (.openSource (.file tablePath))
    let mended := opened.run (spoiling ++ .get 2 :: mending)
    ((opened.run spoiling).rack.handles[2]? = some 1 ∧ ¬ opened.Asked 1 spoiling ∧
      (opened.run spoiling).rack.isLoaded 2 = false) ∧
    mended.rack.handles[3]? = some 1 ∧ (opened.run spoiling).Asks 1 (.get 2) ∧ mended.rack.isLoaded 3 = true ∧
    (mended.rack.get mended.storage 3).1 = (RuleSource.file tablePath).table spoiled ∧
    (RuleSource.file tablePath).table spoiled = RuleTable.empty ∧
    ((RuleSource.file tablePath).table mended.storage).size = 1 := by
  intro before opened mended
  have hhandle : (opened.run spoiling).rack.handles[2]? = some 1 := rfl
  have hnot : ¬ opened.Asked 1 spoiling := by
    rintro (h | h | h)
    · cases h
    · cases h
    · exact h
  have hmended : mended.rack.handles[3]? = some 1 := rfl
  have hasks : (opened.run spoiling).Asks 1 (.get 2) := rfl
  have hempty : (RuleSource.file tablePath).table spoiled = RuleTable.empty := by
    have hread : spoiled.read tablePath = .ok [0xFF] := by cbv
    rw [RuleSource.table, RuleTable.load, Storage.readText_of_noText hread (by decide +kernel)]
    rfl
  have hsize : ((RuleSource.file tablePath).table oneRule).size = 1 := by
    have hread : oneRule.read tablePath = .ok (utf8 ruleText) := by cbv
    rw [RuleSource.table, RuleTable.load, Storage.readText_of_read hread]
    decide +kernel
  obtain ⟨hloaded, hget, -⟩ :=
    ((loaded_once oneRule [.openSource .nothing, .get 0] (.file tablePath) (spoiling ++ .get 2 :: mending)).2 3 hmended).2.2
      spoiling (.get 2) mending rfl hnot hasks
  obtain ⟨hnone, -, -⟩ :=
    ((loaded_once oneRule [.openSource .nothing, .get 0] (.file tablePath) spoiling).2 2 hhandle).2.1 hnot
  exact ⟨⟨hhandle, hnot, hnone⟩, hmended, hasks, hloaded, hget, hempty, hsize⟩

end World

end CacheRack

end ResponsiveMarkup
