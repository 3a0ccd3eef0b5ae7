import ResponsiveMarkup.Compile.Run

/-!
Compilations that share caches of rules, and what happens to caches in the course of time. A cache is asked for its
table where rules come to be applied and only there, so that a compilation which draws nothing, or runs no stage that
has rules in it, loads nothing.
-/

namespace ResponsiveMarkup

namespace Compile

/-- Whether a compilation comes to apply rules. -/
def appliesRules (o : Options) (i : Input) : Bool :=
  (fragments o.render i).merge.stats.baseViewport.isSome && o.stages.contains Contract.markupStage

/-- A compilation with the rules of a cache, and the caches after it. -/
def runCached (st : Storage) (r : CacheRack) (handle : Nat) (o : Options) (i : Input) : Result × CacheRack :=
  if appliesRules o i then
    let (rules, r) := r.get st handle
    (run o rules i, r)
  else (run o RuleTable.empty i, r)

end Compile

namespace CacheRack

/-- What happens to caches, to their handles and to the files that tables are read from. -/
inductive Event where
  | openSource (source : RuleSource)
  | clone (handle : Nat)
  | get (handle : Nat)
  | compile (handle : Nat) (o : Compile.Options) (i : Compile.Input)
  /-- Files are written, spoiled or removed, and this is what there is afterwards. -/
  | change (st : Storage)

/-- The handle whose cache is asked for its table. -/
def Event.asked? : Event → Option Nat
  | get handle => some handle
  | compile handle o i => if Compile.appliesRules o i then some handle else none
  | _ => none

structure World where
  storage : Storage
  rack : CacheRack

namespace World

def start (st : Storage) : World := ⟨st, CacheRack.empty⟩

def after (w : World) : Event → World
  | .openSource source => { w with rack := w.rack.openSource source }
  | .clone handle => { w with rack := w.rack.clone handle }
  | .get handle => { w with rack := (w.rack.get w.storage handle).2 }
  | .compile handle o i => { w with rack := (Compile.runCached w.storage w.rack handle o i).2 }
  | .change st => { w with storage := st }

def run (w : World) (events : List Event) : World := events.foldl after w

end World

end CacheRack

end ResponsiveMarkup
