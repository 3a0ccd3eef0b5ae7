import ResponsiveMarkup.Rules.Store

/-!
Rule tables that are fetched at most once. Several handles may stand for one cache; whichever is asked first
decides for all of them.
-/

namespace ResponsiveMarkup

inductive RuleSource where
  | file (path : Text)
  | given (rules : List Rule)
  | nothing

/-- The table that a source holds right now. What cannot be read is as good as empty. -/
def RuleSource.table (st : Storage) : RuleSource → RuleTable
  | file path =>
    match RuleTable.load st path with
    | .ok t => t
    | .error _ => RuleTable.empty
  | given rules => RuleTable.ofRules rules ""
  | nothing => RuleTable.empty

structure RuleCache where
  source : RuleSource
  /-- The table, once it was asked for. -/
  table : Option RuleTable

namespace RuleCache

def ofSource (source : RuleSource) : RuleCache := ⟨source, none⟩

def isLoaded (c : RuleCache) : Bool := c.table.isSome

/-- The table, and the cache that keeps it. -/
def get (st : Storage) (c : RuleCache) : RuleTable × RuleCache :=
  let t := c.table.getD (c.source.table st)
  (t, { c with table := some t })

end RuleCache

/-- Caches with their handles: each handle is the place of a cache. -/
structure CacheRack where
  caches : List RuleCache
  handles : List Nat

namespace CacheRack

def empty : CacheRack := ⟨[], []⟩

/-- A new cache under a new handle, which comes last. -/
def openSource (r : CacheRack) (source : RuleSource) : CacheRack :=
  ⟨r.caches ++ [.ofSource source], r.handles ++ [r.caches.length]⟩

/-- One more handle for the cache of a handle. -/
def clone (r : CacheRack) (handle : Nat) : CacheRack :=
  ⟨r.caches, r.handles ++ (r.handles[handle]?).toList⟩

def cache? (r : CacheRack) (handle : Nat) : Option RuleCache :=
  (r.handles[handle]?).bind fun place => r.caches[place]?

def isLoaded (r : CacheRack) (handle : Nat) : Bool := (r.cache? handle).any (·.isLoaded)

/-- The table of a handle; it is kept for all handles of the cache. -/
def get (st : Storage) (r : CacheRack) (handle : Nat) : RuleTable × CacheRack :=
  match r.handles[handle]?, r.cache? handle with
  | some place, some c =>
    let (t, c) := c.get st
    (t, { r with caches := r.caches.set place c })
  | _, _ => (RuleTable.empty, r)

end CacheRack

end ResponsiveMarkup
