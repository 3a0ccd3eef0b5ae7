import ResponsiveMarkup.Json.Schema
import ResponsiveMarkup.Merge.Plan

/-!
The markup of up to three viewports, and merging them all into the narrowest that has any.
-/

namespace ResponsiveMarkup

open Json Json.Reader

/-- One markup for each viewport that was drawn. -/
structure Fragments where
  mobile : Option Text
  tablet : Option Text
  desktop : Option Text
  deriving DecidableEq, Repr

structure Merged where
  html : Text
  stats : MergeStats
  deriving DecidableEq, Repr

namespace Fragments

def empty : Fragments := ⟨none, none, none⟩

def set (f : Fragments) (v : Viewport) (markup : Text) : Fragments :=
  match v with
  | .mobile => { f with mobile := some markup }
  | .tablet => { f with tablet := some markup }
  | .desktop => { f with desktop := some markup }

/-- The markup of a viewport unless it is blank. -/
def get? (f : Fragments) (v : Viewport) : Option Text :=
  let markup := match v with
    | .mobile => f.mobile
    | .tablet => f.tablet
    | .desktop => f.desktop
  markup.filter fun m => !Text.isBlankText m

/-- The viewports with their markup, narrow to wide, blank ones left out. -/
def present (f : Fragments) : List Overlay :=
  Viewport.all.filterMap fun v => (f.get? v).map fun m => ⟨v, m⟩

/-- The narrowest is the base of all others. -/
def merge (f : Fragments) : Merged :=
  match f.present with
  | [] => ⟨[], MergeStats.empty⟩
  | base :: overlays =>
    let plan := Merge.plan base.markup overlays
    ⟨Merge.applyPlan base.markup plan, { plan.stats with baseViewport := some base.viewport }⟩

def schema : Schema (Reader (Fragments → Fragments)) Fragments where
  title := "struct ViewportFragments"
  start := empty
  fields :=
    [⟨"mobile", [], false, do let v ← optional text; return fun f => { f with mobile := v }⟩,
     ⟨"tablet", [], false, do let v ← optional text; return fun f => { f with tablet := v }⟩,
     ⟨"desktop", [], false, do let v ← optional text; return fun f => { f with desktop := v }⟩]

def ofJson (s : Text) : Except Fault Fragments :=
  Reader.parse (record "struct ViewportFragments" (some schema)) s

end Fragments

end ResponsiveMarkup
