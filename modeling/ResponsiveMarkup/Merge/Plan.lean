import ResponsiveMarkup.Markup.ClassList
import ResponsiveMarkup.Markup.Element
import ResponsiveMarkup.Markup.Splice
import ResponsiveMarkup.Merge.Viewport

/-!
Merging the markup of wider viewports into that of the narrowest. The base keeps its text; only class values
change. An element takes the tokens of its counterparts, each under the scope of its viewport, unless the
element has the token already.
-/

namespace ResponsiveMarkup

/-- The markup of a viewport that is to be merged into another. -/
structure Overlay where
  viewport : Viewport
  markup : Text
  deriving DecidableEq, Repr

/-- An overlay that takes part: its scope and its elements. -/
structure Layered where
  viewport : Viewport
  scope : Text
  elements : List Element

structure ClassEdit where
  elementIndex : Nat
  key : Option Text
  classSpan : Span
  tokens : List Text
  deriving DecidableEq, Repr

structure OverlayStats where
  viewport : Viewport
  elements : Nat
  matchedByKey : Nat
  matchedByPosition : Nat
  scopedTokens : Nat
  deriving DecidableEq, Repr

structure MergeStats where
  baseViewport : Option Viewport
  baseElements : Nat
  unmatchedElements : Nat
  editedElements : Nat
  overlays : List OverlayStats
  deriving DecidableEq, Repr

def MergeStats.empty : MergeStats := ⟨none, 0, 0, 0, []⟩

structure MergePlan where
  edits : List ClassEdit
  stats : MergeStats
  deriving DecidableEq, Repr

namespace Merge

/-- Overlays that have a scope and are not blank. -/
def layered (overlays : List Overlay) (v : Viewport) : List Layered :=
  overlays.filterMap fun o =>
    if o.viewport = v ∧ Text.isBlankText o.markup = false then
      v.scope?.map fun s => ⟨v, s, ResponsiveMarkup.elements o.markup⟩
    else none

/-- The overlays in the order of their viewports. -/
def inOrder (overlays : List Overlay) : List Layered := Viewport.all.flatMap (layered overlays)

/-- Elements with the number of unkeyed ones before each. -/
def ranked (rank : Nat) : List Element → List (Element × Nat)
  | [] => []
  | e :: es => (e, rank) :: ranked (if e.key.isNone then rank + 1 else rank) es

/-- A keyed element is matched by its key and any other by its rank among those without. -/
def counterpart? (others : List Element) (e : Element) (rank : Nat) : Option Element :=
  match e.key with
  | some k => Element.byKey? others k
  | none => Element.byRank? others rank

/-- What an overlay adds to the tokens of its counterpart: nothing that the element has without a scope. -/
def added (own : List Text) (scope : Text) (other : Element) : List Text :=
  (other.tokens.filter fun t => isScoped t || !own.contains t).map (scopeToken · scope)

/-- What an overlay adds to an element. -/
def addedBy (o : Layered) (e : Element) (rank : Nat) : List Text :=
  ((counterpart? o.elements e rank).map (added e.tokens o.scope)).getD []

def mergedTokens (overlays : List Layered) (e : Element) (rank : Nat) : List Text :=
  dedupe (e.tokens ++ overlays.flatMap fun o => addedBy o e rank)

def edit? (overlays : List Layered) (e : Element) (rank : Nat) : Option ClassEdit :=
  let tokens := mergedTokens overlays e rank
  if classValue tokens = e.classes then none else some ⟨e.index, e.key, e.classSpan, tokens⟩

def overlayStats (base : List (Element × Nat)) (o : Layered) : OverlayStats :=
  let found := base.filter fun (e, rank) => (counterpart? o.elements e rank).isSome
  { viewport := o.viewport
    elements := o.elements.length
    matchedByKey := (found.filter (·.1.key.isSome)).length
    matchedByPosition := (found.filter (·.1.key.isNone)).length
    scopedTokens := (base.map fun (e, rank) => (addedBy o e rank).length).foldr (· + ·) 0 }

/-- The class edits that merge overlays into a base. -/
def plan (base : Text) (overlays : List Overlay) : MergePlan :=
  let elements := ranked 0 (ResponsiveMarkup.elements base)
  let ordered := inOrder overlays
  let edits := elements.filterMap fun (e, rank) => edit? ordered e rank
  let unmatched := elements.filter fun (e, rank) =>
    ordered.all fun o => (counterpart? o.elements e rank).isNone
  { edits := edits
    stats :=
      { baseViewport := none
        baseElements := elements.length
        unmatchedElements := unmatched.length
        editedElements := edits.length
        overlays := ordered.map (overlayStats elements) } }

def ClassEdit.splice (e : ClassEdit) : Splice := ⟨e.classSpan, classValue e.tokens⟩

/-- Write a plan's class values into the base. -/
def applyPlan (base : Text) (plan : MergePlan) : Text := spliced base (plan.edits.map ClassEdit.splice)

def merge (base : Text) (overlays : List Overlay) : Text := applyPlan base (plan base overlays)

end Merge

end ResponsiveMarkup
