import Mathlib.Data.List.Basic
import ResponsiveMarkup.Merge.Plan
import ResponsiveMarkup.Proofs.Markup.ClassValue
import ResponsiveMarkup.Proofs.Render.Written

/-!
What merging does to a text. The merged text is the base with the class value of every element replaced by the
union of its own tokens and those that its counterparts bring, and with every other byte as it was.
-/

namespace ResponsiveMarkup.Merge

open Text

/-- How many elements without a key come before a place. -/
def rankAt (es : List Element) (place : Nat) : Nat := (Element.unkeyed (es.take place)).length

theorem ranked_eq_mapIdx (rank : Nat) (es : List Element) :
    ranked rank es = es.mapIdx fun i e => (e, rank + rankAt es i) := by
  induction es generalizing rank with
  | nil => rfl
  | cons e es ih =>
    rw [ranked, ih, List.mapIdx_cons]
    congr 1
    apply List.mapIdx_eq_mapIdx_iff.mpr
    intro i hi
    by_cases hkey : e.key.isNone = true
    · simp only [hkey, if_true, rankAt, Element.unkeyed, List.take_succ_cons, List.filter_cons_of_pos,
        List.length_cons]
      rw [Nat.add_assoc, Nat.add_comm 1]
    · rw [Bool.not_eq_true] at hkey
      simp [hkey, rankAt, Element.unkeyed]

theorem ranked_elements (markup : Text) : ranked 0 (elements markup) =
    (elements markup).map fun e => (e, rankAt (elements markup) e.index) := by
  rw [ranked_eq_mapIdx]
  apply List.ext_getElem
  · simp
  · intro i hi hi'
    simp [index_getElem_elements]

/-- The tokens that an element of the base has after merging. -/
def mergedFor (base : Text) (overlays : List Overlay) (e : Element) : List Text :=
  mergedTokens (inOrder overlays) e (rankAt (elements base) e.index)

/-- The new class value of an element, if it has to be written. -/
def newClass? (base : Text) (overlays : List Overlay) (e : Element) : Option Text :=
  if classValue (mergedFor base overlays e) = e.classes then none
  else some (classValue (mergedFor base overlays e))

theorem getD_newClass? (base : Text) (overlays : List Overlay) (e : Element) :
    (newClass? base overlays e).getD e.classes = classValue (mergedFor base overlays e) := by
  rw [newClass?]
  split
  · rename_i h
    exact h.symm
  · rfl

theorem splices_plan (base : Text) (overlays : List Overlay) :
    (plan base overlays).edits.map ClassEdit.splice =
      (elements base).filterMap fun e => (newClass? base overlays e).map fun v => ⟨e.classSpan, v⟩ := by
  rw [plan, ranked_elements, List.filterMap_map, List.map_filterMap]
  apply List.filterMap_congr
  intro e _
  rw [newClass?]
  by_cases h : classValue (mergedFor base overlays e) = e.classes
  · rw [mergedFor] at h
    simp [edit?, mergedFor, h]
  · rw [mergedFor] at h
    simp [edit?, mergedFor, h, ClassEdit.splice]

/-- The splices of the plan, left out where the value stays as it is, replace class values from left to right. -/
theorem replaced_plan (base : Text) (overlays : List Overlay) :
    Replaced 0 base ((plan base overlays).edits.map ClassEdit.splice)
        ((reclass (fun e => classValue (mergedFor base overlays e)) 0 0 (Scanner.pieces base)).flatMap Piece.source) ∧
      ∀ s ∈ (plan base overlays).edits.map ClassEdit.splice, s.range.start < s.range.stop := by
  rw [splices_plan]
  constructor
  · have hreplaced := replaced_reclass (getD_newClass? base overlays) 0 0 (Scanner.pieces base)
    rwa [Scanner.flatMap_source_pieces, ← elements_eq] at hreplaced
  · intro s hs
    obtain ⟨e, he, hnew⟩ := List.mem_filterMap.mp hs
    obtain ⟨v, -, rfl⟩ := Option.map_eq_some_iff.mp hnew
    exact classSpan_filled e he

/-- Merging applies every edit of its plan, and what comes out are the pieces with the merged class values. -/
theorem merge_eq (base : Text) (overlays : List Overlay) :
    Splice.kept (byteLength base) none
        (Splice.arrange ((plan base overlays).edits.map ClassEdit.splice)) =
      ((plan base overlays).edits.map ClassEdit.splice).reverse ∧
    applySplices base ((plan base overlays).edits.map ClassEdit.splice) = some (merge base overlays) ∧
    merge base overlays =
      (reclass (fun e => classValue (mergedFor base overlays e)) 0 0 (Scanner.pieces base)).flatMap
        Piece.source := by
  obtain ⟨hreplaced, hfilled⟩ := replaced_plan base overlays
  obtain ⟨hkept, happly⟩ := applySplices_of_replaced hreplaced (hreplaced.distinct hfilled)
  have hmerge : merge base overlays =
      (reclass (fun e => classValue (mergedFor base overlays e)) 0 0 (Scanner.pieces base)).flatMap
        Piece.source := by
    rw [merge, applyPlan, spliced, happly, Option.getD_some]
  rw [hmerge]
  exact ⟨hkept, happly, rfl⟩

/-! ### The union of tokens, overlay by overlay -/

/-- The overlay of a viewport that takes part in a merge. -/
def overlayFor? (overlays : List Overlay) (v : Viewport) : Option Overlay :=
  overlays.find? fun o => o.viewport = v && !isBlankText o.markup

/-- The element of `others` that belongs to an element of `es`: the first of the same key, or else the one with
as many elements without a key before it. -/
def partner? (es others : List Element) (e : Element) : Option Element :=
  match e.key with
  | some key => others.find? fun o => o.key == some key
  | none => (others.filter fun o => o.key.isNone)[((es.take e.index).filter fun o => o.key.isNone).length]?

theorem counterpart?_eq_partner? (es others : List Element) (e : Element) :
    counterpart? others e (rankAt es e.index) = partner? es others e := by
  rw [counterpart?, partner?]
  cases e.key <;> rfl

/-- Tokens as an element takes them over: scoped ones as they are, its own ones not, and others scoped. -/
def takenOver (own : List Text) (scope : Text) : List Text → List Text
  | [] => []
  | t :: ts =>
    if isScoped t then t :: takenOver own scope ts
    else if own.contains t then takenOver own scope ts
    else (scope ++ t) :: takenOver own scope ts

/-- What an element takes over from its partner in the overlay of a viewport. -/
def brought (base : Text) (overlays : List Overlay) (v : Viewport) (scope : Text) (e : Element) : List Text :=
  match (overlayFor? overlays v).bind fun o => partner? (elements base) (elements o.markup) e with
  | some other => takenOver e.tokens scope other.tokens
  | none => []

/-- An element's own tokens, then those of its tablet partner, then those of its desktop partner. -/
def union (base : Text) (overlays : List Overlay) (e : Element) : List Text :=
  dedupe (e.tokens ++ brought base overlays .tablet "md:".toList e ++
    brought base overlays .desktop "lg:".toList e)

theorem layered_eq {overlays : List Overlay} (h : (overlays.map (·.viewport)).Nodup) {v : Viewport}
    {scope : Text} (hv : v.scope? = some scope) : layered overlays v =
      ((overlayFor? overlays v).map fun o => ⟨v, scope, elements o.markup⟩).toList := by
  induction overlays with
  | nil => rfl
  | cons o overlays ih =>
    rw [List.map_cons, List.nodup_cons] at h
    obtain ⟨hfirst, hrest⟩ := h
    by_cases hcounts : o.viewport = v ∧ isBlankText o.markup = false
    · have hnone : layered overlays v = [] := by
        apply List.filterMap_eq_nil_iff.mpr
        intro p hp
        have hne : p.viewport ≠ v := by
          intro heq
          apply hfirst
          rw [hcounts.1, ← heq]
          exact List.mem_map_of_mem hp
        rw [if_neg fun hc => hne hc.1]
      have hfind : overlayFor? (o :: overlays) v = some o := by
        simp [overlayFor?, hcounts.1, hcounts.2]
      rw [hfind, layered, List.filterMap_cons_some (by rw [if_pos hcounts, hv]; rfl), ← layered, hnone]
      rfl
    · have hfind : overlayFor? (o :: overlays) v = overlayFor? overlays v := by
        rw [overlayFor?, List.find?_cons_of_neg]
        · rfl
        · simpa using hcounts
      rw [hfind, layered, List.filterMap_cons_none (by rw [if_neg hcounts]), ← layered, ih hrest]

theorem added_eq (own : List Text) (scope : Text) (other : Element) :
    added own scope other = takenOver own scope other.tokens := by
  rw [added]
  induction other.tokens with
  | nil => rfl
  | cons t ts ih =>
    rw [takenOver, ← ih]
    cases hs : isScoped t with
    | true => simp [hs, scopeToken]
    | false =>
      by_cases ht : t ∈ own
      · simp [hs, ht]
      · simp [hs, ht, scopeToken]

theorem flatMap_addedBy {overlays : List Overlay} (h : (overlays.map (·.viewport)).Nodup) {v : Viewport}
    {scope : Text} (hv : v.scope? = some scope) (base : Text) (e : Element) :
    ((layered overlays v).flatMap fun o => addedBy o e (rankAt (elements base) e.index)) =
      brought base overlays v scope e := by
  rw [layered_eq h hv, brought]
  cases overlayFor? overlays v with
  | none => rfl
  | some o =>
    simp only [Option.map_some, Option.toList_some, List.flatMap_singleton, addedBy, counterpart?_eq_partner?,
      Option.bind_some]
    cases partner? (elements base) (elements o.markup) e with
    | none => rfl
    | some other => exact added_eq e.tokens scope other

/-- Only tablet and desktop take part. -/
theorem inOrder_eq (overlays : List Overlay) :
    inOrder overlays = layered overlays .tablet ++ layered overlays .desktop := by
  have hmobile : layered overlays .mobile = [] := by
    apply List.filterMap_eq_nil_iff.mpr
    intro o _
    split <;> rfl
  simp [inOrder, Viewport.all, hmobile]

theorem mergedFor_eq_union {overlays : List Overlay} (h : (overlays.map (·.viewport)).Nodup) (base : Text)
    (e : Element) : mergedFor base overlays e = union base overlays e := by
  rw [mergedFor, mergedTokens, inOrder_eq, List.flatMap_append, flatMap_addedBy h rfl, flatMap_addedBy h rfl,
    union, List.append_assoc]

/-- Merging replaces the class value of each element by the union of its own tokens and those that its tablet
and desktop partners bring, drops no planned edit, and leaves every other byte alone. -/
theorem merge_replaces_class_values (base : Text) (overlays : List Overlay)
    (h : (overlays.map (·.viewport)).Nodup) :
    Replaced 0 base
      ((elements base).map fun e => ⟨e.classSpan, joinWith [' '] (union base overlays e)⟩)
      (merge base overlays) ∧
    (∀ e ∈ elements base, e.classSpan.slice? base = some e.classes) ∧
    (Splice.kept (byteLength base) none
      (Splice.arrange ((plan base overlays).edits.map ClassEdit.splice))).Perm
        ((plan base overlays).edits.map ClassEdit.splice) ∧
    applySplices base ((plan base overlays).edits.map ClassEdit.splice) = some (merge base overlays) := by
  obtain ⟨hkept, happly, hmerge⟩ := merge_eq base overlays
  refine ⟨?_, slice_classSpan base, ?_, happly⟩
  · have hreplaced := replaced_reclass (f := fun e => some (classValue (mergedFor base overlays e)))
      (g := fun e => classValue (mergedFor base overlays e)) (fun _ => rfl) 0 0 (Scanner.pieces base)
    rw [Scanner.flatMap_source_pieces, ← elements_eq, ← hmerge] at hreplaced
    simp only [Option.map_some, mergedFor_eq_union h, classValue] at hreplaced
    rwa [List.filterMap_eq_map'] at hreplaced
  · rw [hkept]
    exact List.reverse_perm _

/-- A link of some classes. -/
def link (classes : Text) : Text := Render.openTag ['a'] [(Names.key, ['k']), (Names.classes, classes)] true

theorem pieces_link (classes : Text) : Scanner.pieces (link classes) =
    [Render.openPiece ['a'] [(Names.key, ['k']), (Names.classes, classes)] true] := by
  have hnames : ∀ a ∈ [(Names.key, ['k']), (Names.classes, classes)], IsAttributeName a.1 := by
    intro a ha
    have hboth : IsAttributeName Names.key ∧ IsAttributeName Names.classes := by decide
    rcases List.mem_pair.mp ha with rfl | rfl
    · exact hboth.1
    · exact hboth.2
  have htag : IsTagName ['a'] := by decide
  have hscanned : Scanned [Render.openPiece ['a'] [(Names.key, ['k']), (Names.classes, classes)] true] [] :=
    ⟨Render.fits_openPiece htag hnames true _, trivial⟩
  have hpieces := pieces_of_scanned hscanned
  rw [List.flatMap_singleton, Render.source_openPiece] at hpieces
  exact hpieces

theorem elements_link (classes : Text) : elements (link classes) =
    elementsOf 0 0 [Render.openPiece ['a'] [(Names.key, ['k']), (Names.classes, classes)] true] := by
  rw [elements_eq, pieces_link]

theorem replaced_link {v w : Text} (hv : escapeAttr v = v) (hw : escapeAttr w = w) :
    Replaced 0 (link v) [⟨Span.of 23 v, w⟩] (link w) := by
  have hsource {u : Text} (hu : escapeAttr u = u) :
      link u = "<a data-key=\"k\" class=\"".toList ++ u ++ "\" />".toList := by
    have hkey : escapeAttr ['k'] = ['k'] := by decide
    rw [link, Render.openTag, List.flatMap_cons, List.flatMap_singleton, Render.writeAttribute,
      Render.writeAttribute, hkey, hu]
    simp only [List.append_assoc]
    rfl
  rw [hsource hv, hsource hw]
  exact .single w rfl

/-- The tablet comes first in the union wherever it stands in the list. -/
theorem merge_replaces_class_values_of_link :
    (([⟨.desktop, link "p q".toList⟩, ⟨.tablet, link ['r']⟩] : List Overlay).map (·.viewport)).Nodup ∧
    merge (link ['p']) [⟨.desktop, link "p q".toList⟩, ⟨.tablet, link ['r']⟩] = link "p md:r lg:q".toList := by
  refine ⟨by decide, ?_⟩
  have hmerged := (merge_replaces_class_values (link ['p']) [⟨.desktop, link "p q".toList⟩, ⟨.tablet, link ['r']⟩]
    (by decide)).1
  have hnarrow : elements (link ['p']) = [⟨0, some ['k'], none, ['a'], ['p'], Span.of 23 ['p']⟩] :=
    elements_link _
  have htablet : overlayFor? [⟨.desktop, link "p q".toList⟩, ⟨.tablet, link ['r']⟩] .tablet =
      some ⟨.tablet, link ['r']⟩ := rfl
  have hdesktop : overlayFor? [⟨.desktop, link "p q".toList⟩, ⟨.tablet, link ['r']⟩] .desktop =
      some ⟨.desktop, link "p q".toList⟩ := rfl
  rw [hnarrow] at hmerged
  have hplanned : Replaced 0 (link ['p']) [⟨Span.of 23 ['p'], "p md:r lg:q".toList⟩]
      (merge (link ['p']) [⟨.desktop, link "p q".toList⟩, ⟨.tablet, link ['r']⟩]) := by
    convert hmerged using 1
    rw [List.map_singleton, union, brought, brought, htablet, hdesktop, Option.bind_some, Option.bind_some,
      hnarrow, elements_link, elements_link]
    rfl
  have hkept : escapeAttr "p md:r lg:q".toList = "p md:r lg:q".toList := by decide
  exact hplanned.unique (replaced_link (by decide) hkept)

end ResponsiveMarkup.Merge
