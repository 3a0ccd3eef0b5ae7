import Mathlib.Data.List.Basic
import Mathlib.Data.List.Nodup
import ResponsiveMarkup.Proofs.Merge.Remerge

/-!
What the statistics of a merge count. Matching pairs the elements without a key in order, as long as both sides have
any, and every keyed element with the first of its key; where no key of the base occurs twice, no element of an overlay
is matched twice.
-/

namespace ResponsiveMarkup.Merge

open Text

/-- The overlays that take part in a merge: those of tablets, then those of desktops, blank ones left out. -/
def partaking (overlays : List Overlay) : List Overlay :=
  [Viewport.tablet, Viewport.desktop].flatMap fun v =>
    overlays.filter fun o => o.viewport = v && !isBlankText o.markup

/-- The element has a key that an element of the other markup has too. -/
def keyShared (others : List Element) (e : Element) : Bool :=
  e.key.any fun key => others.any fun other => other.key == some key

/-- What the statistics of an overlay count. -/
structure CountsMatching (base : Text) (o : Overlay) (s : OverlayStats) : Prop where
  viewport : s.viewport = o.viewport
  elements : s.elements = (elements o.markup).length
  matchedByPosition : s.matchedByPosition =
    min (Element.unkeyed (ResponsiveMarkup.elements base)).length
      (Element.unkeyed (ResponsiveMarkup.elements o.markup)).length
  matchedByKey : s.matchedByKey =
    (ResponsiveMarkup.elements base).countP (keyShared (ResponsiveMarkup.elements o.markup))

/-! ### The overlays in their order -/

/-- An overlay as it takes part. -/
structure TakesPart (o : Overlay) (l : Layered) : Prop where
  viewport : l.viewport = o.viewport
  elements : l.elements = ResponsiveMarkup.elements o.markup

theorem layered_eq_map {v : Viewport} {scope : Text} (hv : v.scope? = some scope) (overlays : List Overlay) :
    layered overlays v = (overlays.filter fun o => o.viewport = v && !isBlankText o.markup).map fun o =>
      ⟨v, scope, elements o.markup⟩ := by
  rw [← List.filterMap_eq_map', List.filterMap_filter]
  refine List.filterMap_congr fun o _ => ?_
  simp [hv]

theorem forall₂_layered {v : Viewport} {scope : Text} (hv : v.scope? = some scope) (overlays : List Overlay) :
    List.Forall₂ TakesPart (overlays.filter fun o => o.viewport = v && !isBlankText o.markup)
      (layered overlays v) := by
  rw [layered_eq_map hv, List.forall₂_map_right_iff, List.forall₂_same]
  intro o ho
  have hviewport := (List.mem_filter.mp ho).2
  rw [Bool.and_eq_true, decide_eq_true_eq] at hviewport
  exact ⟨hviewport.1.symm, rfl⟩

theorem forall₂_inOrder (overlays : List Overlay) :
    List.Forall₂ TakesPart (partaking overlays) (inOrder overlays) := by
  rw [inOrder_eq, partaking, List.flatMap_cons, List.flatMap_singleton]
  exact List.rel_append (forall₂_layered rfl overlays) (forall₂_layered rfl overlays)

/-- An element is left unmatched by the overlays that take part if it has no partner in any of them. -/
theorem all_unmatched_eq {os : List Overlay} {ls : List Layered} (h : List.Forall₂ TakesPart os ls) (es : List Element)
    (e : Element) : ls.all (fun l => (counterpart? l.elements e (rankAt es e.index)).isNone) =
      os.all fun o => (partner? es (elements o.markup) e).isNone := by
  induction h with
  | nil => rfl
  | cons h _ ih => rw [List.all_cons, List.all_cons, ih, h.elements, counterpart?_eq_partner?]

/-! ### Counting ranked elements -/

theorem map_fst_ranked (rank : Nat) (es : List Element) : (ranked rank es).map (·.1) = es := by
  induction es generalizing rank with
  | nil => rfl
  | cons e es ih => rw [ranked, List.map_cons, ih]

theorem countP_fst_ranked (p : Element → Bool) (rank : Nat) (es : List Element) :
    (ranked rank es).countP (fun x => p x.1) = es.countP p := by
  conv_rhs => rw [← map_fst_ranked rank es, List.countP_map]
  rfl

/-- As many elements without a key have a rank below a bound as there are, or as there are such ranks. -/
theorem countP_rank_lt (bound rank : Nat) (es : List Element) :
    (ranked rank es).countP (fun x => x.1.key.isNone && decide (x.2 < bound)) =
      min (Element.unkeyed es).length (bound - rank) := by
  induction es generalizing rank with
  | nil => simp [ranked, Element.unkeyed]
  | cons e es ih =>
    rw [ranked, List.countP_cons, ih, Element.unkeyed, Element.unkeyed, List.filter_cons]
    cases e.key with
    | some key => simp
    | none =>
      simp only [Option.isNone_none, Bool.true_and, decide_eq_true_eq, if_true, List.length_cons]
      split <;> omega

/-- The elements that have a counterpart, with their ranks. -/
def found (l : Layered) (base : List (Element × Nat)) : List (Element × Nat) :=
  base.filter fun x => (counterpart? l.elements x.1 x.2).isSome

theorem matchedByPosition_eq (base : List (Element × Nat)) (l : Layered) :
    (overlayStats base l).matchedByPosition = ((found l base).filter (·.1.key.isNone)).length := rfl

theorem matchedByKey_eq (base : List (Element × Nat)) (l : Layered) :
    (overlayStats base l).matchedByKey = ((found l base).filter (·.1.key.isSome)).length := rfl

theorem matchedByPosition_ranked (es : List Element) (l : Layered) :
    (overlayStats (ranked 0 es) l).matchedByPosition =
      min (Element.unkeyed es).length (Element.unkeyed l.elements).length := by
  have hcount := countP_rank_lt (Element.unkeyed l.elements).length 0 es
  rw [Nat.sub_zero] at hcount
  rw [← hcount, matchedByPosition_eq, found, List.filter_filter, ← List.countP_eq_length_filter]
  refine List.countP_congr fun x _ => ?_
  rw [counterpart?]
  cases x.1.key with
  | some key => simp
  | none => simp [Element.byRank?]

theorem matchedByKey_ranked (es : List Element) (l : Layered) :
    (overlayStats (ranked 0 es) l).matchedByKey = es.countP (keyShared l.elements) := by
  rw [← countP_fst_ranked _ 0, matchedByKey_eq, found, List.filter_filter, ← List.countP_eq_length_filter]
  refine List.countP_congr fun x _ => ?_
  rw [counterpart?, keyShared]
  cases x.1.key with
  | some key => simp [Element.byKey?, List.find?_isSome]
  | none => simp

theorem countsMatching_stats (base : Text) (overlays : List Overlay) :
    List.Forall₂ (CountsMatching base) (partaking overlays) (plan base overlays).stats.overlays := by
  have hstats : (plan base overlays).stats.overlays =
      (inOrder overlays).map (overlayStats (ranked 0 (elements base))) := rfl
  rw [hstats, List.forall₂_map_right_iff]
  refine (forall₂_inOrder overlays).imp fun o l hl => ?_
  refine ⟨hl.viewport, congrArg List.length hl.elements, ?_, ?_⟩
  · rw [← hl.elements]
    exact matchedByPosition_ranked _ l
  · rw [← hl.elements]
    exact matchedByKey_ranked _ l

theorem unmatchedElements_plan (base : Text) (overlays : List Overlay) :
    (plan base overlays).stats.unmatchedElements = (elements base).countP fun e =>
      (partaking overlays).all fun o => (partner? (elements base) (elements o.markup) e).isNone := by
  have hstats : (plan base overlays).stats.unmatchedElements = ((ranked 0 (elements base)).filter fun x =>
      (inOrder overlays).all fun l => (counterpart? l.elements x.1 x.2).isNone).length := rfl
  rw [hstats, ← List.countP_eq_length_filter, ranked_elements, List.countP_map]
  refine List.countP_congr fun e _ => ?_
  rw [Function.comp_apply, all_unmatched_eq (forall₂_inOrder overlays)]

theorem editedElements_plan (base : Text) (overlays : List Overlay) :
    (plan base overlays).stats.editedElements =
      (elements base).countP fun e => classValue (mergedFor base overlays e) ≠ e.classes := by
  have hstats : (plan base overlays).stats.editedElements = (plan base overlays).edits.length := rfl
  rw [hstats, edits_plan, List.length_filterMap_eq_countP]
  refine List.countP_congr fun e _ => ?_
  by_cases h : classValue (mergedFor base overlays e) = e.classes <;> simp [h]

/-- Where class values are in double quotes, the edits are counted by reading the merged text. -/
theorem editedElements_eq_changed {base : Text} {overlays : List Overlay} (hbase : ClassesInDoubleQuotes base)
    (hoverlays : ∀ o ∈ overlays, ClassesInDoubleQuotes o.markup) :
    (plan base overlays).stats.editedElements =
      ((elements base).zip (elements (merge base overlays))).countP fun p => p.2.classes ≠ p.1.classes := by
  have hclasses : (elements (merge base overlays)).map (·.classes) =
      (elements base).map fun e => classValue (mergedFor base overlays e) := by
    have hentries := congrArg (List.map Entry.classes) (entries_merge hbase hoverlays)
    rw [List.map_map, List.map_map] at hentries
    exact hentries
  have hpairs : (elements base).zip ((elements (merge base overlays)).map (·.classes)) =
      (elements base).map fun e => (e, classValue (mergedFor base overlays e)) := by
    have hzip := List.zip_map' (f := id) (g := fun e => classValue (mergedFor base overlays e)) (l := elements base)
    rw [List.map_id] at hzip
    rw [hclasses]
    exact hzip
  have hcount := congrArg (List.countP fun p => p.2 ≠ p.1.classes) hpairs
  rw [List.zip_map_right, List.countP_map, List.countP_map] at hcount
  rw [editedElements_plan]
  exact hcount.symm

theorem replaced_merge (base : Text) (overlays : List Overlay) :
    Replaced 0 base ((elements base).map fun e => ⟨e.classSpan, classValue (mergedFor base overlays e)⟩)
      (merge base overlays) := by
  have hreplaced := replaced_reclass (f := fun e => some (classValue (mergedFor base overlays e)))
    (g := fun e => classValue (mergedFor base overlays e)) (fun _ => rfl) 0 0 (Scanner.pieces base)
  rw [Scanner.flatMap_source_pieces, ← elements_eq, ← (merge_eq base overlays).2.2] at hreplaced
  simpa only [Option.map_some, List.filterMap_eq_map'] using hreplaced

/-! ### No element is matched twice -/

theorem nodup_elements (markup : Text) : (elements markup).Nodup := by
  have hindices : ((elements markup).map (·.index)).Nodup := by
    rw [map_index_elements]
    exact List.nodup_range
  exact hindices.of_map _

/-- An element with a key has a counterpart of that key, and any other one without. -/
theorem key_of_counterpart? {others : List Element} {e m : Element} {rank : Nat}
    (h : counterpart? others e rank = some m) : m.key = e.key := by
  rw [counterpart?] at h
  cases hkey : e.key with
  | some key =>
    rw [hkey] at h
    have hfound := List.find?_some h
    simpa using hfound
  | none =>
    rw [hkey] at h
    have hmem := (List.mem_filter.mp (List.mem_of_getElem? h)).2
    simpa using hmem

section

variable {base other : Text} (hkeys : ((elements base).filterMap (·.key)).Nodup)

include hkeys

/-- Two elements of the same counterpart have the same counterpart in the base, which is either of them. -/
theorem partner?_injective {d e m : Element} (hd : d ∈ elements base) (he : e ∈ elements base)
    (hdm : partner? (elements base) (elements other) d = some m)
    (hem : partner? (elements base) (elements other) e = some m) : d = e := by
  rw [← counterpart?_eq_partner?] at hdm hem
  have hsame : d.key = e.key := (key_of_counterpart? hdm).symm.trans (key_of_counterpart? hem)
  have hdself := counterpart?_self hkeys hd
  have heself := counterpart?_self hkeys he
  cases hkey : e.key with
  | some key =>
    rw [counterpart?, hsame, hkey] at hdself
    rw [counterpart?, hkey] at heself
    exact Option.some.inj (hdself.symm.trans heself)
  | none =>
    rw [counterpart?, hsame, hkey] at hdself hdm
    rw [counterpart?, hkey] at heself hem
    have hnodup : (Element.unkeyed (elements other)).Nodup := (nodup_elements other).filter _
    have hlt := (List.getElem?_eq_some_iff.mp hdm).1
    have hrank := (List.getElem?_inj hlt hnodup).mp (hdm.trans hem.symm)
    rw [hrank] at hdself
    exact Option.some.inj (hdself.symm.trans heself)

/-- No more elements have a counterpart than there are elements to be one. -/
theorem countP_partner?_le :
    (elements base).countP (fun e => (partner? (elements base) (elements other) e).isSome) ≤
      (elements other).length := by
  rw [← List.length_filterMap_eq_countP]
  refine List.Nodup.length_le_of_subset ?_ ?_
  · refine List.pairwise_filterMap.mpr ((nodup_elements base).imp_of_mem fun hd he hne => ?_)
    rintro m hdm n hen rfl
    exact hne (partner?_injective hkeys hd he hdm hen)
  · intro m hm
    obtain ⟨e, -, hem⟩ := List.mem_filterMap.mp hm
    rw [← counterpart?_eq_partner?] at hem
    exact mem_of_counterpart? hem

end

theorem matched_eq_countP (base : Text) (l : Layered) :
    (overlayStats (ranked 0 (elements base)) l).matchedByKey +
        (overlayStats (ranked 0 (elements base)) l).matchedByPosition =
      (elements base).countP fun e => (partner? (elements base) l.elements e).isSome := by
  have hsplit := List.length_eq_length_filter_add (l := found l (ranked 0 (elements base))) (·.1.key.isSome)
  simp only [Option.not_isSome] at hsplit
  rw [matchedByKey_eq, matchedByPosition_eq, ← hsplit, found, ← List.countP_eq_length_filter, ranked_elements,
    List.countP_map]
  refine List.countP_congr fun e _ => ?_
  rw [Function.comp_apply, counterpart?_eq_partner?]

theorem matched_le {base : Text} (hkeys : ((elements base).filterMap (·.key)).Nodup) (overlays : List Overlay) :
    ∀ s ∈ (plan base overlays).stats.overlays, s.matchedByKey + s.matchedByPosition ≤ s.elements := by
  intro s hs
  obtain ⟨l, hl, rfl⟩ := List.mem_map.mp hs
  obtain ⟨o, -, -, scope, -, rfl⟩ := mem_inOrder_iff.mp hl
  rw [matched_eq_countP]
  exact countP_partner?_le hkeys

/-- The statistics of a merge. For each overlay that takes part: as many elements are matched by position as both sides
have without a key, and as many by key as share one. Unmatched are the elements without a partner in any overlay, and
edited are those whose class value is replaced by another one. If no key of the base occurs twice, no element of an
overlay is the partner of two, so no more are matched than there are. -/
theorem merge_statistics_count (base : Text) (overlays : List Overlay) :
    let stats := (plan base overlays).stats
    List.Forall₂ (CountsMatching base) (partaking overlays) stats.overlays ∧
    stats.unmatchedElements = (elements base).countP (fun e =>
      (partaking overlays).all fun o => (partner? (elements base) (elements o.markup) e).isNone) ∧
    (stats.editedElements = (elements base).countP (fun e => classValue (mergedFor base overlays e) ≠ e.classes) ∧
      Replaced 0 base ((elements base).map fun e => ⟨e.classSpan, classValue (mergedFor base overlays e)⟩)
        (merge base overlays) ∧
      ∀ e ∈ elements base, e.classSpan.slice? base = some e.classes) ∧
    (ClassesInDoubleQuotes base → (∀ o ∈ overlays, ClassesInDoubleQuotes o.markup) →
      stats.editedElements = ((elements base).zip (elements (merge base overlays))).countP fun p =>
        p.2.classes ≠ p.1.classes) ∧
    (((elements base).filterMap (·.key)).Nodup →
      (∀ o ∈ overlays, ∀ d ∈ elements base, ∀ e ∈ elements base, ∀ m,
        partner? (elements base) (elements o.markup) d = some m →
          partner? (elements base) (elements o.markup) e = some m → d = e) ∧
      ∀ s ∈ stats.overlays, s.matchedByKey + s.matchedByPosition ≤ s.elements) :=
  ⟨countsMatching_stats base overlays, unmatchedElements_plan base overlays,
    ⟨editedElements_plan base overlays, replaced_merge base overlays, slice_classSpan base⟩,
    editedElements_eq_changed,
    fun hkeys => ⟨fun _ _ _ hd _ he _ hdm hem => partner?_injective hkeys hd he hdm hem, matched_le hkeys overlays⟩⟩

/-- A link with a key and one without. -/
def twoLinkPieces (classes others : Text) : List Piece :=
  [Render.openPiece ['a'] [(Names.key, ['k']), (Names.classes, classes)] true,
    Render.openPiece ['a'] [(Names.nodeId, ['n']), (Names.classes, others)] true]

def twoLinks (classes others : Text) : Text := (twoLinkPieces classes others).flatMap Piece.source

theorem elements_twoLinks (classes others : Text) :
    elements (twoLinks classes others) = elementsOf 0 0 (twoLinkPieces classes others) := by
  have hnames : ∀ name ∈ [Names.key, Names.nodeId, Names.classes], IsAttributeName name := by decide
  have htag : IsTagName ['a'] := by decide
  have hkeyed : ∀ a ∈ [(Names.key, ['k']), (Names.classes, classes)], IsAttributeName a.1 := by
    intro a ha
    rcases List.mem_pair.mp ha with rfl | rfl <;> exact hnames _ (by simp)
  have hunkeyed : ∀ a ∈ [(Names.nodeId, ['n']), (Names.classes, others)], IsAttributeName a.1 := by
    intro a ha
    rcases List.mem_pair.mp ha with rfl | rfl <;> exact hnames _ (by simp)
  rw [elements_eq, twoLinks, pieces_of_scanned]
  exact ⟨Render.fits_openPiece htag hkeyed true _, Render.fits_openPiece htag hunkeyed true _, trivial⟩

/-- The link without a key is matched by position and the other one by its key; the blank overlay counts for nothing. -/
theorem merge_statistics_count_twoLinks :
    let base := twoLinks ['p'] ['q']
    let overlays : List Overlay := [⟨.desktop, [' ']⟩, ⟨.tablet, twoLinks ['p'] ['r']⟩]
    ((elements base).filterMap (·.key)).Nodup ∧
    (plan base overlays).stats.unmatchedElements = 0 ∧
    ∃ s, (plan base overlays).stats.overlays = [s] ∧ s.viewport = .tablet ∧ s.matchedByKey = 1 ∧
      s.matchedByPosition = 1 ∧ s.matchedByKey + s.matchedByPosition ≤ s.elements := by
  intro base overlays
  have helements : elements base =
      [⟨0, some ['k'], none, ['a'], ['p'], ⟨23, 24⟩⟩, ⟨1, none, some ['n'], ['a'], ['q'], ⟨55, 56⟩⟩] :=
    elements_twoLinks _ _
  have hothers : elements (twoLinks ['p'] ['r']) =
      [⟨0, some ['k'], none, ['a'], ['p'], ⟨23, 24⟩⟩, ⟨1, none, some ['n'], ['a'], ['r'], ⟨55, 56⟩⟩] :=
    elements_twoLinks _ _
  have hkeys : ((elements base).filterMap (·.key)).Nodup := by
    rw [helements]
    decide
  have hpartaking : partaking overlays = [⟨.tablet, twoLinks ['p'] ['r']⟩] := rfl
  obtain ⟨hcounts, hunmatched, -, -, hdistinct⟩ := merge_statistics_count base overlays
  have hle := (hdistinct hkeys).2
  rw [hpartaking] at hcounts hunmatched
  refine ⟨hkeys, ?_, ?_⟩
  · simp only [hunmatched, helements, List.all_cons, List.all_nil, hothers]
    decide
  · obtain ⟨s, rest, hs, hrest, hstats⟩ := List.forall₂_cons_left_iff.mp hcounts
    rw [List.forall₂_nil_left_iff] at hrest
    rw [hrest] at hstats
    refine ⟨s, hstats, hs.viewport, ?_, ?_, ?_⟩
    · rw [hs.matchedByKey, helements, hothers]
      decide
    · rw [hs.matchedByPosition, helements, hothers]
      decide
    · exact hle s (by rw [hstats]; exact List.mem_cons_self)

end ResponsiveMarkup.Merge
