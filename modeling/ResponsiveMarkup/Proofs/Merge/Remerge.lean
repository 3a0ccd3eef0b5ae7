import Mathlib.Data.List.Basic
import ResponsiveMarkup.Proofs.Merge.Structure

/-!
Merging what is there already. The overlays of a merge bring nothing new when they are merged again, and a markup
brings nothing new to itself.
-/

namespace ResponsiveMarkup.Merge

open Text

theorem edits_plan (base : Text) (overlays : List Overlay) : (plan base overlays).edits =
    (elements base).filterMap fun e =>
      if classValue (mergedFor base overlays e) = e.classes then none
      else some ⟨e.index, e.key, e.classSpan, mergedFor base overlays e⟩ := by
  rw [plan, ranked_elements, List.filterMap_map]
  rfl

/-- A merge that would write every class value as it stands edits nothing. -/
theorem merge_eq_self {base : Text} {overlays : List Overlay}
    (h : ∀ e ∈ elements base, classValue (mergedFor base overlays e) = e.classes) :
    (plan base overlays).edits = [] ∧ merge base overlays = base := by
  have hedits : (plan base overlays).edits = [] := by
    rw [edits_plan, List.filterMap_eq_nil_iff]
    intro e he
    rw [if_pos (h e he)]
  refine ⟨hedits, ?_⟩
  rw [merge, applyPlan, hedits]
  rfl

/-! ### The same overlays again -/

theorem rankAt_eq_of_keys {es fs : List Element} (h : es.map (·.key) = fs.map (·.key)) (place : Nat) :
    rankAt es place = rankAt fs place := by
  have hcount (gs : List Element) :
      rankAt gs place = (((gs.map (·.key)).take place).filter (·.isNone)).length := by
    rw [← List.map_take, List.filter_map, List.length_map]
    rfl
  rw [hcount, hcount, h]

theorem added_subset {own own' : List Text} (h : own ⊆ own') (scope : Text) (other : Element) :
    added own' scope other ⊆ added own scope other := by
  intro t ht
  obtain ⟨u, hu, rfl⟩ := List.mem_map.mp ht
  obtain ⟨hmem, hnew⟩ := List.mem_filter.mp hu
  refine List.mem_map_of_mem (List.mem_filter.mpr ⟨hmem, ?_⟩)
  simp only [Bool.or_eq_true, Bool.not_eq_true', List.contains_eq_mem, decide_eq_false_iff_not] at hnew ⊢
  exact hnew.imp_right fun hout hin => hout (h hin)

/-- The more tokens an element has, the fewer are added to it. -/
theorem addedBy_subset {e e' : Element} (hkey : e'.key = e.key) (h : e.tokens ⊆ e'.tokens) (o : Layered)
    (rank : Nat) : addedBy o e' rank ⊆ addedBy o e rank := by
  have hsame : counterpart? o.elements e' rank = counterpart? o.elements e rank := by
    rw [counterpart?, counterpart?, hkey]
  rw [addedBy, addedBy, hsame]
  cases counterpart? o.elements e rank with
  | none => exact List.Subset.refl _
  | some other => exact added_subset h o.scope other

/-- An element that has its merged tokens takes no other from the same overlays. -/
theorem mergedTokens_again {overlays : List Layered} {e e' : Element} {rank : Nat} (hkey : e'.key = e.key)
    (h : e'.tokens = mergedTokens overlays e rank) : mergedTokens overlays e' rank = e'.tokens := by
  have hown : e.tokens ⊆ e'.tokens := by
    intro t ht
    rw [h]
    exact mem_dedupe.mpr (List.mem_append_left _ ht)
  have hadded : ∀ t ∈ overlays.flatMap (fun o => addedBy o e' rank), t ∈ e'.tokens := by
    intro t ht
    obtain ⟨o, ho, hmem⟩ := List.mem_flatMap.mp ht
    have hbefore : t ∈ addedBy o e rank := addedBy_subset hkey hown o rank hmem
    rw [h]
    exact mem_dedupe.mpr (List.mem_append_right _ (List.mem_flatMap.mpr ⟨o, ho, hbefore⟩))
  have hnodup : e'.tokens.Nodup := by
    rw [h]
    exact nodup_dedupe _
  rw [mergedTokens, dedupe_append hadded, dedupe_eq_self hnodup]

section

variable {base : Text} {overlays : List Overlay} (hbase : ClassesInDoubleQuotes base)
  (hoverlays : ∀ o ∈ overlays, ClassesInDoubleQuotes o.markup)

include hbase hoverlays

theorem keys_merge : (elements (merge base overlays)).map (·.key) = (elements base).map (·.key) := by
  have hentries := congrArg (List.map Entry.key) (entries_merge hbase hoverlays)
  rw [List.map_map, List.map_map] at hentries
  exact hentries

theorem length_elements_merge : (elements (merge base overlays)).length = (elements base).length := by
  have hlength := congrArg List.length (entries_merge hbase hoverlays)
  rwa [List.length_map, List.length_map] at hlength

/-- Place by place the elements of a merged markup are those of the base with other classes. -/
theorem getElem_elements_merge {i : Nat} (h' : i < (elements (merge base overlays)).length)
    (h : i < (elements base).length) :
    (elements (merge base overlays))[i].index = (elements base)[i].index ∧
      (elements (merge base overlays))[i].key = (elements base)[i].key ∧
      (elements (merge base overlays))[i].classes = classValue (mergedFor base overlays (elements base)[i]) := by
  have hentry := List.getElem_of_eq (entries_merge hbase hoverlays) (i := i) (by rwa [List.length_map])
  rw [List.getElem_map, List.getElem_map] at hentry
  refine ⟨?_, congrArg Entry.key hentry, congrArg Entry.classes hentry⟩
  rw [index_getElem_elements, index_getElem_elements]

/-- An element of a merged markup is one of the base with its merged tokens. -/
theorem exists_of_mem_elements_merge {e' : Element} (he' : e' ∈ elements (merge base overlays)) :
    ∃ e ∈ elements base, e'.index = e.index ∧ e'.key = e.key ∧
      e'.classes = classValue (mergedFor base overlays e) := by
  obtain ⟨i, hi, rfl⟩ := List.getElem_of_mem he'
  have hi' : i < (elements base).length := by
    rwa [← length_elements_merge hbase hoverlays]
  exact ⟨(elements base)[i], List.getElem_mem hi', getElem_elements_merge hbase hoverlays hi hi'⟩

/-- An element of the base is there after merging, with its merged tokens. -/
theorem exists_merged_of_mem_elements {e : Element} (he : e ∈ elements base) :
    ∃ merged ∈ elements (merge base overlays), merged.index = e.index ∧
      merged.tokens = mergedFor base overlays e := by
  obtain ⟨i, hi, rfl⟩ := List.getElem_of_mem he
  have hi' : i < (elements (merge base overlays)).length := by
    rwa [length_elements_merge hbase hoverlays]
  obtain ⟨hindex, -, hclasses⟩ := getElem_elements_merge hbase hoverlays hi' hi
  refine ⟨(elements (merge base overlays))[i], List.getElem_mem hi', hindex, ?_⟩
  rw [Element.tokens, hclasses, words_classValue hbase hoverlays he]

theorem mergedFor_again {e' : Element} (he' : e' ∈ elements (merge base overlays)) :
    classValue (mergedFor (merge base overlays) overlays e') = e'.classes := by
  obtain ⟨e, he, hindex, hkey, hclasses⟩ := exists_of_mem_elements_merge hbase hoverlays he'
  have htokens : e'.tokens = mergedFor base overlays e := by
    rw [Element.tokens, hclasses, words_classValue hbase hoverlays he]
  rw [mergedFor, rankAt_eq_of_keys (keys_merge hbase hoverlays), hindex, mergedTokens_again hkey htokens, htokens,
    hclasses]

end

/-- Merging the same overlays once more plans no edit and leaves the merged markup as it is. -/
theorem merge_idempotent (base : Text) (overlays : List Overlay) (hbase : ClassesInDoubleQuotes base)
    (hoverlays : ∀ o ∈ overlays, ClassesInDoubleQuotes o.markup) :
    (plan (merge base overlays) overlays).edits = [] ∧
      merge (merge base overlays) overlays = merge base overlays :=
  merge_eq_self fun _ he' => mergedFor_again hbase hoverlays he'

theorem merge_idempotent_of_link :
    ClassesInDoubleQuotes (link "p q".toList) ∧
    (∀ o ∈ ([⟨.desktop, link "p lg:q r".toList⟩, ⟨.tablet, link "s md:".toList⟩] : List Overlay),
      ClassesInDoubleQuotes o.markup) ∧
    (plan (merge (link "p q".toList) [⟨.desktop, link "p lg:q r".toList⟩, ⟨.tablet, link "s md:".toList⟩])
      [⟨.desktop, link "p lg:q r".toList⟩, ⟨.tablet, link "s md:".toList⟩]).edits = [] := by
  have hoverlays : ∀ o ∈ ([⟨.desktop, link "p lg:q r".toList⟩, ⟨.tablet, link "s md:".toList⟩] : List Overlay),
      ClassesInDoubleQuotes o.markup := by
    intro o ho
    rcases List.mem_pair.mp ho with rfl | rfl
    · exact classesInDoubleQuotes_link _
    · exact classesInDoubleQuotes_link _
  have hbase := classesInDoubleQuotes_link "p q".toList
  exact ⟨hbase, hoverlays, (merge_idempotent _ _ hbase hoverlays).1⟩

/-! ### A markup over itself -/

theorem elements_split {markup : Text} {e : Element} (he : e ∈ elements markup) :
    elements markup = (elements markup).take e.index ++ e :: (elements markup).drop (e.index + 1) := by
  obtain ⟨i, hi, rfl⟩ := List.getElem_of_mem he
  rw [index_getElem_elements, List.getElem_cons_drop, List.take_append_drop]

/-- Where no key occurs twice, an element is the first of its key. -/
theorem byKey?_self {markup : Text} (hkeys : ((elements markup).filterMap (·.key)).Nodup) {e : Element}
    (he : e ∈ elements markup) {key : Text} (hkey : e.key = some key) :
    Element.byKey? (elements markup) key = some e := by
  have hsplit := elements_split he
  rw [hsplit, List.filterMap_append, List.filterMap_cons_some hkey] at hkeys
  have hbefore : ((elements markup).take e.index).find? (·.key == some key) = none := by
    rw [List.find?_eq_none]
    intro d hd hsame
    have hd' : key ∈ ((elements markup).take e.index).filterMap (·.key) :=
      List.mem_filterMap.mpr ⟨d, hd, by simpa using hsame⟩
    exact (List.nodup_append.mp hkeys).2.2 key hd' key List.mem_cons_self rfl
  rw [Element.byKey?, hsplit, List.find?_append, hbefore, Option.none_or,
    List.find?_cons_of_pos (by simpa using hkey)]

theorem byRank?_self {markup : Text} {e : Element} (he : e ∈ elements markup) (hkey : e.key = none) :
    Element.byRank? (elements markup) (rankAt (elements markup) e.index) = some e := by
  have hnone : e.key.isNone = true := by rw [hkey]; rfl
  have hunkeyed : Element.unkeyed (elements markup) =
      Element.unkeyed ((elements markup).take e.index) ++
        e :: Element.unkeyed ((elements markup).drop (e.index + 1)) := by
    conv_lhs => rw [elements_split he]
    rw [Element.unkeyed, List.filter_append, List.filter_cons_of_pos (by simpa using hnone)]
    rfl
  rw [Element.byRank?, hunkeyed, rankAt, List.getElem?_append_right (Nat.le_refl _), Nat.sub_self]
  rfl

/-- Where no key occurs twice, every element is its own counterpart. -/
theorem counterpart?_self {markup : Text} (hkeys : ((elements markup).filterMap (·.key)).Nodup) {e : Element}
    (he : e ∈ elements markup) :
    counterpart? (elements markup) e (rankAt (elements markup) e.index) = some e := by
  rw [counterpart?]
  cases hkey : e.key with
  | some key => exact byKey?_self hkeys he hkey
  | none => exact byRank?_self he hkey

/-- An element takes nothing new from itself. -/
theorem mem_of_mem_added {e : Element} {scope t : Text} (h : t ∈ added e.tokens scope e) : t ∈ e.tokens := by
  obtain ⟨u, hu, rfl⟩ := List.mem_map.mp h
  obtain ⟨hmem, hnew⟩ := List.mem_filter.mp hu
  have hscoped : isScoped u = true := by simpa [hmem] using hnew
  rw [scopeToken, if_pos hscoped]
  exact hmem

theorem elements_of_blank {markup : Text} (h : isBlankText markup = true) : elements markup = [] := by
  rw [List.eq_nil_iff_forall_not_mem]
  intro e he
  obtain ⟨before, after, hsplit, -⟩ := Span.slice?_eq_some_iff.mp (slice_classSpan markup e he)
  have hblank := classes_not_blank e he
  rw [hsplit] at h
  simp only [isBlankText, List.all_append, Bool.and_eq_true] at h hblank
  rw [h.1.2] at hblank
  cases hblank

section

variable {markup : Text} {overlays : List Overlay}
  (horder : overlays.Perm [⟨.tablet, markup⟩, ⟨.desktop, markup⟩])

include horder

theorem elements_of_mem_inOrder_self {l : Layered} (hl : l ∈ inOrder overlays) :
    l.elements = elements markup := by
  obtain ⟨o, ho, -, scope, -, rfl⟩ := mem_inOrder_iff.mp hl
  rcases List.mem_pair.mp (horder.mem_iff.mp ho) with rfl | rfl <;> rfl

theorem inOrder_self_ne_nil (hblank : isBlankText markup = false) : inOrder overlays ≠ [] := by
  intro hnil
  have hnone : layered overlays .tablet = [] := List.flatMap_eq_nil_iff.mp hnil .tablet (by decide)
  have hmem : (⟨.tablet, markup⟩ : Overlay) ∈ overlays := horder.mem_iff.mpr List.mem_cons_self
  have hskipped := List.filterMap_eq_nil_iff.mp hnone _ hmem
  rw [if_pos ⟨rfl, hblank⟩] at hskipped
  cases hskipped

theorem mergedFor_self (hkeys : ((elements markup).filterMap (·.key)).Nodup) {e : Element}
    (he : e ∈ elements markup) : mergedFor markup overlays e = dedupe e.tokens := by
  rw [mergedFor, mergedTokens]
  apply dedupe_append
  intro t ht
  obtain ⟨l, hl, hmem⟩ := List.mem_flatMap.mp ht
  rw [addedBy, elements_of_mem_inOrder_self horder hl, counterpart?_self hkeys he] at hmem
  exact mem_of_mem_added hmem

theorem unmatched_self (hkeys : ((elements markup).filterMap (·.key)).Nodup) :
    (plan markup overlays).stats.unmatchedElements = 0 := by
  show ((ranked 0 (elements markup)).filter fun x =>
    (inOrder overlays).all fun o => (counterpart? o.elements x.1 x.2).isNone).length = 0
  rw [List.length_eq_zero_iff, List.filter_eq_nil_iff, ranked_elements]
  intro x hx hunmatched
  obtain ⟨e, he, rfl⟩ := List.mem_map.mp hx
  by_cases hblank : isBlankText markup = true
  · rw [elements_of_blank hblank] at he
    cases he
  · rw [Bool.not_eq_true] at hblank
    obtain ⟨l, hl⟩ := List.exists_mem_of_ne_nil _ (inOrder_self_ne_nil horder hblank)
    have hnone := List.all_eq_true.mp hunmatched l hl
    rw [elements_of_mem_inOrder_self horder hl, counterpart?_self hkeys he] at hnone
    cases hnone

end

/-- A markup in which no key occurs twice, merged with itself as tablet and as desktop in either order: every element
is matched and gets its own tokens without repetitions. Where the class values are written so, nothing changes. -/
theorem self_merge_adds_nothing (markup : Text) (overlays : List Overlay)
    (horder : overlays.Perm [⟨.tablet, markup⟩, ⟨.desktop, markup⟩])
    (hkeys : ((elements markup).filterMap (·.key)).Nodup) :
    (plan markup overlays).stats.unmatchedElements = 0 ∧
    (plan markup overlays).edits = (elements markup).filterMap (fun e =>
      if joinWith [' '] (dedupe e.tokens) = e.classes then none
      else some ⟨e.index, e.key, e.classSpan, dedupe e.tokens⟩) ∧
    Replaced 0 markup ((elements markup).map fun e => ⟨e.classSpan, joinWith [' '] (dedupe e.tokens)⟩)
      (merge markup overlays) ∧
    ((∀ e ∈ elements markup, e.tokens.Nodup ∧ e.classes = joinWith [' '] e.tokens) →
      merge markup overlays = markup) := by
  have hmerged : ∀ e ∈ elements markup, mergedFor markup overlays e = dedupe e.tokens :=
    fun e he => mergedFor_self horder hkeys he
  refine ⟨unmatched_self horder hkeys, ?_, ?_, fun hwritten => ?_⟩
  · rw [edits_plan]
    apply List.filterMap_congr
    intro e he
    rw [hmerged e he]
    rfl
  · have hreplaced := replaced_reclass (f := fun e => some (classValue (mergedFor markup overlays e)))
      (g := fun e => classValue (mergedFor markup overlays e)) (fun _ => rfl) 0 0 (Scanner.pieces markup)
    rw [Scanner.flatMap_source_pieces, ← elements_eq, ← (merge_eq markup overlays).2.2] at hreplaced
    simp only [Option.map_some, List.filterMap_eq_map'] at hreplaced
    have hsplices : ((elements markup).map fun e => (⟨e.classSpan, joinWith [' '] (dedupe e.tokens)⟩ : Splice)) =
        (elements markup).map fun e => ⟨e.classSpan, classValue (mergedFor markup overlays e)⟩ := by
      apply List.map_congr_left
      intro e he
      rw [hmerged e he]
      rfl
    rw [hsplices]
    exact hreplaced
  · apply (merge_eq_self fun e he => ?_).2
    obtain ⟨hnodup, hclasses⟩ := hwritten e he
    rw [hmerged e he, dedupe_eq_self hnodup, classValue, ← hclasses]

/-- Tokens that have a scope, or look as if they had one, stay as they are; only the repetition goes. -/
theorem self_merge_adds_nothing_of_link :
    ([⟨.desktop, link "p lg:q md: p".toList⟩, ⟨.tablet, link "p lg:q md: p".toList⟩] : List Overlay).Perm
      [⟨.tablet, link "p lg:q md: p".toList⟩, ⟨.desktop, link "p lg:q md: p".toList⟩] ∧
    ((elements (link "p lg:q md: p".toList)).filterMap (·.key)).Nodup ∧
    (plan (link "p lg:q md: p".toList)
        [⟨.desktop, link "p lg:q md: p".toList⟩, ⟨.tablet, link "p lg:q md: p".toList⟩]).edits =
      [⟨0, some ['k'], ⟨23, 35⟩, ["p", "lg:q", "md:"].map String.toList⟩] := by
  have horder := List.Perm.swap (⟨.tablet, link "p lg:q md: p".toList⟩ : Overlay)
    ⟨.desktop, link "p lg:q md: p".toList⟩ []
  have helements : elements (link "p lg:q md: p".toList) =
      [⟨0, some ['k'], none, ['a'], "p lg:q md: p".toList, ⟨23, 35⟩⟩] := elements_link _
  have hkeys : ((elements (link "p lg:q md: p".toList)).filterMap (·.key)).Nodup := by
    rw [helements]
    decide
  refine ⟨horder, hkeys, ?_⟩
  rw [(self_merge_adds_nothing _ _ horder hkeys).2.1, helements]
  decide

end ResponsiveMarkup.Merge
