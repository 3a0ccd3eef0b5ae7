import Mathlib.Data.List.Basic
import ResponsiveMarkup.Proofs.Markup.Orderly
import ResponsiveMarkup.Proofs.Merge.ClassUnion
import ResponsiveMarkup.Proofs.Text.Words

/-!
Merging edits bytes but keeps the document. As long as class values are in double quotes, no merged token can
leave its value, so the merged text says what the base says except for the class values of its elements.
-/

namespace ResponsiveMarkup.Merge

open Text

/-- A token that can stand in a class value in double quotes. -/
def IsClassToken (t : Text) : Prop := IsWord t ∧ '"' ∉ t

theorem isClassToken_of_mem_tokens {markup : Text} (h : ClassesInDoubleQuotes markup) {e : Element}
    (he : e ∈ elements markup) {t : Text} (ht : t ∈ e.tokens) : IsClassToken t := by
  obtain ⟨hword, hsub⟩ := isWord_of_mem_words ht
  exact ⟨hword, fun hq => no_quote_of_mem_elements h e he (hsub _ hq)⟩

theorem IsClassToken.scopeToken {t : Text} (h : IsClassToken t) {v : Viewport} {scope : Text}
    (hv : v.scope? = some scope) : IsClassToken (scopeToken t scope) := by
  have hall : scope.all (fun c => !isBlank c && c != '"') = true := by
    cases v with
    | mobile => cases hv
    | tablet => cases hv; decide
    | desktop => cases hv; decide
  have hscope : ∀ c ∈ scope, isBlank c = false ∧ c ≠ '"' := by
    intro c hc
    simpa using List.all_eq_true.mp hall c hc
  rw [ResponsiveMarkup.scopeToken]
  split
  · exact h
  · obtain ⟨⟨hne, hblank⟩, hquote⟩ := h
    refine ⟨⟨by simp [hne], fun c hc => ?_⟩, fun hc => ?_⟩
    · rcases List.mem_append.mp hc with hc | hc
      · exact (hscope c hc).1
      · exact hblank c hc
    · rcases List.mem_append.mp hc with hc | hc
      · exact (hscope _ hc).2 rfl
      · exact hquote hc

/-- An overlay takes part in a merge if its viewport has a scope and its markup is not blank. -/
theorem mem_inOrder_iff {overlays : List Overlay} {l : Layered} : l ∈ inOrder overlays ↔
    ∃ o ∈ overlays, isBlankText o.markup = false ∧
      ∃ scope, o.viewport.scope? = some scope ∧ l = ⟨o.viewport, scope, elements o.markup⟩ := by
  constructor
  · intro h
    obtain ⟨v, -, hl⟩ := List.mem_flatMap.mp h
    obtain ⟨o, ho, hl⟩ := List.mem_filterMap.mp hl
    split at hl
    · rename_i htakes
      obtain ⟨rfl, hfilled⟩ := htakes
      obtain ⟨scope, hscope, rfl⟩ := Option.map_eq_some_iff.mp hl
      exact ⟨o, ho, hfilled, scope, hscope, rfl⟩
    · cases hl
  · rintro ⟨o, ho, hfilled, scope, hscope, rfl⟩
    refine List.mem_flatMap.mpr ⟨o.viewport, ?_, List.mem_filterMap.mpr ⟨o, ho, ?_⟩⟩
    · cases o.viewport <;> decide
    · rw [if_pos ⟨rfl, hfilled⟩, hscope]
      rfl

theorem mem_of_counterpart? {others : List Element} {e other : Element} {rank : Nat}
    (h : counterpart? others e rank = some other) : other ∈ others := by
  rw [counterpart?] at h
  cases hkey : e.key with
  | some key =>
    rw [hkey] at h
    exact List.mem_of_find?_eq_some h
  | none =>
    rw [hkey] at h
    exact (List.mem_filter.mp (List.mem_of_getElem? h)).1

section

variable {base : Text} {overlays : List Overlay} {e : Element}

/-- A merged token is one of the element's own or one of an overlay's under a scope. -/
theorem mem_mergedFor {t : Text} (h : t ∈ mergedFor base overlays e) :
    t ∈ e.tokens ∨ ∃ o ∈ overlays, ∃ other ∈ elements o.markup, ∃ u ∈ other.tokens, ∃ v : Viewport, ∃ scope,
      v.scope? = some scope ∧ t = scopeToken u scope := by
  rw [mergedFor, mergedTokens, mem_dedupe, List.mem_append] at h
  rcases h with h | h
  · exact Or.inl h
  · obtain ⟨l, hl, h⟩ := List.mem_flatMap.mp h
    obtain ⟨o, ho, -, scope, hscope, rfl⟩ := mem_inOrder_iff.mp hl
    rw [addedBy] at h
    cases hother : counterpart? (elements o.markup) e (rankAt (elements base) e.index) with
    | none =>
      rw [hother] at h
      cases h
    | some other =>
      rw [hother] at h
      obtain ⟨u, hu, rfl⟩ := List.mem_map.mp h
      have hmem := mem_of_counterpart? hother
      exact Or.inr ⟨o, ho, other, hmem, u, (List.mem_filter.mp hu).1, o.viewport, scope, hscope, rfl⟩

theorem isClassToken_of_mem_mergedFor (hbase : ClassesInDoubleQuotes base)
    (hoverlays : ∀ o ∈ overlays, ClassesInDoubleQuotes o.markup) (he : e ∈ elements base) :
    ∀ t ∈ mergedFor base overlays e, IsClassToken t := by
  intro t ht
  rcases mem_mergedFor ht with ht | ⟨o, ho, other, hother, u, hu, v, scope, hscope, rfl⟩
  · exact isClassToken_of_mem_tokens hbase he ht
  · exact (isClassToken_of_mem_tokens (hoverlays o ho) hother hu).scopeToken hscope

theorem mergedFor_ne_nil (he : e ∈ elements base) : mergedFor base overlays e ≠ [] := by
  intro hnil
  have hown : e.tokens = [] := by
    rw [List.eq_nil_iff_forall_not_mem]
    intro t ht
    have hmem : t ∈ mergedFor base overlays e := mem_dedupe.mpr (List.mem_append_left _ ht)
    rw [hnil] at hmem
    cases hmem
  have hblank := classes_not_blank e he
  rw [words_eq_nil_iff.mp hown] at hblank
  cases hblank

theorem words_classValue (hbase : ClassesInDoubleQuotes base)
    (hoverlays : ∀ o ∈ overlays, ClassesInDoubleQuotes o.markup) (he : e ∈ elements base) :
    words (classValue (mergedFor base overlays e)) = mergedFor base overlays e :=
  words_joinWith fun t ht => (isClassToken_of_mem_mergedFor hbase hoverlays he t ht).1

theorem classValue_not_blank (hbase : ClassesInDoubleQuotes base)
    (hoverlays : ∀ o ∈ overlays, ClassesInDoubleQuotes o.markup) (he : e ∈ elements base) :
    isBlankText (classValue (mergedFor base overlays e)) = false := by
  rw [← Bool.not_eq_true, ← words_eq_nil_iff, words_classValue hbase hoverlays he]
  exact mergedFor_ne_nil he

theorem no_quote_classValue (hbase : ClassesInDoubleQuotes base)
    (hoverlays : ∀ o ∈ overlays, ClassesInDoubleQuotes o.markup) (he : e ∈ elements base) :
    '"' ∉ classValue (mergedFor base overlays e) := by
  intro hquote
  rcases mem_joinWith hquote with hc | ⟨t, ht, hc⟩
  · simp at hc
  · exact (isClassToken_of_mem_mergedFor hbase hoverlays he t ht).2 hc

theorem pieces_merge (hbase : ClassesInDoubleQuotes base)
    (hoverlays : ∀ o ∈ overlays, ClassesInDoubleQuotes o.markup) : Scanner.pieces (merge base overlays) =
      reclass (fun e => classValue (mergedFor base overlays e)) 0 0 (Scanner.pieces base) := by
  rw [(merge_eq base overlays).2.2, pieces_reclass hbase fun e he => no_quote_classValue hbase hoverlays he]

/-- Each tag of the merged text is one of the base, with merged classes if it makes an element. -/
theorem startTag_of_mem_merge (hbase : ClassesInDoubleQuotes base)
    (hoverlays : ∀ o ∈ overlays, ClassesInDoubleQuotes o.markup) {t : TagText}
    (ht : Piece.startTag t ∈ Scanner.pieces (merge base overlays)) :
    ∃ u, Piece.startTag u ∈ Scanner.pieces base ∧
      (t = u ∨ ∃ e ∈ elements base, t = { u with parts := setClass (classValue (mergedFor base overlays e)) u.parts }) := by
  rw [pieces_merge hbase hoverlays] at ht
  rcases mem_reclass ht with ht | ⟨q, hq, e, he, heq⟩
  · exact ⟨t, ht, Or.inl rfl⟩
  · cases q with
    | startTag u =>
      cases heq
      rw [← elements_eq] at he
      exact ⟨u, hq, Or.inr ⟨e, he, rfl⟩⟩
    | endTag name tail => cases heq
    | comment body closed => cases heq
    | declaration body closed => cases heq
    | text body => cases heq

/-- Merging leaves out no attribute and gives none but classes another value. -/
theorem reworked_of_mem_merge (hbase : ClassesInDoubleQuotes base)
    (hoverlays : ∀ o ∈ overlays, ClassesInDoubleQuotes o.markup) {t : TagText}
    (ht : Piece.startTag t ∈ Scanner.pieces (merge base overlays)) :
    ∃ u, Piece.startTag u ∈ Scanner.pieces base ∧ Reworked u.parts t.parts := by
  obtain ⟨u, hu, rfl | ⟨e, he, rfl⟩⟩ := startTag_of_mem_merge hbase hoverlays ht
  · exact ⟨_, hu, .refl _⟩
  · exact ⟨u, hu, .setClass (no_quote_classValue hbase hoverlays he) u.parts⟩

/-- Merging changes no more of an element than its classes. -/
theorem entries_merge (hbase : ClassesInDoubleQuotes base)
    (hoverlays : ∀ o ∈ overlays, ClassesInDoubleQuotes o.markup) :
    (elements (merge base overlays)).map Element.entry =
      (elements base).map fun e => { e.entry with classes := classValue (mergedFor base overlays e) } := by
  rw [(merge_eq base overlays).2.2]
  exact (contents_reclass hbase (fun e he => no_quote_classValue hbase hoverlays he)
    fun e he => classValue_not_blank hbase hoverlays he).2

end

/-- A merged text says what the base says, but for the class values of its elements. These are the same elements
with the merged tokens. -/
theorem merge_keeps_structure (base : Text) (overlays : List Overlay) (hbase : ClassesInDoubleQuotes base)
    (hoverlays : ∀ o ∈ overlays, ClassesInDoubleQuotes o.markup) :
    contents (merge base overlays) =
        reclassed (contents base) ((elements base).map fun e => classValue (mergedFor base overlays e)) ∧
      (elements (merge base overlays)).map (fun e => (e.index, e.key, e.nodeId, e.tag, e.tokens)) =
        (elements base).map fun e => (e.index, e.key, e.nodeId, e.tag, mergedFor base overlays e) := by
  obtain ⟨-, -, hmerge⟩ := merge_eq base overlays
  obtain ⟨hcontents, hentries⟩ := contents_reclass hbase
    (fun e he => no_quote_classValue hbase hoverlays he)
    (fun e he => classValue_not_blank hbase hoverlays he)
  rw [← hmerge] at hcontents hentries
  refine ⟨hcontents, ?_⟩
  have hlength : (elements (merge base overlays)).length = (elements base).length := by
    simpa using congrArg List.length hentries
  apply List.ext_getElem
  · simp [hlength]
  · intro i hi hi'
    rw [List.length_map] at hi hi'
    have hindex : (elements (merge base overlays))[i].index = (elements base)[i].index := by
      rw [index_getElem_elements, index_getElem_elements]
    have hentry : (elements (merge base overlays))[i].entry =
        { (elements base)[i].entry with classes := classValue (mergedFor base overlays (elements base)[i]) } := by
      have := List.getElem_of_eq hentries (by simpa using hi)
      rwa [List.getElem_map, List.getElem_map] at this
    simp only [Element.entry, Entry.mk.injEq] at hentry
    obtain ⟨hkey, hnode, htag, hclasses⟩ := hentry
    have htokens : (elements (merge base overlays))[i].tokens = mergedFor base overlays (elements base)[i] := by
      rw [Element.tokens, hclasses, words_classValue hbase hoverlays (List.getElem_mem hi')]
    simp only [List.getElem_map, hindex, hkey, hnode, htag, htokens]

theorem classesInDoubleQuotes_link (classes : Text) : ClassesInDoubleQuotes (link classes) := by
  rw [ClassesInDoubleQuotes, pieces_link]
  simp [Render.openPiece, Render.writtenPart, TagPart.ClassInDoubleQuotes, AttributeValue.text?]

/-- A link keeps its tag and its key. -/
theorem merge_keeps_structure_of_link :
    ClassesInDoubleQuotes (link ['p']) ∧
    (∀ o ∈ [(⟨.desktop, link "p q".toList⟩ : Overlay)], ClassesInDoubleQuotes o.markup) ∧
    contents (merge (link ['p']) [⟨.desktop, link "p q".toList⟩]) =
      [.startTag ['a'] [(Names.key, some ['k']), (Names.classes, some "p lg:q".toList)] true] := by
  have hoverlays : ∀ o ∈ [(⟨.desktop, link "p q".toList⟩ : Overlay)], ClassesInDoubleQuotes o.markup := by
    simpa using classesInDoubleQuotes_link "p q".toList
  refine ⟨classesInDoubleQuotes_link ['p'], hoverlays, ?_⟩
  rw [(merge_keeps_structure (link ['p']) _ (classesInDoubleQuotes_link ['p']) hoverlays).1]
  have horder : inOrder [⟨.desktop, link "p q".toList⟩] =
      [⟨.desktop, "lg:".toList, elements (link "p q".toList)⟩] := rfl
  have hnarrow : elements (link ['p']) = [⟨0, some ['k'], none, ['a'], ['p'], ⟨23, 24⟩⟩] := elements_link _
  rw [contents_eq, pieces_link, hnarrow, List.map_singleton, List.map_singleton, mergedFor, horder, hnarrow,
    elements_link]
  rfl

end ResponsiveMarkup.Merge
