import Mathlib.Data.List.Basic
import ResponsiveMarkup.Proofs.Contract.MalformedShape
import ResponsiveMarkup.Proofs.Merge.Cascade
import ResponsiveMarkup.Proofs.Merge.Remerge

/-!
Malformed tokens on their way through a merge. A token comes in under the scope of its viewport and is as malformed
there as it was. Where class values are in double quotes the font contract finds every one of them on the element that
took it over. Without quotes the merged tokens leave the value, and what has no counterpart is not taken over at all.
-/

namespace ResponsiveMarkup.Merge

open Text Typography

/-- A token that has a scope is not given another. -/
theorem scopeToken_scopeToken {scope token : Text} (hscope : scope ∈ knownScopes) (htoken : token ≠ [])
    (other : Text) : scopeToken (scopeToken token scope) other = scopeToken token scope := by
  have hscoped : isScoped (scopeToken token scope) = true := by
    by_cases h : isScoped token = true
    · rw [scopeToken, if_pos h]
      exact h
    · rw [scopeToken, if_neg h]
      exact isScoped_append hscope htoken
  rw [scopeToken, if_pos hscoped]

theorem scope_known {v : Viewport} {scope : Text} (h : v.scope? = some scope) : scope ∈ knownScopes := by
  cases v with
  | mobile => cases h
  | tablet => cases h; decide
  | desktop => cases h; decide

/-! ### What comes in -/

/-- A token that the counterpart of an element has, in an overlay with a scope, and the element itself has not. -/
def Incoming (base : Text) (overlays : List Overlay) (e : Element) (scope token : Text) : Prop :=
  ∃ o ∈ overlays, o.viewport.scope? = some scope ∧
    ∃ other, partner? (elements base) (elements o.markup) e = some other ∧ token ∈ other.tokens ∧ token ∉ e.tokens

theorem mem_added_iff {own : List Text} {scope token : Text} {other : Element} : token ∈ added own scope other ↔
    ∃ t ∈ other.tokens, (isScoped t = true ∨ t ∉ own) ∧ token = scopeToken t scope := by
  simp only [added, List.mem_map, List.mem_filter, Bool.or_eq_true, Bool.not_eq_true', List.contains_eq_mem,
    decide_eq_false_iff_not, and_assoc]
  apply exists_congr
  intro t
  rw [eq_comm (a := scopeToken t scope)]

section

variable {base : Text} {overlays : List Overlay} {e : Element}

theorem Incoming.mem_mergedFor {scope token : Text} (h : Incoming base overlays e scope token) :
    scopeToken token scope ∈ mergedFor base overlays e := by
  obtain ⟨o, ho, hscope, other, hother, ht, hnew⟩ := h
  rw [← counterpart?_eq_partner?] at hother
  have hfilled : isBlankText o.markup = false := by
    by_contra hblank
    rw [Bool.not_eq_false] at hblank
    have hmem := mem_of_counterpart? hother
    rw [elements_of_blank hblank] at hmem
    cases hmem
  have hadded : scopeToken token scope ∈
      addedBy ⟨o.viewport, scope, elements o.markup⟩ e (rankAt (elements base) e.index) := by
    rw [addedBy, hother]
    exact mem_added_iff.mpr ⟨token, ht, Or.inr hnew, rfl⟩
  rw [mergedFor, mergedTokens, mem_dedupe, List.mem_append]
  exact Or.inr (List.mem_flatMap.mpr ⟨_, mem_inOrder_iff.mpr ⟨o, ho, hfilled, scope, hscope, rfl⟩, hadded⟩)

/-- After merging an element has its own tokens and those that came in, and no others. -/
theorem mem_mergedFor_iff {token : Text} : token ∈ mergedFor base overlays e ↔
    token ∈ e.tokens ∨ ∃ scope t, Incoming base overlays e scope t ∧ token = scopeToken t scope := by
  constructor
  · intro h
    by_cases hown : token ∈ e.tokens
    · exact Or.inl hown
    · rw [mergedFor, mergedTokens, mem_dedupe, List.mem_append] at h
      obtain ⟨l, hl, hadded⟩ := List.mem_flatMap.mp (h.resolve_left hown)
      obtain ⟨o, ho, -, scope, hscope, rfl⟩ := mem_inOrder_iff.mp hl
      rw [addedBy, counterpart?_eq_partner?] at hadded
      cases hother : partner? (elements base) (elements o.markup) e with
      | none =>
        rw [hother] at hadded
        cases hadded
      | some other =>
        rw [hother] at hadded
        obtain ⟨t, ht, hnew, rfl⟩ := mem_added_iff.mp hadded
        have htnew : t ∉ e.tokens := by
          intro hin
          have hscoped := hnew.resolve_right fun hout => hout hin
          rw [scopeToken, if_pos hscoped] at hown
          exact hown hin
        exact Or.inr ⟨scope, t, ⟨o, ho, hscope, other, hother, ht, htnew⟩, rfl⟩
  · rintro (hown | ⟨scope, t, hin, rfl⟩)
    · rw [mergedFor, mergedTokens, mem_dedupe]
      exact List.mem_append_left _ hown
    · exact hin.mem_mergedFor

end

/-! ### What the font contract finds -/

theorem exists_startTag_of_mem_elementsFrom {index : Nat} {tags : List StartTag} {e : Element}
    (h : e ∈ elementsFrom index tags) : ∃ tag ∈ tags, ∃ place, tag.element? place = some e := by
  induction tags generalizing index with
  | nil => cases h
  | cons tag tags ih =>
    have hlater {place : Nat} (hin : e ∈ elementsFrom place tags) :
        ∃ u ∈ tag :: tags, ∃ place, u.element? place = some e := by
      obtain ⟨u, hu, helement⟩ := ih hin
      exact ⟨u, List.mem_cons_of_mem tag hu, helement⟩
    rw [elementsFrom] at h
    split at h
    · rename_i first hfirst
      rcases List.mem_cons.mp h with rfl | h
      · exact ⟨tag, List.mem_cons_self, index, hfirst⟩
      · exact hlater h
    · exact hlater h

/-- The font contract looks at the class value of every element. -/
theorem exists_offence_of_mem_elements {markup : Text} {e : Element} (he : e ∈ elements markup) :
    ∃ o ∈ (startTags markup).filterMap classAttribute?, o.valueSpan = e.classSpan ∧
      o.malformed = e.tokens.filter isMalformedFont := by
  obtain ⟨tag, htag, place, helement⟩ := exists_startTag_of_mem_elementsFrom he
  obtain ⟨a, ha, hvalue, hspan, -⟩ := StartTag.class_of_element? helement
  have hoffence : classAttribute? tag =
      some ⟨tag, a.outerSpan, e.classSpan, e.tokens.filter isMalformedFont,
        e.tokens.filter fun t => !isMalformedFont t⟩ := by
    simp only [classAttribute?, ha, hvalue, hspan, List.partition_eq_filter_filter, Option.bind_eq_bind,
      Option.bind_some]
    rfl
  exact ⟨_, List.mem_filterMap.mpr ⟨tag, htag, hoffence⟩, rfl, rfl⟩

theorem warning_mem_check {html : Text} {o : Offence} (ho : o ∈ (startTags html).filterMap classAttribute?)
    (hmalformed : o.malformed ≠ []) (mode : Mode) : o.warning ∈ (Typography.check mode html).warnings := by
  have hwarned : o.warning ∈ (((startTags html).filterMap classAttribute?).filter
      fun o => !o.malformed.isEmpty).map Offence.warning := by
    apply List.mem_map_of_mem
    exact List.mem_filter.mpr ⟨ho, by simpa using hmalformed⟩
  cases mode with
  | report => exact hwarned
  | repair =>
    rw [Typography.check, Contract.Result.updateHtml]
    split
    · exact hwarned
    · exact hwarned

/-- What the font contract finds on an element of the base after a merge: the malformed tokens it had and those that
came in. -/
structure Found (base : Text) (overlays : List Overlay) (e : Element) (o : Offence) : Prop where
  place : ∃ merged ∈ elements (merge base overlays), merged.index = e.index ∧ merged.classSpan = o.valueSpan
  malformed : ∀ token, token ∈ o.malformed ↔ isMalformedFont token = true ∧
    (token ∈ e.tokens ∨ ∃ scope t, Incoming base overlays e scope t ∧ token = scopeToken t scope)
  carried : ∀ scope t, Incoming base overlays e scope t →
    (scopeToken t scope ∈ o.malformed ↔ isMalformedFont t = true)
  warned : o.malformed ≠ [] → ∀ mode, o.warning ∈ (Typography.check mode (merge base overlays)).warnings

theorem Incoming.isMalformedFont_eq {base : Text} {overlays : List Overlay} {e : Element} {scope token : Text}
    (h : Incoming base overlays e scope token) : isMalformedFont (scopeToken token scope) = isMalformedFont token := by
  obtain ⟨o, -, hscope, -⟩ := h
  exact isMalformedFont_scopeToken (scope_known hscope) token

theorem found_after_merge {base : Text} {overlays : List Overlay} (hbase : ClassesInDoubleQuotes base)
    (hoverlays : ∀ o ∈ overlays, ClassesInDoubleQuotes o.markup) {e : Element} (he : e ∈ elements base) :
    ∃ o ∈ (startTags (merge base overlays)).filterMap classAttribute?, Found base overlays e o := by
  obtain ⟨merged, hmerged, hindex, htokens⟩ := exists_merged_of_mem_elements hbase hoverlays he
  obtain ⟨o, ho, hspan, hfound⟩ := exists_offence_of_mem_elements hmerged
  rw [htokens] at hfound
  have hmalformed (token : Text) : token ∈ o.malformed ↔ isMalformedFont token = true ∧
      (token ∈ e.tokens ∨ ∃ scope t, Incoming base overlays e scope t ∧ token = scopeToken t scope) := by
    rw [hfound, List.mem_filter, mem_mergedFor_iff, and_comm]
  refine ⟨o, ho, ⟨merged, hmerged, hindex, hspan.symm⟩, hmalformed, ?_, warning_mem_check ho⟩
  intro scope t hin
  rw [hmalformed, hin.isMalformedFont_eq]
  constructor
  · exact And.left
  · intro h
    exact ⟨h, Or.inr ⟨scope, t, hin, rfl⟩⟩

/-- A token is malformed just when it has the shape. No scope changes that, and no second scope comes in front of the
first. So what a merge brings in comes to the font contract as it was, malformed or not, on the element that took it. -/
theorem scoping_keeps_malformed_tokens :
    (∀ token, isMalformedFont token = true ↔ MalformedShape token) ∧
    (∀ scope ∈ knownScopes, ∀ token, isMalformedFont (scopeToken token scope) = isMalformedFont token ∧
      (token ≠ [] → ∀ other ∈ knownScopes, scopeToken (scopeToken token scope) other = scopeToken token scope)) ∧
    ∀ (base : Text) (overlays : List Overlay), ClassesInDoubleQuotes base →
      (∀ o ∈ overlays, ClassesInDoubleQuotes o.markup) → ∀ e ∈ elements base,
        ∃ o ∈ (startTags (merge base overlays)).filterMap classAttribute?, Found base overlays e o := by
  refine ⟨fun token => isMalformedFont_iff, ?_, ?_⟩
  · intro scope hscope token
    exact ⟨isMalformedFont_scopeToken hscope token, fun htoken other _ => scopeToken_scopeToken hscope htoken other⟩
  · intro base overlays hbase hoverlays e he
    exact found_after_merge hbase hoverlays he

/-- A token that the link has not and one that has a scope already, both malformed, come to the link from a tablet. -/
theorem scoping_keeps_malformed_tokens_of_link :
    let overlays : List Overlay := [⟨.tablet, link "p font-[1 lg:text-[".toList⟩]
    ClassesInDoubleQuotes (link ['p']) ∧ (∀ o ∈ overlays, ClassesInDoubleQuotes o.markup) ∧
    scopeToken (scopeToken "font-[1".toList "md:".toList) "lg:".toList = "md:font-[1".toList ∧
    ∃ o ∈ (startTags (merge (link ['p']) overlays)).filterMap classAttribute?,
      "md:font-[1".toList ∈ o.malformed ∧ "lg:text-[".toList ∈ o.malformed ∧
        o.warning ∈ (Typography.check .repair (merge (link ['p']) overlays)).warnings := by
  intro overlays
  have hoverlays : ∀ o ∈ overlays, ClassesInDoubleQuotes o.markup := by
    simpa [overlays] using classesInDoubleQuotes_link "p font-[1 lg:text-[".toList
  have helements : elements (link ['p']) = [⟨0, some ['k'], none, ['a'], ['p'], ⟨23, 24⟩⟩] := elements_link _
  have hothers : elements (link "p font-[1 lg:text-[".toList) =
      [⟨0, some ['k'], none, ['a'], "p font-[1 lg:text-[".toList, ⟨23, 42⟩⟩] := elements_link _
  have hin (t : Text) (ht : t ∈ words "p font-[1 lg:text-[".toList) (hnew : t ∉ words ['p']) :
      Incoming (link ['p']) overlays ⟨0, some ['k'], none, ['a'], ['p'], ⟨23, 24⟩⟩ "md:".toList t := by
    refine ⟨_, List.mem_singleton_self _, rfl,
      ⟨0, some ['k'], none, ['a'], "p font-[1 lg:text-[".toList, ⟨23, 42⟩⟩, ?_, ht, hnew⟩
    rw [helements, hothers]
    rfl
  obtain ⟨-, hscopes, hmerged⟩ := scoping_keeps_malformed_tokens
  obtain ⟨o, ho, hfound⟩ := hmerged (link ['p']) overlays (classesInDoubleQuotes_link ['p']) hoverlays _
    (by rw [helements]; exact List.mem_singleton_self _)
  have hfont : "md:font-[1".toList ∈ o.malformed :=
    (hfound.carried _ _ (hin "font-[1".toList (by decide) (by decide))).mpr (by decide +kernel)
  have htext : "lg:text-[".toList ∈ o.malformed :=
    (hfound.carried _ _ (hin "lg:text-[".toList (by decide) (by decide))).mpr (by decide +kernel)
  refine ⟨classesInDoubleQuotes_link ['p'], hoverlays, ?_, o, ho, hfont, htext, ?_⟩
  · exact (hscopes "md:".toList (by decide) "font-[1".toList).2 (by decide) "lg:".toList (by decide)
  · exact hfound.warned (List.ne_nil_of_mem hfont) .repair

/-! ### What is lost -/

/-- The malformed tokens that the font contract finds in a markup. -/
def foundTokens (html : Text) : List Text :=
  ((startTags html).filterMap classAttribute?).flatMap (·.malformed)

/-- A paragraph of which no value is in quotes. -/
def bareParagraph : Text := "<p data-key=k class=p></p>".toList

/-- A paragraph of a key, with a malformed token. -/
def cutOffParagraph (key : Text) : Text :=
  "<p data-key=\"".toList ++ key ++ "\" class=\"font-[1\"></p>".toList

theorem elements_cutOffParagraph : ∀ key ∈ [['j'], ['k']],
    elements (cutOffParagraph key) = [⟨0, some key, none, ['p'], "font-[1".toList, ⟨23, 30⟩⟩] := by
  decide +kernel

theorem classesInDoubleQuotes_cutOffParagraph : ClassesInDoubleQuotes (cutOffParagraph ['j']) := by
  have hpieces : Scanner.pieces (cutOffParagraph ['j']) =
      [.startTag ⟨['p'], [.named [' '] Names.key (some ⟨[], [], .quoted '"' ['j'] true⟩),
        classPart "font-[1".toList], [], .close⟩, .endTag ['p'] ['>']] := by
    decide +kernel
  rw [ClassesInDoubleQuotes, hpieces]
  simp [classPart, TagPart.ClassInDoubleQuotes, AttributeValue.text?]

/-- Without quotes around it the class value ends before the merged tokens. And whether in quotes or not, what has no
counterpart in the base is not merged. -/
theorem malformed_tokens_lost :
    (¬ ∀ (base : Text) (overlays : List Overlay), ∀ e ∈ elements base, ∀ scope t,
      Incoming base overlays e scope t → isMalformedFont t = true →
        scopeToken t scope ∈ foundTokens (merge base overlays)) ∧
    ¬ ∀ (base : Text) (overlays : List Overlay), ClassesInDoubleQuotes base →
      (∀ o ∈ overlays, ClassesInDoubleQuotes o.markup) → ∀ o ∈ overlays, ∀ scope,
        o.viewport.scope? = some scope → ∀ other ∈ elements o.markup, ∀ t ∈ other.tokens,
          (∀ e ∈ elements base, t ∉ e.tokens) → isMalformedFont t = true →
            scopeToken t scope ∈ foundTokens (merge base overlays) := by
  have hfont : isMalformedFont "font-[1".toList = true := by decide +kernel
  constructor
  · intro h
    have helements : elements bareParagraph = [⟨0, some ['k'], none, ['p'], ['p'], ⟨20, 21⟩⟩] := by decide +kernel
    have hin : Incoming bareParagraph [⟨.tablet, cutOffParagraph ['k']⟩] ⟨0, some ['k'], none, ['p'], ['p'], ⟨20, 21⟩⟩
        "md:".toList "font-[1".toList := by
      refine ⟨_, List.mem_singleton_self _, rfl, ⟨0, some ['k'], none, ['p'], "font-[1".toList, ⟨23, 30⟩⟩, ?_,
        by decide, by decide⟩
      rw [helements, elements_cutOffParagraph ['k'] (by decide)]
      rfl
    have hmem : (⟨0, some ['k'], none, ['p'], ['p'], ⟨20, 21⟩⟩ : Element) ∈ elements bareParagraph := by
      rw [helements]
      exact List.mem_singleton_self _
    have hlost : scopeToken "font-[1".toList "md:".toList ∉
        foundTokens (merge bareParagraph [⟨.tablet, cutOffParagraph ['k']⟩]) := by
      decide +kernel
    exact hlost (h _ _ _ hmem _ _ hin hfont)
  · intro h
    have hbase : elements (link ['p']) = [⟨0, some ['k'], none, ['a'], ['p'], ⟨23, 24⟩⟩] := elements_link _
    have hmem : (⟨0, some ['j'], none, ['p'], "font-[1".toList, ⟨23, 30⟩⟩ : Element) ∈
        elements (cutOffParagraph ['j']) := by
      rw [elements_cutOffParagraph ['j'] (by decide)]
      exact List.mem_singleton_self _
    have hquoted : ∀ o ∈ [(⟨.tablet, cutOffParagraph ['j']⟩ : Overlay)], ClassesInDoubleQuotes o.markup := by
      simpa using classesInDoubleQuotes_cutOffParagraph
    have hnew : ∀ e ∈ elements (link ['p']), "font-[1".toList ∉ e.tokens := by
      rw [hbase]
      decide
    have hlost : scopeToken "font-[1".toList "md:".toList ∉
        foundTokens (merge (link ['p']) [⟨.tablet, cutOffParagraph ['j']⟩]) := by
      decide +kernel
    exact hlost (h _ _ (classesInDoubleQuotes_link ['p']) hquoted _ (List.mem_singleton_self _) _ rfl _ hmem _
      (by decide) hnew hfont)

end ResponsiveMarkup.Merge
