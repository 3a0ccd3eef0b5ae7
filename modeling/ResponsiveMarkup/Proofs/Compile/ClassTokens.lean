import ResponsiveMarkup.Proofs.Compile.Sound
import ResponsiveMarkup.Proofs.Contract.CleanTokens

/-!
Class tokens on their way through a compilation. Merging takes them over under scopes, and the contracts leave some
out and put words of replacements in place of others. So what holds of the tokens that are drawn, of a token under a
scope if it holds of the token, and of all words of all replacements, holds of all class tokens that come out.
-/

namespace ResponsiveMarkup

open Text Design

variable {P : Text → Prop}

/-- A token under a scope has what the token has. -/
def KeptByScopes (P : Text → Prop) : Prop :=
  ∀ (v : Viewport) (scope : Text), v.scope? = some scope → ∀ t, P t → P (scopeToken t scope)

/-- A sound and regular markup whose class tokens all have a property. -/
structure Carries (P : Text → Prop) (markup : Text) : Prop where
  sound : Sound markup
  regular : Regular markup
  words : ClassWords P markup

theorem ClassWords.of_mem_elements {markup : Text} (h : ClassWords P markup) {e : Element} (he : e ∈ elements markup) :
    ∀ t ∈ e.tokens, P t := by
  rw [elements_eq] at he
  obtain ⟨before, p, after, place, hsplit, hp⟩ := mem_elementsOf he
  obtain ⟨t, rfl, ht⟩ := Piece.startTag_of_element? hp
  obtain ⟨a, ha, hv, -⟩ := StartTag.class_of_element? ht
  have hmem : Piece.startTag t ∈ Scanner.pieces markup := by
    rw [hsplit]
    exact List.mem_append_right before List.mem_cons_self
  have hvalue : classOf? t.parts = some e.classes := by
    rw [classOf?_eq, StartTag.value?, ha, Option.bind_some, hv]
  exact h t hmem e.classes hvalue

/-! ### Merging -/

theorem ClassWords.merge {base : Text} {overlays : List Overlay} (hscope : KeptByScopes P)
    (hbase : ClassesInDoubleQuotes base) (hothers : ∀ o ∈ overlays, ClassesInDoubleQuotes o.markup)
    (h : ClassWords P base) (hoverlays : ∀ o ∈ overlays, ClassWords P o.markup) :
    ClassWords P (Merge.merge base overlays) := by
  intro t ht v hv
  obtain ⟨u, hu, rfl | ⟨e, he, rfl⟩⟩ := Merge.startTag_of_mem_merge hbase hothers ht
  · exact h _ hu v hv
  · rw [classOf?_setClass] at hv
    obtain ⟨_, -, rfl⟩ := Option.map_eq_some_iff.mp hv
    rw [Merge.words_classValue hbase hothers he]
    intro w hw
    rcases Merge.mem_mergedFor hw with hown | ⟨o, ho, other, hother, t, ht, v, scope, hv, rfl⟩
    · exact h.of_mem_elements he w hown
    · exact hscope v scope hv t ((hoverlays o ho).of_mem_elements hother t ht)

theorem Carries.merge {base : Text} {overlays : List Overlay} (hscope : KeptByScopes P) (h : Carries P base)
    (hoverlays : ∀ o ∈ overlays, Carries P o.markup) : Carries P (Merge.merge base overlays) := by
  have hbase := h.sound.quoted.classesInDoubleQuotes
  have hothers : ∀ o ∈ overlays, ClassesInDoubleQuotes o.markup :=
    fun o ho => (hoverlays o ho).sound.quoted.classesInDoubleQuotes
  have hsound := h.sound.merge fun o ho => (hoverlays o ho).sound
  refine ⟨hsound, ⟨hsound.quoted.orderly, fun t ht => ?_⟩, ?_⟩
  · obtain ⟨u, hu, hreworked⟩ := Merge.reworked_of_mem_merge hbase hothers ht
    exact (h.regular.distinct u hu).reworked hreworked
  · exact h.words.merge hscope hbase hothers fun o ho => (hoverlays o ho).words

theorem carries_nil : Carries P [] := by
  have hnone : ∀ t, Piece.startTag t ∉ Scanner.pieces [] := by
    intro t ht
    rw [Scanner.pieces] at ht
    cases ht
  exact ⟨sound_nil, ⟨fun t ht => absurd ht (hnone t), fun t ht => absurd ht (hnone t)⟩,
    fun t ht => absurd ht (hnone t)⟩

/-! ### Contracts -/

namespace Carries

variable {markup : Text}

theorem spliced (h : Carries P markup) {rule : Text → ClassChange} (hnil : rule [] = .keep) (hrule : QuoteFree rule)
    (hwords : ∀ v, (∀ w ∈ Text.words v, P w) → ∀ v' ∈ (rule v).value? v, ∀ w ∈ Text.words v', P w) :
    Carries P (ResponsiveMarkup.spliced markup ((startTags markup).filterMap (StartTag.classSplice? rule))) :=
  ⟨h.sound.spliced hnil hrule, h.regular.spliced hnil hrule, h.words.spliced h.regular hnil hrule hwords⟩

theorem typography (h : Carries P markup) : Carries P (Typography.check .repair markup).html := by
  rw [Typography.html_repaired]
  refine h.spliced rfl Typography.quoteFree_rule fun v hv v' hv' w hw => ?_
  rw [Typography.words_rule hv'] at hw
  exact hv w (List.mem_filter.mp hw).1

theorem learnedRules (h : Carries P markup) {table : RuleTable}
    (htable : ∀ r ∈ table.rules, ∀ w ∈ Text.words r.replacement, P (escapeQuoted w)) :
    Carries P (LearnedRules.check table .repair markup).html := by
  rw [LearnedRules.html_repaired]
  split
  · exact h
  · refine h.spliced rfl (LearnedRules.quoteFree_rule table) fun v hv v' hv' w hw => ?_
    rcases LearnedRules.mem_words_rule hv' hw with ⟨hkept, -⟩ | ⟨r, hr, u, hu, rfl⟩
    · exact hv w hkept
    · exact htable r hr u hu

theorem apply {rules : RuleTable} (hrules : ∀ r ∈ rules.rules, ∀ w ∈ Text.words r.replacement, P (escapeQuoted w))
    {c : Contract} (hc : c ∈ (Pipeline.standard rules).contracts) (mode : Mode) (slots : NameMap)
    (h : Carries P markup) : Carries P (c.apply mode ⟨markup, slots⟩).html := by
  cases mode with
  | report =>
    rw [(unchanged_standard hc _).1]
    exact h
  | repair =>
    simp only [Pipeline.standard, List.mem_cons, List.not_mem_nil, or_false] at hc
    rcases hc with rfl | rfl | rfl | rfl
    · exact h.typography
    · exact h.learnedRules hrules
    · show Carries P (Nesting.check .repair markup).html
      rw [h.sound.apart.check_eq]
      exact h
    · exact h

end Carries

/-! ### The whole run -/

namespace Compile

variable {o : Options} {rules : RuleTable} {i : Input}

theorem carries_fragments (hscope : KeptByScopes P)
    (hdrawn : ∀ v a, i.get? v = some a → ClassWords P (Render.render a o.render)) :
    Carries P (fragments o.render i).merge.html := by
  refine Fragments.merge_invariant carries_nil (fun _ _ => Carries.merge hscope) fun v m hm => ?_
  obtain ⟨a, ha, rfl⟩ := design_of_get? hm
  exact ⟨Render.sound_render a o.render, Render.regular_render a o.render, hdrawn v a ha⟩

theorem carries_outcome (hscope : KeptByScopes P)
    (hdrawn : ∀ v a, i.get? v = some a → ClassWords P (Render.render a o.render))
    (hrules : ∀ r ∈ rules.rules, ∀ w ∈ words r.replacement, P (escapeQuoted w)) (base : Viewport) :
    Carries P (outcome o rules i base).html :=
  (Pipeline.runAll_invariant
    (fun _ hc _ hgiven => hgiven.apply hrules (mem_contracts hc) o.mode (baseSlots i base))
    (carries_fragments hscope hdrawn)).1

/-- Every class token of a compiled markup has what the drawn tokens and the replacements have. -/
theorem classWords_run (hscope : KeptByScopes P)
    (hdrawn : ∀ v a, i.get? v = some a → ClassWords P (Render.render a o.render))
    (hrules : ∀ r ∈ rules.rules, ∀ w ∈ words r.replacement, P (escapeQuoted w)) :
    ClassWords P (run o rules i).html := by
  cases h : (fragments o.render i).merge.stats.baseViewport with
  | none =>
    rw [run_of_none h]
    exact carries_nil.words
  | some base =>
    rw [run_of_base h]
    exact (carries_outcome hscope hdrawn hrules base).words

end Compile

end ResponsiveMarkup
