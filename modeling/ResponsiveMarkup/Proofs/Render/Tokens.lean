import ResponsiveMarkup.Proofs.Design.Slots
import ResponsiveMarkup.Proofs.Markup.Unescape
import ResponsiveMarkup.Proofs.Render.Walk
import ResponsiveMarkup.Proofs.Style.Atomic

/-!
The tokens that nodes are drawn with, and the class values made of them. A class value is read back as the tokens it
was made of if these are words, and only then.
-/

namespace ResponsiveMarkup.Render

open Design Style Text

theorem text_of_drawing {slots : SlotIndex} {l : Layer} {content : TextContent} (h : drawing slots l = .text content) :
    l.text = some content := by
  rw [drawing] at h
  split at h
  · cases h
  · rename_i htext
    cases h
    exact htext
  · split at h <;> cases h
  · cases h

section

variable {Taken : Text → Prop} {c : Context} {l : Layer}

theorem taken_imageSrc (h : ∀ s ∈ l.styleTexts, Taken s.toList) (htrim : ∀ s, Taken s → Taken (trim s)) {src : Text}
    (hsrc : l.imageSrc = some src) : Taken src := by
  simp only [Layer.styleTexts, List.forall_mem_append, Option.mem_toList] at h
  obtain ⟨-, himage⟩ := h
  obtain ⟨image, himg, hsrc⟩ := Option.bind_eq_some_iff.mp hsrc
  obtain ⟨s, hs, hsrc⟩ := Option.bind_eq_some_iff.mp hsrc
  have htaken : Taken s.toList := himage s (by rw [himg, Option.bind_some, hs])
  simp only [Layer.trimmed?] at hsrc
  split at hsrc
  · cases hsrc
  · cases hsrc
    exact htrim _ htaken

theorem styleToken_backdropTokens (h : ∀ s ∈ l.styleTexts, Taken s.toList) (htrim : ∀ s, Taken s → Taken (trim s)) :
    ∀ t ∈ backdropTokens l, StyleToken Taken t := by
  rw [backdropTokens]
  split
  · cases hsrc : l.imageSrc with
    | none => exact List.forall_mem_nil _
    | some src => exact styleToken_pictureTokens (taken_imageSrc h htrim hsrc)
  · exact List.forall_mem_nil _

/-- Each token that a node is drawn with is one of the grammar or made of the blend mode. -/
theorem styleToken_tokensDrawn (h : ∀ s ∈ l.styleTexts, Taken s.toList) (htrim : ∀ s, Taken s → Taken (trim s)) :
    ∀ t ∈ tokensDrawn c l, StyleToken Taken t ∨ ∃ mode ∈ l.blendMode, blendToken? mode = some t := by
  have hbox := styleToken_boxTokens Taken l c.frame
  have hlayer : ∀ t ∈ layerTokens c l, StyleToken Taken t ∨ ∃ mode ∈ l.blendMode, blendToken? mode = some t :=
    List.forall_mem_append.mpr ⟨fun t ht => Or.inl (hbox t ht), styleToken_decorationTokens h⟩
  rw [tokensDrawn]
  intro t ht
  cases hdrawing : drawing c.slots l with
  | slot name =>
    rw [hdrawing] at ht
    exact Or.inl (hbox t ht)
  | text content =>
    rw [hdrawing] at ht
    rcases List.mem_append.mp ht with ht | ht
    · exact hlayer t ht
    · simp only [Layer.styleTexts, List.forall_mem_append, Option.mem_toList, text_of_drawing hdrawing,
        Option.bind_some] at h
      exact Or.inl (styleToken_textTokens h.1.1.2 h.1.2 t ht)
  | picture src =>
    rw [hdrawing] at ht
    exact hlayer t ht
  | box =>
    rw [hdrawing] at ht
    rcases List.mem_append.mp (mem_dedupe.mp ht) with ht | ht
    · exact hlayer t ht
    · exact Or.inl (styleToken_backdropTokens h htrim t ht)

end

/-- Only what is inside a slot is drawn without its decoration. -/
theorem decorationTokens_subset_tokensDrawn {c : Context} {l : Layer} (h : ∀ name, drawing c.slots l ≠ .slot name) :
    ∀ t ∈ decorationTokens l, t ∈ tokensDrawn c l := by
  intro t ht
  have hlayer : t ∈ layerTokens c l := List.mem_append_right _ ht
  rw [tokensDrawn]
  cases hdrawing : drawing c.slots l with
  | slot name => exact absurd hdrawing (h name)
  | text content => exact List.mem_append_left _ hlayer
  | picture src => exact hlayer
  | box => exact mem_dedupe.mpr (List.mem_append_left _ hlayer)

theorem tokensDrawn_cases {c : Context} {l : Layer} {t : Text} (ht : t ∈ tokensDrawn c l) :
    IsWord t ∨ ∃ mode ∈ l.blendMode, blendToken? mode = some t :=
  (styleToken_tokensDrawn (fun s _ => anyText s.toList) (fun s _ => anyText (trim s)) t ht).imp_left isWord_styleToken

theorem isWord_tokensDrawn_iff {c : Context} {l : Layer} :
    (∀ t ∈ tokensDrawn c l, IsWord t) ↔ (∃ name, drawing c.slots l = .slot name) ∨ OneWordMode l := by
  constructor
  · intro h
    by_cases hslot : ∃ name, drawing c.slots l = .slot name
    · exact Or.inl hslot
    · rw [not_exists] at hslot
      refine Or.inr (isWord_decorationTokens_iff.mp fun t ht => ?_)
      exact h t (decorationTokens_subset_tokensDrawn hslot t ht)
  · rintro (⟨name, hslot⟩ | hmode) t ht
    · rw [tokensDrawn, hslot] at ht
      exact isWord_boxTokens l c.frame t ht
    · rcases tokensDrawn_cases ht with hword | ⟨mode, hmem, hblend⟩
      · exact hword
      · exact (isWord_blendToken?_iff hblend).mpr (hmode mode hmem)

/-! ### Class values read back -/

/-- The classes in a class value are the words of the tokens it was made of. -/
theorem classes_classValue (tokens : List Text) :
    (words (escapeAttr (classValue tokens))).map unescapeAttr = tokens.flatMap words := by
  rw [words_escapeAttr, classValue, words_joinWith_flatMap, List.map_map]
  have hread : unescapeAttr ∘ escapeQuoted = id := funext unescapeAttr_escapeQuoted
  rw [hread, List.map_id]

theorem flatMap_words_eq_iff {tokens : List Text} : tokens.flatMap words = tokens ↔ ∀ t ∈ tokens, IsWord t := by
  constructor
  · intro h t ht
    rw [← h] at ht
    obtain ⟨u, -, ht⟩ := List.mem_flatMap.mp ht
    exact (isWord_of_mem_words ht).1
  · intro h
    have hwords : tokens.flatMap words = tokens.flatMap fun t => [t] :=
      List.flatMap_congr fun t ht => (h t ht).words_eq
    rw [hwords, List.flatMap_singleton']

/-- The tokens of boxes, frames and texts are words. So are those of a decoration, none of which is empty, if the blend
mode is one word, and only then. A class value is read back as the tokens it was made of in the same cases. -/
theorem style_tokens_atomic (c : Context) (l : Layer) (content : TextContent) :
    (∀ t ∈ boxTokens l c.frame ++ frameTokens c.frame ++ textTokens content, IsWord t) ∧
    (∀ t ∈ decorationTokens l, t ≠ [] ∧ (IsWord t ∨ ∃ mode ∈ l.blendMode, blendToken? mode = some t)) ∧
    ((∀ t ∈ decorationTokens l, IsWord t) ↔ OneWordMode l) ∧
    (words (escapeAttr (classValue (frameTokens c.frame)))).map unescapeAttr = frameTokens c.frame ∧
    ((words (escapeAttr (classValue (tokensDrawn c l)))).map unescapeAttr = tokensDrawn c l ↔
      (∃ name, drawing c.slots l = .slot name) ∨ OneWordMode l) := by
  refine ⟨?_, ?_, isWord_decorationTokens_iff, ?_, ?_⟩
  · intro t ht
    rw [List.mem_append, List.mem_append] at ht
    rcases ht with (ht | ht) | ht
    · exact isWord_boxTokens l c.frame t ht
    · exact isWord_frameTokens c.frame t ht
    · exact isWord_textTokens content t ht
  · exact fun t ht => ⟨ne_nil_decorationTokens t ht, decorationTokens_cases ht⟩
  · rw [classes_classValue, flatMap_words_eq_iff]
    exact isWord_frameTokens c.frame
  · rw [classes_classValue, flatMap_words_eq_iff]
    exact isWord_tokensDrawn_iff

/-- A layer with a blend mode of two words. -/
def dodging : Layer := { bareLayer "n" with blendMode := some "color dodge" }

/-- The blank in the mode stays in its token, and the class value is read back with one class more. -/
theorem blend_mode_adds_class :
    let c : Context := ⟨⟨0, 0, 8, 8⟩, SlotIndex.ofSlots NameMap.empty, Options.standard⟩
    let classes := (words (escapeAttr (classValue (tokensDrawn c dodging)))).map unescapeAttr
    "mix-blend-color dodge".toList ∈ decorationTokens dodging ∧ ¬ IsWord "mix-blend-color dodge".toList ∧
    "dodge".toList ∈ classes ∧ classes ≠ tokensDrawn c dodging := by
  intro c classes
  have hblend : blendToken? "color dodge" = some "mix-blend-color dodge".toList := by decide
  have hmem : "mix-blend-color dodge".toList ∈ decorationTokens dodging := by
    rw [decorationTokens, dodging, Option.bind_some, hblend]
    exact List.mem_append_right _ List.mem_cons_self
  have hword : ¬ IsWord "mix-blend-color dodge".toList := by decide
  have hslot : ∀ name, drawing c.slots dodging ≠ .slot name := by
    intro name hdrawing
    cases drawing_eq_slot_iff.mp hdrawing
  have hdrawn := decorationTokens_subset_tokensDrawn hslot _ hmem
  have hclasses : classes = (tokensDrawn c dodging).flatMap words := classes_classValue _
  have hsecond : "dodge".toList ∈ words "mix-blend-color dodge".toList := by decide
  refine ⟨hmem, hword, ?_, ?_⟩
  · rw [hclasses]
    exact List.mem_flatMap.mpr ⟨_, hdrawn, hsecond⟩
  · rw [hclasses]
    exact fun heq => hword (flatMap_words_eq_iff.mp heq _ hdrawn)

end ResponsiveMarkup.Render
