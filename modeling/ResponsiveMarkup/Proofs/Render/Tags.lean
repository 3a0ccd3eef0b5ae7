import Mathlib.Data.List.Basic
import ResponsiveMarkup.Proofs.Render.Walk
import ResponsiveMarkup.Proofs.Render.Written

/-!
The tags of drawn nodes and what the index reads in them. No tag is that of an element without a body but for a
picture's, and no attribute but the first three says where an element comes from.
-/

namespace ResponsiveMarkup.Render

open Design Style Text

/-! ### The names in the tags -/

/-- The tags that nodes with a body are drawn with. -/
def bodyTags : List Text := ['a'] :: "button".toList :: semanticTags

theorem tagName_mem_bodyTags (kind : TagKind) : kind.tagName ∈ bodyTags := by
  cases kind <;> decide

theorem tagFor_mem_bodyTags (options : Options) (l : Layer) (kind : TagKind) : tagFor options l kind ∈ bodyTags := by
  rw [tagFor]
  split
  · exact tagName_mem_bodyTags kind
  · cases h : (options.semanticTags.get? l.id).bind semanticTag? with
    | none => exact tagName_mem_bodyTags kind
    | some tag =>
      obtain ⟨name, -, htag⟩ := Option.bind_eq_some_iff.mp h
      rw [semanticTag?] at htag
      have hmem := List.mem_of_find?_eq_some htag
      exact List.mem_cons_of_mem _ (List.mem_cons_of_mem _ hmem)

theorem bodyTags_wellFormed : ∀ tag ∈ bodyTags, IsTagName tag ∧ asciiLower tag = tag ∧ isVoidTag tag = false := by
  decide

theorem tagDrawn_cases (c : Context) (inside : Bool) (l : Layer) :
    tagDrawn c inside l ∈ bodyTags ∨ tagDrawn c inside l = "img".toList := by
  rw [tagDrawn]
  split
  · exact Or.inl (by decide)
  · exact Or.inr rfl
  · exact Or.inl (tagFor_mem_bodyTags _ _ _)

/-- The attributes that follow the classes. None of them says where the element comes from. -/
def otherNames : List Text :=
  ["data-slot", "href", "aria-label", "type", "src", "alt", "loading", "decoding", "width", "height"].map
    String.toList

theorem otherNames_wellFormed : ∀ name ∈ otherNames, IsAttributeName name ∧
    sameName name Names.nodeId = false ∧ sameName name Names.key = false ∧ sameName name Names.classes = false := by
  decide

theorem interactiveAttributes_names (n : Node) (kind : TagKind) (labelled : Bool) :
    ∀ a ∈ interactiveAttributes n kind labelled, a.1 ∈ otherNames := by
  intro a ha
  have hlabel : ∀ b ∈ (if labelled then (n.firstText.map fun t => ("aria-label".toList, t)).toList else []),
      b.1 ∈ otherNames := by
    intro b hb
    split at hb
    · obtain ⟨t, -, rfl⟩ := Option.map_eq_some_iff.mp (Option.mem_toList.mp hb)
      simp [otherNames]
    · cases hb
  cases kind with
  | link =>
    rcases List.mem_append.mp ha with ha | ha
    · obtain ⟨t, -, rfl⟩ := Option.map_eq_some_iff.mp (Option.mem_toList.mp ha)
      simp [otherNames]
    · exact hlabel a ha
  | button =>
    rcases List.mem_cons.mp ha with rfl | ha
    · simp [otherNames]
    · exact hlabel a ha
  | container => cases ha

theorem sizeAttributes_names (image : Option ImageAsset) : ∀ a ∈ sizeAttributes image, a.1 ∈ otherNames := by
  intro a ha
  rw [sizeAttributes] at ha
  split at ha
  · split at ha
    · rcases List.mem_pair.mp ha with rfl | rfl <;> simp [otherNames]
    · cases ha
  · cases ha

theorem pictureAttributes_names (options : Options) (l : Layer) (src : Text) :
    ∀ a ∈ pictureAttributes options l src, a.1 ∈ otherNames := by
  intro a ha
  rw [pictureAttributes, List.mem_append, List.mem_append] at ha
  rcases ha with (ha | ha) | ha
  · rcases List.mem_pair.mp ha with rfl | rfl <;> simp [otherNames]
  · split at ha
    · rcases List.mem_pair.mp ha with rfl | rfl <;> simp [otherNames]
    · cases ha
  · exact sizeAttributes_names l.image a ha

theorem othersDrawn_names (c : Context) (inside : Bool) (n : Node) :
    ∀ a ∈ othersDrawn c inside n, a.1 ∈ otherNames := by
  intro a ha
  rw [othersDrawn] at ha
  split at ha
  · rw [List.mem_singleton] at ha
    have hslot : Names.slot ∈ otherNames := by decide
    rw [ha]
    exact hslot
  · exact interactiveAttributes_names _ _ _ a ha
  · exact pictureAttributes_names _ _ _ a ha
  · exact interactiveAttributes_names _ _ _ a ha

/-! ### What the index reads in a tag -/

/-- Attributes as they are read back. -/
def readAttributes (attributes : List (Text × Text)) : List (Text × Option Text) :=
  attributes.map fun a => (a.1, some (escapeAttr a.2))

theorem filterMap_writtenPart (attributes : List (Text × Text)) :
    (attributes.map writtenPart).filterMap TagPart.content? = readAttributes attributes := by
  rw [List.filterMap_map, readAttributes, ← List.filterMap_eq_map]
  rfl

theorem content_openPiece (tag : Text) (attributes : List (Text × Text)) (selfClosing : Bool) :
    (openPiece tag attributes selfClosing).content =
      .startTag tag (readAttributes attributes) selfClosing := by
  rw [openPiece, Piece.content, filterMap_writtenPart]
  cases selfClosing <;> rfl

theorem filled?_escapeAttr (s : Text) :
    filled? (escapeAttr s) = if isBlankText s then none else some (escapeAttr s) := by
  rw [filled?, (trimmed_escapeAttr s).trim_eq, ← (trimmed_escapeAttr s).isBlankText_eq, isBlankText_escapeAttr]

theorem valueOf?_cons_of_ne {n name : Text} (h : sameName n name = false) (v : Option Text)
    (attributes : List (Text × Option Text)) : valueOf? ((n, v) :: attributes) name = valueOf? attributes name := by
  simp [valueOf?, h]

theorem valueOf?_eq_none {attributes : List (Text × Option Text)} {name : Text}
    (h : ∀ a ∈ attributes, sameName a.1 name = false) : valueOf? attributes name = none := by
  have hfind : attributes.find? (fun a => sameName a.1 name) = none := by
    rw [List.find?_eq_none]
    intro a ha
    simp [h a ha]
  rw [valueOf?, hfind, Option.bind_none]

theorem valueOf?_others {others : List (Text × Text)} (hothers : ∀ a ∈ others, a.1 ∈ otherNames) {name : Text}
    (hname : ∀ n ∈ otherNames, sameName n name = false) : valueOf? (readAttributes others) name = none := by
  apply valueOf?_eq_none
  intro a ha
  obtain ⟨b, hb, rfl⟩ := List.mem_map.mp ha
  exact hname b.1 (hothers b hb)

section

variable {id : String} {key : Option Text} {tokens : List Text} {others : List (Text × Text)}

theorem readAttributes_element (htokens : isBlankText (classValue tokens) = false) :
    readAttributes (elementAttributes id key tokens others) =
      (Names.nodeId, some (escapeAttr id.toList)) ::
        ((key.map fun k => (Names.key, some (escapeAttr k))).toList ++
          (Names.classes, some (escapeAttr (classValue tokens))) :: readAttributes others) := by
  have hclass : (classValue tokens).isEmpty = false := by
    cases hvalue : classValue tokens with
    | nil => rw [hvalue] at htokens; cases htokens
    | cons c s => rfl
  rw [elementAttributes, hclass]
  cases key <;> simp [readAttributes]

theorem classes_element (htokens : isBlankText (classValue tokens) = false) :
    valueOf? (readAttributes (elementAttributes id key tokens others)) Names.classes =
      some (escapeAttr (classValue tokens)) := by
  rw [readAttributes_element htokens, valueOf?_cons_of_ne (by decide)]
  cases key <;> rfl

/-- A tag with the attributes of an element makes that element. -/
theorem indexed?_openPiece (tag : Text) (selfClosing : Bool) (htokens : isBlankText (classValue tokens) = false)
    (hothers : ∀ a ∈ others, a.1 ∈ otherNames) :
    (openPiece tag (elementAttributes id key tokens others) selfClosing).content.indexed? =
      entryOf? tag (key.bind fun k => filled? (escapeAttr k)) (filled? (escapeAttr id.toList))
        (some (escapeAttr (classValue tokens))) := by
  have hnone : valueOf? (readAttributes others) Names.key = none :=
    valueOf?_others hothers fun n hn => (otherNames_wellFormed n hn).2.2.1
  have hnodeId : valueOf? (readAttributes (elementAttributes id key tokens others)) Names.nodeId =
      some (escapeAttr id.toList) := by
    rw [readAttributes_element htokens]
    rfl
  have hkey : valueOf? (readAttributes (elementAttributes id key tokens others)) Names.key =
      key.map escapeAttr := by
    rw [readAttributes_element htokens, valueOf?_cons_of_ne (by decide)]
    cases key with
    | none =>
      rw [Option.map_none, Option.toList_none, List.nil_append, valueOf?_cons_of_ne (by decide)]
      exact hnone
    | some k => rfl
  rw [content_openPiece, Content.indexed?]
  rw [hnodeId, classes_element htokens, hkey, Option.bind_map, Option.bind_some]
  rfl

end

theorem isBlankText_trimmed? {s : String} {t : Text} (h : Layer.trimmed? s = some t) : isBlankText t = false := by
  simp only [Layer.trimmed?] at h
  split at h
  · cases h
  · rename_i hne
    cases h
    rw [(trimmed_trim _).isBlankText_eq]
    simpa using hne

theorem isBlankText_keyDrawn {c : Context} {l : Layer} {k : Text} (h : keyDrawn c l = some k) :
    isBlankText k = false := by
  rw [keyDrawn] at h
  split at h
  · cases h
    rfl
  · obtain ⟨⟨before, rest⟩, -, h⟩ := Option.bind_eq_some_iff.mp h
    obtain ⟨⟨name, after⟩, -, h⟩ := Option.bind_eq_some_iff.mp h
    exact isBlankText_trimmed? h

/-- A node is always placed. -/
theorem absolute_mem_tokensDrawn (c : Context) (l : Layer) : "absolute".toList ∈ tokensDrawn c l := by
  have hbox : "absolute".toList ∈ boxTokens l c.frame := List.mem_cons_self
  have hlayer : "absolute".toList ∈ layerTokens c l := List.mem_append_left _ hbox
  rw [tokensDrawn]
  split
  · exact hbox
  · exact List.mem_append_left _ hlayer
  · exact hlayer
  · exact mem_dedupe.mpr (List.mem_append_left _ hlayer)

theorem isBlankText_classValue {tokens : List Text} {t : Text} (ht : t ∈ tokens) (h : isBlankText t = false) :
    isBlankText (classValue tokens) = false := by
  rw [← Bool.not_eq_true, isBlankText, List.all_eq_true] at h ⊢
  intro hall
  exact h fun c hc => hall c (mem_joinWith_of_mem ht hc)

theorem indexed?_drawn (c : Context) (inside : Bool) (n : Node) (selfClosing : Bool) :
    (openPiece (tagDrawn c inside n.layer) (attributesDrawn c inside n) selfClosing).content.indexed? =
      entryDrawn? c n.layer inside := by
  have htokens := isBlankText_classValue (absolute_mem_tokensDrawn c n.layer) (by rfl)
  have hkey : ((keyDrawn c n.layer).bind fun k => filled? (escapeAttr k)) = (keyDrawn c n.layer).map escapeAttr := by
    cases hk : keyDrawn c n.layer with
    | none => rfl
    | some k => simp [filled?_escapeAttr, isBlankText_keyDrawn hk]
  have htag : asciiLower (tagDrawn c inside n.layer) = tagDrawn c inside n.layer := by
    rcases tagDrawn_cases c inside n.layer with htag | htag
    · exact (bodyTags_wellFormed _ htag).2.1
    · rw [htag]
      rfl
  rw [attributesDrawn, indexed?_openPiece _ _ htokens (othersDrawn_names c inside n), hkey, filled?_escapeAttr,
    entryOf?, htag, Option.bind_some, isBlankText_escapeAttr, htokens]
  rfl

end ResponsiveMarkup.Render
