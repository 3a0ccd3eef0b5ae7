import Mathlib.Data.List.Nodup
import ResponsiveMarkup.Proofs.Markup.Regular
import ResponsiveMarkup.Proofs.Render.ReadBack

/-!
The start tags that are read in a drawing. Each is a line break, the frame or the tag of a node that is drawn, so a
drawing is regular, and its class values are the tokens of the frame and of those nodes.
-/

namespace ResponsiveMarkup.Render

open Design Style Text Scanner

/-- The attributes that some start tag of a drawing is written with. -/
inductive DrawnAttributes (a : Artboard) (options : Options) : List (Text × Text) → Prop where
  | lineBreak : DrawnAttributes a options []
  | frame : DrawnAttributes a options (frameAttributes a)
  | node (n : Node) (inside : Bool) : (n.layer, inside) ∈ reached (SlotIndex.ofSlots a.slots) false a.tree →
      DrawnAttributes a options (attributesDrawn (artboardContext a options) inside n)

theorem startTag_of_mem_render {a : Artboard} {options : Options} {t : TagText}
    (h : Piece.startTag t ∈ pieces (render a options)) :
    ∃ attributes, DrawnAttributes a options attributes ∧ t.parts = attributes.map writtenPart := by
  have hwritten : ∀ p ∈ artboardPieces a options, ∀ t, p = .startTag t →
      ∃ attributes, DrawnAttributes a options attributes ∧ t.parts = attributes.map writtenPart := by
    have hopen : ∀ {attributes}, DrawnAttributes a options attributes → ∀ tag selfClosing t,
        openPiece tag attributes selfClosing = .startTag t →
        ∃ attributes, DrawnAttributes a options attributes ∧ t.parts = attributes.map writtenPart := by
      rintro attributes hdrawn tag selfClosing t ht
      cases ht
      exact ⟨attributes, hdrawn, rfl⟩
    have hclose : ∀ tag t, closePiece tag = .startTag t →
        ∃ attributes, DrawnAttributes a options attributes ∧ t.parts = attributes.map writtenPart :=
      fun _ _ ht => nomatch ht
    refine forall_artboardPieces (hopen .frame _ _) hclose ?_
    refine forall_nodePieces a.tree (fun m inside selfClosing hm => hopen (.node m inside hm) _ _)
      (hopen .lineBreak _ _) hclose (fun body t ht => nomatch ht) ?_
    intro r _ content _ _ line _ p hp t ht
    rw [(mem_linePieces hp).2] at ht
    cases ht
  obtain ⟨before, after, hsplit, hread⟩ := pieces_render_cases a options
  refine hwritten _ ?_ t rfl
  rw [hsplit]
  rcases hread with hread | ⟨body, hread⟩
  · rw [hread] at h
    exact List.mem_append_left _ h
  · rw [hread, List.mem_append, List.mem_singleton] at h
    exact List.mem_append_left _ (h.resolve_right fun heq => nomatch heq)

/-! ### Regular tags -/

theorem wellQuoted_render (a : Artboard) (options : Options) : WellQuoted (render a options) := by
  intro t ht part hpart
  obtain ⟨attributes, -, hparts⟩ := startTag_of_mem_render ht
  rw [hparts] at hpart
  obtain ⟨written, -, rfl⟩ := List.mem_map.mp hpart
  exact ⟨_, _, _, _, _, _, rfl⟩

theorem nodup_interactiveAttributes (n : Node) (kind : TagKind) (labelled : Bool) :
    ((interactiveAttributes n kind labelled).map (·.1)).Nodup := by
  have hlabel : ((if labelled then (n.firstText.map fun t => ("aria-label".toList, t)).toList else []).map
      (·.1)).Sublist ["aria-label".toList] := by
    split
    · cases n.firstText <;> simp
    · exact List.nil_sublist _
  cases kind with
  | link =>
    have hurl : ((n.layer.actionUrl.map fun url => ("href".toList, url)).toList.map (·.1)).Sublist ["href".toList] := by
      cases n.layer.actionUrl <;> simp
    rw [interactiveAttributes, List.map_append]
    exact (hurl.append hlabel).nodup (by decide)
  | button =>
    exact (hlabel.cons_cons "type".toList).nodup (by decide)
  | container => exact List.nodup_nil

theorem nodup_pictureAttributes (options : Options) (l : Layer) (src : Text) :
    ((pictureAttributes options l src).map (·.1)).Nodup := by
  have hlazy : ((if options.lazyImages then [("loading".toList, "lazy".toList), ("decoding".toList, "async".toList)]
      else []).map (·.1)).Sublist ["loading".toList, "decoding".toList] := by
    split
    · exact List.Sublist.refl _
    · exact List.nil_sublist _
  have hsize : ((sizeAttributes l.image).map (·.1)).Sublist ["width".toList, "height".toList] := by
    rw [sizeAttributes]
    split
    · split
      · exact List.Sublist.refl _
      · exact List.nil_sublist _
    · exact List.nil_sublist _
  rw [pictureAttributes, List.map_append, List.map_append]
  exact (((List.Sublist.refl ["src".toList, "alt".toList]).append hlazy).append hsize).nodup (by decide)

theorem nodup_othersDrawn (c : Context) (inside : Bool) (n : Node) :
    ((othersDrawn c inside n).map (·.1)).Nodup := by
  rw [othersDrawn]
  split
  · exact List.nodup_singleton _
  · exact nodup_interactiveAttributes _ _ _
  · exact nodup_pictureAttributes _ _ _
  · exact nodup_interactiveAttributes _ _ _

theorem names_elementAttributes (id : String) (key : Option Text) (tokens : List Text) (others : List (Text × Text)) :
    ((elementAttributes id key tokens others).map (·.1)).Sublist
      ([Names.nodeId, Names.key, Names.classes] ++ others.map (·.1)) := by
  have hkey : ((key.map fun k => (Names.key, k)).toList.map (·.1)).Sublist [Names.key] := by
    cases key <;> simp
  have hclasses : ((if (classValue tokens).isEmpty then [] else [(Names.classes, classValue tokens)]).map
      (·.1)).Sublist [Names.classes] := by
    split
    · exact List.nil_sublist _
    · exact List.Sublist.refl _
  simp only [elementAttributes, List.map_append, List.map_cons]
  exact (((hkey.append hclasses).cons_cons Names.nodeId).append (List.Sublist.refl _))

/-- All names are in lower case, and those of an element are none of the others. -/
theorem names_apart : (∀ name ∈ otherNames, asciiLower name = name) ∧
    (∀ name ∈ [Names.nodeId, Names.key, Names.classes], asciiLower name = name ∧ name ∉ otherNames) ∧
    [Names.nodeId, Names.key, Names.classes].Nodup := by decide

theorem distinctNames_element {id : String} {key : Option Text} {tokens : List Text} {others : List (Text × Text)}
    (hothers : ∀ a ∈ others, a.1 ∈ otherNames) (hnodup : (others.map (·.1)).Nodup) :
    DistinctNames ((elementAttributes id key tokens others).map writtenPart) := by
  obtain ⟨hlower, hown, hfirst⟩ := names_apart
  have hmem : ∀ name ∈ others.map (·.1), name ∈ otherNames := by
    intro name hname
    obtain ⟨b, hb, rfl⟩ := List.mem_map.mp hname
    exact hothers b hb
  have hall : ([Names.nodeId, Names.key, Names.classes] ++ others.map (·.1)).Nodup :=
    hfirst.append hnodup fun name hname hother => (hown name hname).2 (hmem name hother)
  have hnames : (readAttributes (elementAttributes id key tokens others)).map (·.1) =
      (elementAttributes id key tokens others).map (·.1) := by
    rw [readAttributes, List.map_map]
    rfl
  have hsub := names_elementAttributes id key tokens others
  have hsame : ∀ name ∈ (elementAttributes id key tokens others).map (·.1), asciiLower name = name := by
    intro name hname
    rcases List.mem_append.mp (hsub.subset hname) with hname | hname
    · exact (hown name hname).1
    · exact hlower name (hmem name hname)
  rw [DistinctNames, filterMap_writtenPart, hnames, List.map_congr_left hsame, List.map_id']
  exact hsub.nodup hall

/-- A drawing is regular, whatever the design. -/
theorem regular_render (a : Artboard) (options : Options) : Regular (render a options) := by
  refine ⟨fun t ht => orderly_of_wellQuoted (wellQuoted_render a options t ht), fun t ht => ?_⟩
  obtain ⟨attributes, hdrawn, hparts⟩ := startTag_of_mem_render ht
  rw [hparts]
  cases hdrawn with
  | lineBreak => exact List.nodup_nil
  | frame => exact distinctNames_element (fun b hb => nomatch hb) List.nodup_nil
  | node n inside hn => exact distinctNames_element (othersDrawn_names _ _ n) (nodup_othersDrawn _ _ n)

/-! ### Class values -/

/-- The words of the class values are the words of the tokens, escaped. -/
theorem classWords_render {P : Text → Prop} {a : Artboard} {options : Options}
    (hframe : ∀ t ∈ frameTokens a.frame, ∀ w ∈ words t, P (escapeQuoted w))
    (hnodes : ∀ r ∈ reached (SlotIndex.ofSlots a.slots) false a.tree,
      ∀ t ∈ tokensDrawn (artboardContext a options) r.1, ∀ w ∈ words t, P (escapeQuoted w)) :
    ClassWords P (render a options) := by
  have helement {id : String} {key : Option Text} {tokens : List Text} {others : List (Text × Text)} {t : Text}
      (ht : t ∈ tokens) (hblank : isBlankText t = false) (h : ∀ t ∈ tokens, ∀ w ∈ words t, P (escapeQuoted w)) :
      ∀ v, classOf? ((elementAttributes id key tokens others).map writtenPart) = some v → ∀ w ∈ words v, P w := by
    intro v hv w hw
    rw [classOf?, filterMap_writtenPart, classes_element (isBlankText_classValue ht hblank)] at hv
    cases hv
    rw [words_escapeAttr, classValue, words_joinWith_flatMap] at hw
    obtain ⟨u, hu, rfl⟩ := List.mem_map.mp hw
    obtain ⟨t, ht, hu⟩ := List.mem_flatMap.mp hu
    exact h t ht u hu
  intro t ht v hv
  obtain ⟨attributes, hdrawn, hparts⟩ := startTag_of_mem_render ht
  rw [hparts] at hv
  cases hdrawn with
  | lineBreak => cases hv
  | frame =>
    have hrelative : "relative".toList ∈ frameTokens a.frame := List.mem_cons_self
    rw [frameAttributes] at hv
    exact helement hrelative (by rfl) hframe v hv
  | node n inside hn =>
    have htokens := hnodes (n.layer, inside) hn
    rw [attributesDrawn] at hv
    exact helement (absolute_mem_tokensDrawn _ n.layer) (by rfl) htokens v hv

end ResponsiveMarkup.Render
