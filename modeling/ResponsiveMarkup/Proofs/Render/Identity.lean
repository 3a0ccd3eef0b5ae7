import Mathlib.Data.List.Nodup
import ResponsiveMarkup.Proofs.Design.Findings
import ResponsiveMarkup.Proofs.Markup.Rewording
import ResponsiveMarkup.Proofs.Render.ReadBack

/-!
Node ids in a drawing. Every element has the id of its node as attribute values are written, which is with one space
for each run of blanks and none at either end. Ids that are distinct in the design are distinct in the drawing as long
as that does not make two of them one, or one of them the id of the frame.
-/

namespace ResponsiveMarkup

open Text

/-! ### Ids in the tags -/

/-- The node ids in the tags of a markup, as they are written. -/
def nodeIds (markup : Text) : List Text := (startTags markup).filterMap fun tag => tag.value? Names.nodeId

def Content.nodeId? : Content → Option Text
  | .startTag _ attributes _ => valueOf? attributes Names.nodeId
  | _ => none

theorem nodeIds_eq (markup : Text) : nodeIds markup = (contents markup).filterMap Content.nodeId? := by
  rw [nodeIds, startTags_eq, List.filterMap_filterMap, contents, List.filterMap_map]
  apply List.filterMap_congr
  rintro ⟨kind, span⟩ -
  cases kind with
  | startTag tag => exact (valueOf?_attributes tag Names.nodeId).symm
  | endTag name r => rfl
  | comment body => rfl
  | text body => rfl

/-- Writing tells texts apart as far as their words differ. -/
theorem escapeAttr_inj {s t : Text} : escapeAttr s = escapeAttr t ↔ collapse s = collapse t := by
  constructor
  · intro h
    rw [← unescapeAttr_escapeQuoted (collapse s), ← unescapeAttr_escapeQuoted (collapse t)]
    exact congrArg unescapeAttr h
  · intro h
    rw [escapeAttr, escapeAttr, h]

namespace Render

open Design

theorem readsTags_nodeId : ReadsTags Content.nodeId? where
  comment _ := rfl
  text _ := rfl
  endTag _ := rfl
  lineBreak := rfl

theorem nodeId?_openPiece (tag : Text) (id : String) (key : Option Text) (tokens : List Text)
    (others : List (Text × Text)) (selfClosing : Bool) :
    (openPiece tag (elementAttributes id key tokens others) selfClosing).content.nodeId? =
      some (escapeAttr id.toList) := by
  rw [content_openPiece]
  rfl

/-- The ids of the nodes that are drawn, in the order of the walk. -/
def idsDrawn (a : Artboard) : List String := (reached (SlotIndex.ofSlots a.slots) false a.tree).map (·.1.id)

/-- The ids of the elements, the box around the tree included. -/
def elementIds (a : Artboard) (options : Options) : List String :=
  (if options.frameWrapper then [frameNodeId] else []) ++ idsDrawn a

theorem nodeIds_artboardPieces (a : Artboard) (options : Options) :
    ((artboardPieces a options).map Piece.content).filterMap Content.nodeId? =
      (elementIds a options).map fun id => escapeAttr id.toList := by
  have hopen : ∀ inside n selfClosing,
      (openPiece (tagDrawn (artboardContext a options) inside n.layer)
        (attributesDrawn (artboardContext a options) inside n) selfClosing).content.nodeId? =
          some (escapeAttr n.layer.id.toList) := fun _ _ _ => nodeId?_openPiece _ _ _ _ _ _
  rw [readsTags_nodeId.artboardPieces (g := fun l _ => some (escapeAttr l.id.toList)) hopen, frameAttributes,
    nodeId?_openPiece, elementIds, idsDrawn, List.map_append, List.map_map, List.filterMap_eq_map']
  congr 1
  split <;> rfl

/-- What is read of the ids is what is written up to the first text that runs on. -/
theorem nodeIds_render_front (a : Artboard) (options : Options) :
    nodeIds (render a options) <+: (elementIds a options).map fun id => escapeAttr id.toList := by
  rw [nodeIds_eq, ← nodeIds_artboardPieces]
  exact readsTags_nodeId.filterMap_contents_render a options

theorem nodeIds_render {a : Artboard} (options : Options)
    (h : ∀ r ∈ reached (SlotIndex.ofSlots a.slots) false a.tree, PlainLines (SlotIndex.ofSlots a.slots) r.1) :
    nodeIds (render a options) = (elementIds a options).map fun id => escapeAttr id.toList := by
  rw [nodeIds_eq, contents_render h, nodeIds_artboardPieces]

/-- No two ids of drawn nodes differ in nothing but blanks. -/
def DistinctInWords (a : Artboard) : Prop :=
  ∀ i ∈ idsDrawn a, ∀ j ∈ idsDrawn a, collapse i.toList = collapse j.toList → i = j

theorem nodup_idsDrawn {a : Artboard} (h : ∀ f ∈ validate a, f.code ≠ "AST001") : (idsDrawn a).Nodup := by
  have hsub := (reached_sublist_walk (SlotIndex.ofSlots a.slots) false a.tree).map (·.id)
  rw [List.map_map, List.map_map] at hsub
  exact hsub.nodup ((unique_ids_iff a).mp h)

theorem nodup_escaped_iff {a : Artboard} (h : ∀ f ∈ validate a, f.code ≠ "AST001") :
    ((idsDrawn a).map fun id => escapeAttr id.toList).Nodup ↔ DistinctInWords a := by
  rw [List.nodup_map_iff_inj_on (nodup_idsDrawn h)]
  simp only [escapeAttr_inj]
  rfl

/-- In a design whose ids come once, with none of them that of the frame where that is drawn, the ids in the tags are
distinct if no two of them differ in nothing but blanks; and only if, unless a text hides some of the tags. -/
theorem node_ids_distinct {a : Artboard} (hunique : ∀ f ∈ validate a, f.code ≠ "AST001") {options : Options}
    (hframe : options.frameWrapper = true → ∀ id ∈ idsDrawn a, collapse id.toList ≠ frameNodeId.toList) :
    (DistinctInWords a → (nodeIds (render a options)).Nodup) ∧
    ((∀ r ∈ reached (SlotIndex.ofSlots a.slots) false a.tree, PlainLines (SlotIndex.ofSlots a.slots) r.1) →
      (nodeIds (render a options)).Nodup → DistinctInWords a) := by
  constructor
  · intro hwords
    have htree := (nodup_escaped_iff hunique).mpr hwords
    refine List.Nodup.sublist (nodeIds_render_front a options).sublist ?_
    rw [elementIds]
    split
    · rename_i hwrapped
      rw [List.singleton_append, List.map_cons, List.nodup_cons]
      refine ⟨fun hmem => ?_, htree⟩
      obtain ⟨id, hid, hsame⟩ := List.mem_map.mp hmem
      exact hframe hwrapped id hid (escapeAttr_inj.mp hsame)
    · exact htree
  · intro hplain hnodup
    rw [nodeIds_render options hplain, elementIds, List.map_append] at hnodup
    exact (nodup_escaped_iff hunique).mp hnodup.of_append_right

/-- Boxes with these ids in a box, and no slots. -/
def boxes (ids : List String) : Artboard := slottedArtboard ids NameMap.empty

theorem unique_boxes {ids : List String} (h : ("root" :: ids).Nodup) : ∀ f ∈ validate (boxes ids), f.code ≠ "AST001" := by
  rw [unique_ids_iff, boxes, walk_slottedArtboard]
  exact h

theorem reached_boxes (ids : List String) :
    reached (SlotIndex.ofSlots (boxes ids).slots) false (boxes ids).tree =
      ("root" :: ids).map fun id => (bareLayer id, false) := by
  have hleaf : ∀ inside id, reached (SlotIndex.ofSlots NameMap.empty) inside (.mk (bareLayer id) []) =
      [(bareLayer id, inside)] := by
    intro inside id
    rw [reached_eq]
    rfl
  have hroot : insideOf false (bareLayer "root") = false := by decide
  have htree : reached (SlotIndex.ofSlots (boxes ids).slots) false (boxes ids).tree =
      (bareLayer "root", false) :: (ids.map fun id => Node.mk (bareLayer id) []).flatMap
        (reached (SlotIndex.ofSlots NameMap.empty) (insideOf false (bareLayer "root"))) := reached_eq _ _ _
  rw [htree, hroot, List.map_cons, List.flatMap_map, List.map_eq_flatMap]
  simp only [hleaf]

theorem idsDrawn_boxes (ids : List String) : idsDrawn (boxes ids) = "root" :: ids := by
  rw [idsDrawn, reached_boxes, List.map_map]
  exact List.map_id _

theorem nodeIds_boxes (ids : List String) (options : Options) : nodeIds (render (boxes ids) options) =
    (elementIds (boxes ids) options).map fun id => escapeAttr id.toList := by
  refine nodeIds_render options fun r hr content hcontent => ?_
  rw [reached_boxes] at hr
  obtain ⟨id, -, rfl⟩ := List.mem_map.mp hr
  cases hcontent

/-- Blanks inside an id count, if not how many. -/
theorem node_ids_distinct_boxes :
    (∀ f ∈ validate (boxes ["a", "a b", "ab"]), f.code ≠ "AST001") ∧
    (∀ id ∈ idsDrawn (boxes ["a", "a b", "ab"]), collapse id.toList ≠ frameNodeId.toList) ∧
    DistinctInWords (boxes ["a", "a b", "ab"]) ∧
    (nodeIds (render (boxes ["a", "a b", "ab"]) Options.standard)).Nodup := by
  have hunique : ∀ f ∈ validate (boxes ["a", "a b", "ab"]), f.code ≠ "AST001" := unique_boxes (by decide)
  have hframe : ∀ id ∈ idsDrawn (boxes ["a", "a b", "ab"]), collapse id.toList ≠ frameNodeId.toList := by
    rw [idsDrawn_boxes]
    decide
  have hwords : DistinctInWords (boxes ["a", "a b", "ab"]) := by
    rw [DistinctInWords, idsDrawn_boxes]
    decide
  exact ⟨hunique, hframe, hwords, (node_ids_distinct hunique fun _ => hframe).1 hwords⟩

/-- Two ids that differ in a blank in front, and an id that is the frame's: each comes once in the design and the two
are the same in the drawing. -/
theorem node_ids_repeated :
    ((∀ f ∈ validate (boxes ["a", " a"]), f.code ≠ "AST001") ∧
      ¬ (nodeIds (render (boxes ["a", " a"]) Options.standard)).Nodup) ∧
    ((∀ f ∈ validate (boxes ["__frame"]), f.code ≠ "AST001") ∧
      ¬ (nodeIds (render (boxes ["__frame"]) Options.standard)).Nodup) := by
  have htwice : ∀ ids, ¬ (("__frame" :: "root" :: ids).map fun id => escapeAttr id.toList).Nodup →
      ¬ (nodeIds (render (boxes ids) Options.standard)).Nodup := by
    intro ids h
    rw [nodeIds_boxes, elementIds, idsDrawn_boxes]
    exact h
  exact ⟨⟨unique_boxes (by decide), htwice _ (by decide)⟩, ⟨unique_boxes (by decide), htwice _ (by decide)⟩⟩

end Render

end ResponsiveMarkup
