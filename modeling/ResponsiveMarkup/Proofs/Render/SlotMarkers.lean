import ResponsiveMarkup.Finalize
import ResponsiveMarkup.Proofs.Design.Slots
import ResponsiveMarkup.Proofs.Render.ReadBack

/-!
Slots found again. The last look finds the names of the slots that are drawn in front of the first text that runs on,
as their markers have them: no blank at either end and no two dashes in a row. A key of the slot map that is not like
that is looked for in vain.
-/

namespace ResponsiveMarkup

open Text

/-! ### The name in a marker -/

theorem trimmed_slotMarker {name : Text} (h : Trimmed name) : Trimmed (slotMarker name) := by
  have hprefix : Trimmed ('s' :: "lot".toList ++ [':']) := trimmed_ends (by decide) (by decide) _
  have hmarker : slotMarker name = 's' :: "lot".toList ++ [':'] ++ name := rfl
  rw [hmarker]
  by_cases hname : name = []
  · rw [hname, List.append_nil]
    exact hprefix
  · have happend := hprefix.append [] h (by simp) hname
    rwa [List.append_nil] at happend

/-- The name that is read in a marker is the one that was written, up to dashes. -/
theorem markedSlot?_slotMarker {name : Text} (h : Trimmed name) :
    markedSlot? (collapseDashes (slotMarker name)) = some (collapseDashes name) := by
  have hname := trimmed_collapseDashes h
  have hmarker : collapseDashes (slotMarker name) = slotMarker (collapseDashes name) :=
    collapseDashes_append (by decide) name
  have hstrip : stripStart? "slot:".toList (slotMarker (collapseDashes name)) = some (collapseDashes name) :=
    stripStart?_eq_some.mpr rfl
  rw [markedSlot?, hmarker, (trimmed_slotMarker hname).trim_eq, hstrip, Option.map_some, hname.trim_eq]

/-- A comment that begins with another letter marks no slot. -/
theorem markedSlot?_eq_none {c : Char} (hblank : isBlank c = false) (hc : c ≠ 's') (s : Text) :
    markedSlot? (c :: s) = none := by
  rw [markedSlot?, Option.map_eq_none_iff, Option.eq_none_iff_forall_ne_some]
  intro rest hrest
  obtain ⟨behind, hbehind⟩ := trim_prefix (c :: s)
  have hstart : trimStart (c :: s) = c :: s := List.dropWhile_cons_of_neg (by simp [hblank])
  rw [hstart, stripStart?_eq_some.mp hrest] at hbehind
  cases hbehind
  exact hc rfl

def Content.marked? : Content → Option Text
  | .comment body => markedSlot? body
  | _ => none

theorem Finalize.slotMarkers_eq (html : Text) : slotMarkers html = (contents html).filterMap Content.marked? := by
  have hcontent : markerOf? = Content.marked? ∘ Token.content := by
    funext t
    obtain ⟨kind, span⟩ := t
    cases kind <;> rfl
  rw [slotMarkers, contents, List.filterMap_map, hcontent]

theorem Finalize.mem_warnings {html name : Text} {slots : NameMap} :
    missingSlotWarning name ∈ (finalize html slots).warnings ↔
      name ∈ slots.keys.map String.toList ∧ name ∉ slotMarkers html := by
  have hinjective : Function.Injective missingSlotWarning := by
    intro s t h
    exact List.append_cancel_left (List.append_cancel_right h)
  rw [finalize, List.mem_map_of_injective hinjective, List.mem_filter]
  simp

/-! ### What is seen of a drawing -/

/-- What matters of a piece: the name in a marker, or that the piece hides those behind it. -/
inductive Sight where
  | marker (name : Text)
  | overrun
  deriving DecidableEq, Repr

def Piece.sight? (p : Piece) : Option Sight := if p.runsOn then some .overrun else p.content.marked?.map .marker

/-- The names up to the first piece that hides the others. -/
def seen : List Sight → List Text
  | [] => []
  | .marker name :: sights => name :: seen sights
  | .overrun :: _ => []

theorem marked_overrun (ps : List Piece) :
    ((overrun ps).map Piece.content).filterMap Content.marked? = seen (ps.filterMap Piece.sight?) := by
  induction ps with
  | nil => rfl
  | cons p ps ih =>
    rw [overrun, filterMap_cons_toList, Piece.sight?]
    split
    · rfl
    · rw [List.map_cons, filterMap_cons_toList, ih]
      cases p.content.marked? <;> rfl

namespace Render

open Design

theorem sight?_openPiece (tag : Text) (attributes : List (Text × Text)) (selfClosing : Bool) :
    (openPiece tag attributes selfClosing).sight? = none := rfl

theorem sight?_closePiece (tag : Text) : (closePiece tag).sight? = none := rfl

def lineSights (line : Text) : List Sight := if lineRunsOn line then [.overrun] else []

theorem sights_linePieces (line : Text) : (linePieces line).filterMap Piece.sight? = lineSights line := by
  cases line with
  | nil => rfl
  | cons ch s =>
    have hline : linePieces (ch :: s) = [.text (escapeText (ch :: s))] := rfl
    have hruns : (Piece.text (escapeText (ch :: s))).runsOn = lineRunsOn (ch :: s) :=
      runsOn_linePieces (List.mem_singleton_self _)
    rw [hline, filterMap_cons_toList, Piece.sight?, hruns, lineSights]
    split <;> rfl

theorem sights_linesPieces (ls : List Text) : (linesPieces ls).filterMap Piece.sight? = ls.flatMap lineSights := by
  induction ls with
  | nil => rfl
  | cons l ls ih =>
    cases ls with
    | nil => rw [linesPieces, sights_linePieces, List.flatMap_singleton]
    | cons k ls =>
      rw [linesPieces, List.filterMap_append, sights_linePieces, filterMap_cons_toList, breakPiece,
        sight?_openPiece, ih]
      rfl

/-- The layer is a text with a line that begins beyond ASCII. -/
def textRunsOn (slots : SlotIndex) (l : Layer) : Bool :=
  match drawing slots l with
  | .text content =>
    !isBlankText content.characters.toList && (lines content.characters.toList).any lineRunsOn
  | _ => false

theorem textRunsOn_eq_false_iff {slots : SlotIndex} {l : Layer} :
    textRunsOn slots l = false ↔ PlainLines slots l := by
  rw [textRunsOn, PlainLines]
  cases drawing slots l with
  | text content => simp [lineRunsOn_eq_false_iff]
  | slot name => simp
  | picture src => simp
  | box => simp

def layerSights (slots : SlotIndex) (l : Layer) : List Sight :=
  match drawing slots l with
  | .slot name => [.marker (collapseDashes name)]
  | .text content =>
    if isBlankText content.characters.toList then []
    else (lines content.characters.toList).flatMap lineSights
  | _ => []

section

variable {c : Context} {inside : Bool}

theorem sights_textPieces (l : Layer) (content : TextContent) :
    (textPieces l content).filterMap Piece.sight? =
      if isBlankText content.characters.toList then [] else (lines content.characters.toList).flatMap lineSights := by
  have hcomment : (commentPiece ("text:".toList ++ l.id.toList)).sight? = none := by
    have hbody : collapseDashes ("text:".toList ++ l.id.toList) = "text:".toList ++ collapseDashes l.id.toList :=
      collapseDashes_append (by decide) _
    have hmarked : markedSlot? ("text:".toList ++ collapseDashes l.id.toList) = none :=
      markedSlot?_eq_none (by decide) (by decide) _
    rw [commentPiece, hbody, Piece.sight?, Piece.content, Content.marked?, hmarked]
    rfl
  rw [textPieces]
  split
  · rw [filterMap_cons_toList, hcomment]
    rfl
  · exact sights_linesPieces _

theorem sights_elementPieces (n : Node) (body : Option (List Piece)) :
    (elementPieces c inside n body).filterMap Piece.sight? = (body.getD []).filterMap Piece.sight? := by
  cases body with
  | none => rfl
  | some ps =>
    rw [elementPieces, filterMap_cons_toList, sight?_openPiece, List.filterMap_append, filterMap_cons_toList,
      sight?_closePiece]
    exact List.append_nil _

/-- What is seen of a tree is what is seen of its layers one after another. -/
theorem sights_nodePieces (hnames : ∀ id name, c.slots.resolve? id = some name → Trimmed name) (n : Node) :
    (nodePieces c inside n).filterMap Piece.sight? =
      (reached c.slots inside n).flatMap fun r => layerSights c.slots r.1 := by
  -- Closing tags stand behind what is inside, and nothing is seen of them; so the order is that of the walk.
  induction n using Node.induction generalizing inside with
  | h l cs ih =>
    have hbody : ((bodyPieces? c inside (.mk l cs)).getD []).filterMap Piece.sight? =
        layerSights c.slots (Node.mk l cs).layer ++
          (reachedInside c.slots inside (.mk l cs)).flatMap fun r => layerSights c.slots r.1 := by
      rw [bodyPieces?, reachedInside, layerSights]
      cases hdrawing : drawing c.slots (Node.mk l cs).layer with
      | slot name =>
        have hname : Trimmed name := hnames _ _ (drawing_eq_slot_iff.mp hdrawing)
        rw [Option.getD_some, filterMap_cons_toList, commentPiece, Piece.sight?, Piece.content, Content.marked?,
          markedSlot?_slotMarker hname]
        rfl
      | text content =>
        rw [Option.getD_some, sights_textPieces, List.flatMap_nil, List.append_nil]
      | picture src => rfl
      | box =>
        rw [Option.getD_some, List.filterMap_flatMap, List.nil_append, List.flatMap_assoc]
        exact List.flatMap_congr fun n hn => ih n hn
    rw [nodePieces_eq, reached_eq]
    split
    · rw [sights_elementPieces, hbody, List.flatMap_cons]
    · rfl

end

theorem sights_artboardPieces (a : Artboard) (options : Options) :
    (artboardPieces a options).filterMap Piece.sight? =
      (reached (SlotIndex.ofSlots a.slots) false a.tree).flatMap fun r =>
        layerSights (SlotIndex.ofSlots a.slots) r.1 := by
  have htree : (nodePieces (artboardContext a options) false a.tree).filterMap Piece.sight? =
      (reached (SlotIndex.ofSlots a.slots) false a.tree).flatMap fun r =>
        layerSights (SlotIndex.ofSlots a.slots) r.1 :=
    sights_nodePieces (fun _ _ h => SlotIndex.trimmed_of_resolve? h) a.tree
  rw [artboardPieces]
  split
  · rw [filterMap_cons_toList, sight?_openPiece, List.filterMap_append, htree, filterMap_cons_toList,
      sight?_closePiece]
    exact List.append_nil _
  · exact htree

/-! ### What is found -/

/-- The name in the marker of a layer that a slot is drawn for. -/
def nameDrawn? (slots : SlotIndex) (l : Layer) : Option Text := (slots.resolve? l.id).map collapseDashes

theorem nameDrawn?_eq_none {slots : SlotIndex} {l : Layer} (h : ∀ name, drawing slots l ≠ .slot name) :
    nameDrawn? slots l = none := by
  rw [nameDrawn?, Option.map_eq_none_iff]
  cases hresolve : slots.resolve? l.id with
  | none => rfl
  | some name => exact absurd (drawing_eq_slot_iff.mpr hresolve) (h name)

theorem lineSights_cases (ls : List Text) :
    (ls.any lineRunsOn = true ∧ ∃ rest, ls.flatMap lineSights = .overrun :: rest) ∨
      (ls.any lineRunsOn = false ∧ ls.flatMap lineSights = []) := by
  induction ls with
  | nil => exact Or.inr ⟨rfl, rfl⟩
  | cons l ls ih =>
    rw [List.any_cons, List.flatMap_cons, lineSights]
    cases lineRunsOn l with
    | true => exact Or.inl ⟨rfl, _, rfl⟩
    | false => exact ih

/-- A text that runs on hides what is behind it; of any other layer the name of its slot is seen, if it has one. -/
theorem layerSights_cases (slots : SlotIndex) (l : Layer) :
    (textRunsOn slots l = true ∧ ∃ rest, layerSights slots l = .overrun :: rest) ∨
      (textRunsOn slots l = false ∧ layerSights slots l = (nameDrawn? slots l).toList.map .marker) := by
  rw [textRunsOn, layerSights]
  cases hdrawing : drawing slots l with
  | slot name =>
    rw [nameDrawn?, drawing_eq_slot_iff.mp hdrawing]
    exact Or.inr ⟨rfl, rfl⟩
  | text content =>
    rw [nameDrawn?_eq_none (by simp [hdrawing])]
    dsimp only
    cases isBlankText content.characters.toList with
    | true => exact Or.inr ⟨rfl, rfl⟩
    | false => exact lineSights_cases _
  | picture src =>
    rw [nameDrawn?_eq_none (by simp [hdrawing])]
    exact Or.inr ⟨rfl, rfl⟩
  | box =>
    rw [nameDrawn?_eq_none (by simp [hdrawing])]
    exact Or.inr ⟨rfl, rfl⟩

theorem seen_layerSights (slots : SlotIndex) (rs : List (Layer × Bool)) :
    seen (rs.flatMap fun r => layerSights slots r.1) =
      (rs.takeWhile fun r => !textRunsOn slots r.1).filterMap fun r => nameDrawn? slots r.1 := by
  induction rs with
  | nil => rfl
  | cons r rs ih =>
    rw [List.flatMap_cons, List.takeWhile_cons]
    rcases layerSights_cases slots r.1 with ⟨hruns, rest, hsights⟩ | ⟨hplain, hsights⟩
    · rw [hruns, hsights]
      rfl
    · rw [hplain, hsights]
      simp only [Bool.not_false, if_true]
      rw [filterMap_cons_toList, ← ih]
      cases nameDrawn? slots r.1 <;> rfl

/-- The markers of a drawing are those of the slots in front of the first text that runs on. -/
theorem slotMarkers_render (a : Artboard) (options : Options) :
    Finalize.slotMarkers (render a options) =
      ((reached (SlotIndex.ofSlots a.slots) false a.tree).takeWhile fun r =>
        !textRunsOn (SlotIndex.ofSlots a.slots) r.1).filterMap fun r =>
          nameDrawn? (SlotIndex.ofSlots a.slots) r.1 := by
  rw [Finalize.slotMarkers_eq, contents_eq, pieces_render_overrun, marked_overrun, sights_artboardPieces,
    seen_layerSights]

/-- Where no text runs on the markers are those of all slots that are drawn, in the order of the walk. -/
theorem slotMarkers_render_plain (a : Artboard) (options : Options)
    (h : ∀ r ∈ reached (SlotIndex.ofSlots a.slots) false a.tree, PlainLines (SlotIndex.ofSlots a.slots) r.1) :
    Finalize.slotMarkers (render a options) =
      (reached (SlotIndex.ofSlots a.slots) false a.tree).filterMap fun r =>
        nameDrawn? (SlotIndex.ofSlots a.slots) r.1 := by
  rw [slotMarkers_render, List.takeWhile_eq_self_iff.mpr]
  intro r hr
  rw [textRunsOn_eq_false_iff.mpr (h r hr)]
  rfl

/-- No marker has a name with blanks around it or with two dashes in a row. -/
theorem name_of_mem_slotMarkers {a : Artboard} {options : Options} {name : Text}
    (h : name ∈ Finalize.slotMarkers (render a options)) : trim name = name ∧ hasInside "--".toList name = false := by
  rw [slotMarkers_render, List.mem_filterMap] at h
  obtain ⟨r, -, hname⟩ := h
  obtain ⟨written, hresolve, rfl⟩ := Option.map_eq_some_iff.mp hname
  have htrimmed : Trimmed written := SlotIndex.trimmed_of_resolve? hresolve
  exact ⟨(trimmed_collapseDashes htrimmed).trim_eq, hasInside_dashes_collapseDashes written⟩

/-- A slot whose wrapper is drawn, with no text that runs on in front of it, has its marker; but it is found under its
key, and nothing is missed, just when the key has no blanks around it and no two dashes in a row. -/
theorem slot_found_again (a : Artboard) (options : Options) {e : String × String} (he : e ∈ a.slots.entries)
    {r : Layer × Bool}
    (hr : r ∈ (reached (SlotIndex.ofSlots a.slots) false a.tree).takeWhile fun r =>
      !textRunsOn (SlotIndex.ofSlots a.slots) r.1)
    (hslot : (SlotIndex.ofSlots a.slots).resolve? r.1.id = some (trim e.1.toList)) :
    (Finalize.finalize (render a options) a.slots).slotMarkers =
      ((reached (SlotIndex.ofSlots a.slots) false a.tree).takeWhile fun r =>
        !textRunsOn (SlotIndex.ofSlots a.slots) r.1).filterMap
          (fun r => nameDrawn? (SlotIndex.ofSlots a.slots) r.1) ∧
    collapseDashes (trim e.1.toList) ∈ (Finalize.finalize (render a options) a.slots).slotMarkers ∧
    (e.1.toList ∈ (Finalize.finalize (render a options) a.slots).slotMarkers ↔
      trim e.1.toList = e.1.toList ∧ hasInside "--".toList e.1.toList = false) ∧
    (Finalize.missingSlotWarning e.1.toList ∈ (Finalize.finalize (render a options) a.slots).warnings ↔
      ¬ (trim e.1.toList = e.1.toList ∧ hasInside "--".toList e.1.toList = false)) := by
  have hmarkers : (Finalize.finalize (render a options) a.slots).slotMarkers =
      Finalize.slotMarkers (render a options) := rfl
  have hkey : e.1.toList ∈ a.slots.keys.map String.toList := by
    rw [NameMap.keys, List.map_map]
    exact List.mem_map_of_mem he
  have hmarker : collapseDashes (trim e.1.toList) ∈ Finalize.slotMarkers (render a options) := by
    rw [slotMarkers_render, List.mem_filterMap]
    refine ⟨r, hr, ?_⟩
    rw [nameDrawn?, hslot, Option.map_some]
  have hfound : e.1.toList ∈ Finalize.slotMarkers (render a options) ↔
      trim e.1.toList = e.1.toList ∧ hasInside "--".toList e.1.toList = false := by
    constructor
    · exact name_of_mem_slotMarkers
    · rintro ⟨htrim, hdashes⟩
      rwa [htrim, collapseDashes_eq_self_iff.mpr hdashes] at hmarker
  refine ⟨slotMarkers_render a options, hmarker, hfound, ?_⟩
  rw [Finalize.mem_warnings, hfound]
  exact and_iff_right hkey

def twoSlots : Artboard := slottedArtboard ["g", "h"] ⟨[("a--b", "g"), ("heading", "h")], by decide⟩

theorem reached_twoSlots : reached (SlotIndex.ofSlots twoSlots.slots) false twoSlots.tree =
    [(bareLayer "root", false), (bareLayer "g", false), (bareLayer "h", false)] := rfl

theorem slot_found_again_twoSlots :
    "heading".toList ∈ (Finalize.finalize (render twoSlots Options.standard) twoSlots.slots).slotMarkers ∧
    Finalize.missingSlotWarning "heading".toList ∉
      (Finalize.finalize (render twoSlots Options.standard) twoSlots.slots).warnings ∧
    "a-b".toList ∈ (Finalize.finalize (render twoSlots Options.standard) twoSlots.slots).slotMarkers ∧
    Finalize.missingSlotWarning "a--b".toList ∈
      (Finalize.finalize (render twoSlots Options.standard) twoSlots.slots).warnings := by
  have hplain : (reached (SlotIndex.ofSlots twoSlots.slots) false twoSlots.tree).takeWhile
      (fun r => !textRunsOn (SlotIndex.ofSlots twoSlots.slots) r.1) =
        [(bareLayer "root", false), (bareLayer "g", false), (bareLayer "h", false)] := by
    rw [reached_twoSlots]
    rfl
  have hheading := slot_found_again twoSlots Options.standard (e := ("heading", "h")) (r := (bareLayer "h", false))
    (by simp [twoSlots, slottedArtboard]) (by rw [hplain]; simp) (by decide)
  have hdashes := slot_found_again twoSlots Options.standard (e := ("a--b", "g")) (r := (bareLayer "g", false))
    (by simp [twoSlots, slottedArtboard]) (by rw [hplain]; simp) (by decide)
  refine ⟨hheading.2.2.1.mpr (by decide), ?_, hdashes.2.1, hdashes.2.2.2.mpr (by decide)⟩
  rw [hheading.2.2.2]
  decide

def spacedSlot : Artboard := slottedArtboard ["h"] ⟨[(" heading", "h")], by decide⟩

/-- A slot with a blank in front of its name is drawn, and yet it is not found and said to be missing. -/
theorem spaced_slot_not_found :
    (" heading", "h") ∈ spacedSlot.slots.entries ∧
    (bareLayer "h", false) ∈ reached (SlotIndex.ofSlots spacedSlot.slots) false spacedSlot.tree ∧
    (SlotIndex.ofSlots spacedSlot.slots).resolve? (bareLayer "h").id = some (trim " heading".toList) ∧
    " heading".toList ∉ (Finalize.finalize (render spacedSlot Options.standard) spacedSlot.slots).slotMarkers ∧
    Finalize.missingSlotWarning " heading".toList ∈
      (Finalize.finalize (render spacedSlot Options.standard) spacedSlot.slots).warnings := by
  have hmissing : " heading".toList ∉ Finalize.slotMarkers (render spacedSlot Options.standard) := by
    intro h
    exact absurd (name_of_mem_slotMarkers h).1 (by decide)
  refine ⟨List.mem_singleton_self _, List.mem_cons_of_mem _ List.mem_cons_self, by decide, hmissing, ?_⟩
  rw [Finalize.mem_warnings]
  exact ⟨List.mem_singleton_self _, hmissing⟩

end Render

end ResponsiveMarkup
