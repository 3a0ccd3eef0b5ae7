import ResponsiveMarkup.Proofs.Design.Slots
import ResponsiveMarkup.Proofs.Markup.Escape
import ResponsiveMarkup.Proofs.Render.Walk

/-!
What is inside a slot and what of it is drawn. A slot's own element says nothing of the node that the slot is bound
to but its place; a link or button around it is labelled with its first text, and that text may stand in the slot.
-/

namespace ResponsiveMarkup.Render

open Design Style Text

/-- A layer of which only the id, the place and whether it is shown are left. -/
def emptied (l : Layer) : Layer :=
  { id := l.id, name := "", kind := .unknown, visible := l.visible, x := l.x, y := l.y, w := l.w, h := l.h
    fills := [], radius := none, stroke := none, shadows := [], opacity := 1, blendMode := none
    text := none, image := none, actions := none }

mutual

/-- A tree with nothing inside the nodes that slots are bound to. -/
def cleared (slots : SlotIndex) : Node → Node
  | .mk l cs => if (slots.resolve? l.id).isSome then .mk (emptied l) [] else .mk l (clearedAll slots cs)

def clearedAll (slots : SlotIndex) : List Node → List Node
  | [] => []
  | n :: ns => cleared slots n :: clearedAll slots ns

end

mutual

/-- The labels of the links and buttons that are drawn as boxes, in the order of the walk, as they are written. -/
def labelsDrawn (slots : SlotIndex) (inside : Bool) : Node → List (Option Text)
  | .mk l cs =>
    if l.visible then
      match drawing slots l with
      | .box =>
        (if (pickTag l inside).isInteractive then [(Node.mk l cs).firstText.map escapeAttr] else []) ++
          labelsDrawnAll slots (insideOf inside l) cs
      | _ => []
    else []

def labelsDrawnAll (slots : SlotIndex) (inside : Bool) : List Node → List (Option Text)
  | [] => []
  | n :: ns => labelsDrawn slots inside n ++ labelsDrawnAll slots inside ns

end

theorem labelsDrawnAll_eq (slots : SlotIndex) (inside : Bool) (ns : List Node) :
    labelsDrawnAll slots inside ns = ns.flatMap (labelsDrawn slots inside) :=
  eq_flatMap (by rw [labelsDrawnAll]) (fun n ns => by rw [labelsDrawnAll]) ns

/-- Nodes that agree outside of slots are bound to the same slot, or are the same but for their children. -/
theorem cleared_cases {slots : SlotIndex} {l k : Layer} {cs ds : List Node}
    (h : cleared slots (.mk l cs) = cleared slots (.mk k ds)) :
    ((slots.resolve? l.id).isSome ∧ emptied l = emptied k) ∨
      (slots.resolve? l.id = none ∧ l = k ∧ clearedAll slots cs = clearedAll slots ds) := by
  have hid : l.id = k.id := by
    have hlayer : (cleared slots (.mk l cs)).layer.id = (cleared slots (.mk k ds)).layer.id := by rw [h]
    rw [cleared, cleared] at hlayer
    split at hlayer <;> split at hlayer <;> exact hlayer
  rw [cleared, cleared, ← hid] at h
  cases hresolve : slots.resolve? l.id with
  | some name =>
    rw [hresolve, if_pos Option.isSome_some, if_pos Option.isSome_some, Node.mk.injEq] at h
    exact Or.inl ⟨rfl, h.1⟩
  | none =>
    rw [hresolve, if_neg (by simp), if_neg (by simp), Node.mk.injEq] at h
    exact Or.inr ⟨rfl, h⟩

/-! ### Labels in tags -/

def labelAttributes (label : Option Text) : List (Text × Text) :=
  (label.map fun t => ("aria-label".toList, t)).toList

theorem interactiveAttributes_labelled (n : Node) (kind : TagKind) :
    interactiveAttributes n kind true = interactiveAttributes (.mk n.layer []) kind false ++
      labelAttributes (if kind.isInteractive then n.firstText else none) := by
  cases kind with
  | link => simp [interactiveAttributes, labelAttributes, TagKind.isInteractive, Node.layer]
  | button => simp [interactiveAttributes, labelAttributes, TagKind.isInteractive]
  | container => rfl

theorem elementAttributes_append (id : String) (key : Option Text) (tokens : List Text)
    (others more : List (Text × Text)) :
    elementAttributes id key tokens (others ++ more) = elementAttributes id key tokens others ++ more := by
  simp [elementAttributes]

/-- Where quoted texts end is told by the quote alone. -/
theorem quoted_append_inj {v w f g : Text} (hv : '"' ∉ v) (hw : '"' ∉ w) :
    v ++ '"' :: f = w ++ '"' :: g ↔ v = w ∧ f = g := by
  have hcut {u : Text} (hu : '"' ∉ u) (r : Text) :
      (u ++ '"' :: r).takeWhile (· != '"') = u ∧ (u ++ '"' :: r).dropWhile (· != '"') = '"' :: r := by
    refine cut_append (fun c hc => ?_) (fun c hc => ?_)
    · rw [bne_iff_ne]
      rintro rfl
      exact hu hc
    · cases hc
      rfl
  constructor
  · intro h
    have hsame := hcut hv f
    rw [h, (hcut hw g).1, (hcut hw g).2] at hsame
    exact ⟨hsame.1.symm, (List.cons_inj_right _).mp hsame.2.symm⟩
  · rintro ⟨rfl, rfl⟩
    rfl

theorem openTag_append_inj {tag : Text} {attributes : List (Text × Text)} {label other : Option Text} {f g : Text} :
    openTag tag (attributes ++ labelAttributes label) false ++ f =
        openTag tag (attributes ++ labelAttributes other) false ++ g ↔
      label.map escapeAttr = other.map escapeAttr ∧ f = g := by
  have hopen (label : Option Text) (f : Text) : openTag tag (attributes ++ labelAttributes label) false ++ f =
      ('<' :: tag ++ attributes.flatMap fun a => writeAttribute a.1 a.2) ++
        ((labelAttributes label).flatMap (fun a => writeAttribute a.1 a.2) ++ '>' :: f) := by
    simp [openTag]
  have hlabel (t f : Text) : (labelAttributes (some t)).flatMap (fun a => writeAttribute a.1 a.2) ++ '>' :: f =
      " aria-label=\"".toList ++ (escapeAttr t ++ '"' :: '>' :: f) := by
    simp [labelAttributes, writeAttribute]
  rw [hopen, hopen, List.append_right_inj]
  cases label with
  | none =>
    cases other with
    | none => simp [labelAttributes]
    | some u =>
      rw [hlabel]
      simp [labelAttributes]
  | some t =>
    cases other with
    | none =>
      rw [hlabel]
      simp [labelAttributes]
    | some u =>
      rw [hlabel, hlabel, List.append_right_inj, quoted_append_inj (no_quote_escapeAttr t) (no_quote_escapeAttr u)]
      simp

/-! ### One drawing against another -/

theorem clearedAll_eq (slots : SlotIndex) (ns : List Node) : clearedAll slots ns = ns.map (cleared slots) := by
  induction ns with
  | nil => rw [clearedAll, List.map_nil]
  | cons n ns ih => rw [clearedAll, ih, List.map_cons]

theorem drawing_of_isSome {slots : SlotIndex} {l : Layer} (h : (slots.resolve? l.id).isSome) :
    ∃ name, drawing slots l = .slot name := by
  obtain ⟨name, hname⟩ := Option.isSome_iff_exists.mp h
  exact ⟨name, drawing_eq_slot_iff.mpr hname⟩

theorem labelsDrawn_eq_nil {slots : SlotIndex} {l : Layer} (h : l.visible = true → drawing slots l ≠ .box)
    (inside : Bool) (cs : List Node) : labelsDrawn slots inside (.mk l cs) = [] := by
  rw [labelsDrawn]
  split
  · rename_i hvisible
    cases hdrawing : drawing slots l with
    | box => exact absurd hdrawing (h hvisible)
    | slot name => rfl
    | text content => rfl
    | picture src => rfl
  · rfl

theorem labelsDrawn_bound {slots : SlotIndex} {l : Layer} (h : (slots.resolve? l.id).isSome) (inside : Bool)
    (cs : List Node) : labelsDrawn slots inside (.mk l cs) = [] := by
  obtain ⟨name, hdrawing⟩ := drawing_of_isSome h
  exact labelsDrawn_eq_nil (fun _ => by simp [hdrawing]) inside cs

/-- How many labels there are does not depend on what is in the slots. -/
theorem length_labelsDrawn_cleared (slots : SlotIndex) (inside : Bool) (n : Node) :
    (labelsDrawn slots inside (cleared slots n)).length = (labelsDrawn slots inside n).length := by
  induction n using Node.induction generalizing inside with
  | h l cs ih =>
    rw [cleared]
    split
    · rename_i hbound
      have hemptied : (slots.resolve? (emptied l).id).isSome := hbound
      rw [labelsDrawn_bound hbound, labelsDrawn_bound hemptied]
    · rw [labelsDrawn, labelsDrawn]
      split
      · cases drawing slots l with
        | box =>
          have hchildren : (labelsDrawnAll slots (insideOf inside l) (clearedAll slots cs)).length =
              (labelsDrawnAll slots (insideOf inside l) cs).length := by
            rw [labelsDrawnAll_eq, labelsDrawnAll_eq, clearedAll_eq, List.flatMap_map, List.length_flatMap,
              List.length_flatMap]
            exact congrArg List.sum (List.map_congr_left fun n hn => ih n hn _)
          simp only [List.length_append, hchildren]
          split <;> rfl
        | slot name => rfl
        | text content => rfl
        | picture src => rfl
      · rfl

section

variable {c : Context} {inside : Bool}

theorem renderNode_bound {l k : Layer} (h : (c.slots.resolve? l.id).isSome) (hplace : emptied l = emptied k)
    (cs ds : List Node) : renderNode c inside (.mk l cs) = renderNode c inside (.mk k ds) := by
  simp only [emptied, Layer.mk.injEq] at hplace
  obtain ⟨hid, -, -, hvisible, hx, hy, hw, hh, -⟩ := hplace
  obtain ⟨name, hdrawing⟩ := drawing_of_isSome h
  have hother : drawing c.slots k = .slot name := by
    rw [drawing_eq_slot_iff, ← hid]
    exact drawing_eq_slot_iff.mp hdrawing
  have hbox : boxTokens l c.frame = boxTokens k c.frame := by rw [boxTokens, boxTokens, hx, hy, hw, hh]
  rw [renderNode, renderNode, hdrawing, hother, hid, hvisible, hbox]

/-- Only a visible box shows what its children are. -/
theorem renderNode_unopened {l : Layer} (h : l.visible = true → drawing c.slots l ≠ .box) (cs ds : List Node) :
    renderNode c inside (.mk l cs) = renderNode c inside (.mk l ds) := by
  rw [renderNode, renderNode]
  split
  · rename_i hvisible
    cases hdrawing : drawing c.slots l with
    | box => exact absurd hdrawing (h hvisible)
    | slot name => rfl
    | text content => rfl
    | picture src => rfl
  · rfl

/-- The attributes of a box but for its label. -/
def boxAttributes (c : Context) (inside : Bool) (l : Layer) : List (Text × Text) :=
  elementAttributes l.id l.keyAnnotation (dedupe (layerTokens c l ++ backdropTokens l))
    (interactiveAttributes (.mk l []) (pickTag l inside) false)

theorem renderNode_box {l : Layer} (hvisible : l.visible = true) (hdrawing : drawing c.slots l = .box)
    (cs : List Node) : renderNode c inside (.mk l cs) =
      openTag (tagFor c.options l (pickTag l inside)) (boxAttributes c inside l ++
          labelAttributes (if (pickTag l inside).isInteractive then (Node.mk l cs).firstText else none)) false ++
        (renderAll c (insideOf inside l) cs ++ closeTag (tagFor c.options l (pickTag l inside))) := by
  rw [renderNode, if_pos hvisible, hdrawing, boxAttributes, ← elementAttributes_append]
  simp only [interactiveAttributes_labelled, List.append_assoc]
  rfl

theorem renderAll_append_inj {ns ms : List Node} (h : clearedAll c.slots ns = clearedAll c.slots ms)
    (hnodes : ∀ n ∈ ns, ∀ m, cleared c.slots n = cleared c.slots m → ∀ f g,
      renderNode c inside n ++ f = renderNode c inside m ++ g ↔
        labelsDrawn c.slots inside n = labelsDrawn c.slots inside m ∧ f = g) (f g : Text) :
    renderAll c inside ns ++ f = renderAll c inside ms ++ g ↔
      labelsDrawnAll c.slots inside ns = labelsDrawnAll c.slots inside ms ∧ f = g := by
  induction ns generalizing ms with
  | nil =>
    cases ms with
    | nil => simp [renderAll, labelsDrawnAll]
    | cons m ms => rw [clearedAll, clearedAll] at h; cases h
  | cons n ns ih =>
    cases ms with
    | nil => rw [clearedAll, clearedAll] at h; cases h
    | cons m ms =>
      rw [clearedAll, clearedAll, List.cons.injEq] at h
      have hlength : (labelsDrawn c.slots inside n).length = (labelsDrawn c.slots inside m).length := by
        rw [← length_labelsDrawn_cleared, h.1, length_labelsDrawn_cleared]
      rw [renderAll, renderAll, List.append_assoc, List.append_assoc, hnodes n List.mem_cons_self m h.1,
        ih h.2 fun k hk => hnodes k (List.mem_cons_of_mem n hk), labelsDrawnAll, labelsDrawnAll, ← and_assoc]
      refine and_congr_left fun _ => ⟨?_, fun happend => List.append_inj happend hlength⟩
      rintro ⟨hfirst, hrest⟩
      rw [hfirst, hrest]

/-- Two trees that agree outside of slots: what is drawn of them, with whatever behind it, is the same just when the
labels are. -/
theorem renderNode_append_inj {n m : Node} (h : cleared c.slots n = cleared c.slots m) (f g : Text) :
    renderNode c inside n ++ f = renderNode c inside m ++ g ↔
      labelsDrawn c.slots inside n = labelsDrawn c.slots inside m ∧ f = g := by
  -- Some text stands behind on either side, since whether the tags agree must not depend on what follows them.
  have hsame {r s f g : Text} {us vs : List (Option Text)} (hrs : r = s) (hu : us = []) (hv : vs = []) :
      r ++ f = s ++ g ↔ us = vs ∧ f = g := by
    rw [hrs, hu, hv, List.append_right_inj]
    exact (and_iff_right rfl).symm
  induction n using Node.induction generalizing m inside f g with
  | h l cs ih =>
    obtain ⟨k, ds⟩ := m
    rcases cleared_cases h with ⟨hbound, hplace⟩ | ⟨-, rfl, hchildren⟩
    · have hid : (emptied l).id = (emptied k).id := by rw [hplace]
      have hother : (c.slots.resolve? k.id).isSome := hid ▸ hbound
      exact hsame (renderNode_bound hbound hplace cs ds) (labelsDrawn_bound hbound inside cs)
        (labelsDrawn_bound hother inside ds)
    · by_cases hbox : l.visible = true ∧ drawing c.slots l = .box
      · obtain ⟨hvisible, hdrawing⟩ := hbox
        rw [renderNode_box hvisible hdrawing, renderNode_box hvisible hdrawing]
        simp only [List.append_assoc]
        rw [openTag_append_inj, renderAll_append_inj hchildren (fun n hn m hm => ih n hn hm), List.append_right_inj,
          ← and_assoc]
        refine and_congr_left fun _ => ?_
        simp only [labelsDrawn, hvisible, hdrawing, if_true]
        cases (pickTag l inside).isInteractive with
        | true => simp
        | false => simp
      · rw [not_and] at hbox
        exact hsame (renderNode_unopened hbox cs ds) (labelsDrawn_eq_nil hbox inside cs)
          (labelsDrawn_eq_nil hbox inside ds)

end

section

variable {a b : Artboard} (hframe : a.frame = b.frame) (options : Options)

include hframe

theorem render_eq_iff : render a options = render b options ↔ renderTree a options = renderTree b options := by
  rw [render, render, hframe]
  split
  · rw [List.append_left_inj, List.append_right_inj]
  · exact Iff.rfl

variable (hslots : a.slots = b.slots)
  (htree : cleared (SlotIndex.ofSlots a.slots) a.tree = cleared (SlotIndex.ofSlots a.slots) b.tree)

include hslots htree

theorem renderTree_eq_iff : renderTree a options = renderTree b options ↔
    labelsDrawn (SlotIndex.ofSlots a.slots) false a.tree = labelsDrawn (SlotIndex.ofSlots a.slots) false b.tree := by
  let c : Context := ⟨a.frame, SlotIndex.ofSlots a.slots, options⟩
  have hnodes : renderNode c false a.tree ++ [] = renderNode c false b.tree ++ [] ↔
      labelsDrawn c.slots false a.tree = labelsDrawn c.slots false b.tree ∧ ([] : Text) = [] :=
    renderNode_append_inj htree [] []
  rw [List.append_nil, List.append_nil, and_iff_left rfl] at hnodes
  rw [renderTree, renderTree, ← hframe, ← hslots]
  exact hnodes

/-- Designs that agree outside of slots are drawn alike just when the links and buttons have the same labels. -/
theorem slot_contents_drawn : render a options = render b options ↔
    labelsDrawn (SlotIndex.ofSlots a.slots) false a.tree = labelsDrawn (SlotIndex.ofSlots a.slots) false b.tree := by
  rw [render_eq_iff hframe]
  exact renderTree_eq_iff hframe options hslots htree

end

def saying (characters : String) : TextContent :=
  { characters := characters, fontFamily := none, fontSize := none, fontWeight := none, lineHeight := none
    letterSpacing := none, align := .left, color := none, italic := false, decoration := .none, uppercase := false }

/-- A button around two nodes, the second being bound to a slot. -/
def buttonAround (front bound : Option TextContent) : Artboard :=
  { frame := ⟨0, 0, 8, 8⟩
    tree := .mk { bareLayer "b" with name := "button" }
      [.mk { bareLayer "t" with text := front } [], .mk { bareLayer "h" with text := bound } []]
    slots := ⟨[("heading", "h")], by decide⟩ }

theorem cleared_buttonAround (front bound other : Option TextContent) :
    cleared (SlotIndex.ofSlots (buttonAround front bound).slots) (buttonAround front bound).tree =
      cleared (SlotIndex.ofSlots (buttonAround front bound).slots) (buttonAround front other).tree := by
  have hbound : ((SlotIndex.ofSlots ⟨[("heading", "h")], by decide⟩).resolve? "h").isSome = true := by decide
  simp only [buttonAround, cleared, clearedAll, bareLayer, hbound, if_true]
  rfl

/-- A text in front of the slot is the label, whatever is in the slot. -/
theorem slot_contents_drawn_text_in_front :
    render (buttonAround (some (saying "Go")) (some (saying "Secret"))) Options.standard =
      render (buttonAround (some (saying "Go")) none) Options.standard :=
  (slot_contents_drawn rfl Options.standard rfl (cleared_buttonAround _ _ _)).mpr (by decide)

/-- The only text of the button is in the slot, and it is drawn. -/
theorem text_in_slot_drawn :
    (buttonAround none (some (saying "Secret"))).frame = (buttonAround none none).frame ∧
    (buttonAround none (some (saying "Secret"))).slots = (buttonAround none none).slots ∧
    cleared (SlotIndex.ofSlots (buttonAround none none).slots) (buttonAround none (some (saying "Secret"))).tree =
      cleared (SlotIndex.ofSlots (buttonAround none none).slots) (buttonAround none none).tree ∧
    render (buttonAround none (some (saying "Secret"))) Options.standard ≠
      render (buttonAround none none) Options.standard := by
  have hframe : (buttonAround none (some (saying "Secret"))).frame = (buttonAround none none).frame := rfl
  have hslots : (buttonAround none (some (saying "Secret"))).slots = (buttonAround none none).slots := rfl
  have hcleared := cleared_buttonAround none (some (saying "Secret")) none
  refine ⟨hframe, hslots, hcleared, ?_⟩
  rw [ne_eq, render_eq_iff hframe, renderTree_eq_iff hframe Options.standard hslots hcleared]
  decide

end ResponsiveMarkup.Render
