import Mathlib.Data.List.Flatten
import ResponsiveMarkup.Proofs.Design.Walk
import ResponsiveMarkup.Proofs.Markup.Contents
import ResponsiveMarkup.Render.Markup

/-!
What drawing does with a tree, told node by node. A walk over the visible nodes says which of them get an
element, in which order, and what stands in the tag of each.
-/

namespace ResponsiveMarkup

open Text

namespace Render

open Design Style

theorem drawing_eq_slot_iff {slots : SlotIndex} {l : Layer} {name : Text} :
    drawing slots l = .slot name ↔ slots.resolve? l.id = some name := by
  rw [drawing]
  cases slots.resolve? l.id with
  | some other => simp
  | none =>
    cases l.text with
    | some content => simp
    | none =>
      cases l.imageSrc with
      | some src =>
        simp only [reduceCtorEq, iff_false]
        split <;> simp
      | none => simp

section

variable (c : Context) (inside : Bool)

def keyDrawn (l : Layer) : Option Text :=
  match drawing c.slots l with
  | .slot name => some (slotKey name)
  | _ => l.keyAnnotation

def tagDrawn (l : Layer) : Text :=
  match drawing c.slots l with
  | .slot _ => "div".toList
  | .picture _ => "img".toList
  | _ => tagFor c.options l (pickTag l inside)

def tokensDrawn (l : Layer) : List Text :=
  match drawing c.slots l with
  | .slot _ => boxTokens l c.frame
  | .text content => layerTokens c l ++ textTokens content
  | .picture _ => layerTokens c l
  | .box => dedupe (layerTokens c l ++ backdropTokens l)

/-- The attributes behind the classes. -/
def othersDrawn (n : Node) : List (Text × Text) :=
  match drawing c.slots n.layer with
  | .slot name => [(Names.slot, name)]
  | .text _ => interactiveAttributes n (pickTag n.layer inside) false
  | .picture src => pictureAttributes c.options n.layer src
  | .box => interactiveAttributes n (pickTag n.layer inside) true

def attributesDrawn (n : Node) : List (Text × Text) :=
  elementAttributes n.layer.id (keyDrawn c n.layer) (tokensDrawn c n.layer) (othersDrawn c inside n)

/-- Whether the children of a layer are inside an interactive element. -/
def insideOf (l : Layer) : Bool := inside || (pickTag l inside).isInteractive

/-- What a node's element holds; `none` if it is an element without a body. -/
def bodyDrawn? (n : Node) : Option Text :=
  match drawing c.slots n.layer with
  | .slot name => some (comment (slotMarker name))
  | .text content => some (textBody n.layer content)
  | .picture _ => none
  | .box => some (n.children.flatMap (renderNode c (insideOf inside n.layer)))

end

/-- A function that goes through a list and appends. -/
theorem eq_flatMap {α β : Type} {f : α → List β} {g : List α → List β} (hnil : g [] = [])
    (hcons : ∀ a as, g (a :: as) = f a ++ g as) (as : List α) : g as = as.flatMap f := by
  induction as with
  | nil => exact hnil
  | cons a as ih => rw [hcons, ih, List.flatMap_cons]

theorem renderAll_eq (c : Context) (inside : Bool) (ns : List Node) :
    renderAll c inside ns = ns.flatMap (renderNode c inside) :=
  eq_flatMap (by rw [renderAll]) (fun n ns => by rw [renderAll]) ns

/-- Every visible node is an element. -/
theorem renderNode_eq (c : Context) (inside : Bool) (n : Node) : renderNode c inside n =
    if n.layer.visible then
      match bodyDrawn? c inside n with
      | some body => openTag (tagDrawn c inside n.layer) (attributesDrawn c inside n) false ++ body ++
          closeTag (tagDrawn c inside n.layer)
      | none => openTag (tagDrawn c inside n.layer) (attributesDrawn c inside n) true
    else [] := by
  obtain ⟨l, cs⟩ := n
  cases hvisible : l.visible with
  | true =>
    simp only [renderNode, Node.layer, Node.children, hvisible, if_true, bodyDrawn?, attributesDrawn, tagDrawn,
      keyDrawn, tokensDrawn, othersDrawn]
    cases drawing c.slots l with
    | slot name => rfl
    | text content => rfl
    | picture src => rfl
    | box => simp only [renderAll_eq, insideOf]
  | false => simp [renderNode, Node.layer, hvisible]

mutual

/-- The layers that are drawn, depth first, each with whether an interactive element is around it. A hidden node
hides all below it, and only a box shows its children. -/
def reached (slots : SlotIndex) (inside : Bool) : Node → List (Layer × Bool)
  | .mk l cs =>
    if l.visible then
      match drawing slots l with
      | .box => (l, inside) :: reachedAll slots (insideOf inside l) cs
      | _ => [(l, inside)]
    else []

def reachedAll (slots : SlotIndex) (inside : Bool) : List Node → List (Layer × Bool)
  | [] => []
  | n :: ns => reached slots inside n ++ reachedAll slots inside ns

end

theorem reachedAll_eq (slots : SlotIndex) (inside : Bool) (ns : List Node) :
    reachedAll slots inside ns = ns.flatMap (reached slots inside) :=
  eq_flatMap (by rw [reachedAll]) (fun n ns => by rw [reachedAll]) ns

/-- The layers that are drawn inside a node's element. -/
def reachedInside (slots : SlotIndex) (inside : Bool) (n : Node) : List (Layer × Bool) :=
  match drawing slots n.layer with
  | .box => n.children.flatMap (reached slots (insideOf inside n.layer))
  | _ => []

theorem reached_eq (slots : SlotIndex) (inside : Bool) (n : Node) : reached slots inside n =
    if n.layer.visible then (n.layer, inside) :: reachedInside slots inside n else [] := by
  obtain ⟨l, cs⟩ := n
  simp only [reached, reachedAll_eq, reachedInside, Node.layer, Node.children]
  cases drawing slots l <;> rfl

/-- Each node that is drawn is met once on the walk. -/
theorem reached_sublist_walk (slots : SlotIndex) (inside : Bool) (n : Node) :
    ((reached slots inside n).map (·.1)).Sublist (n.walk.map Node.layer) := by
  induction n using Node.induction generalizing inside with
  | h l cs ih =>
    rw [reached_eq, Node.walk_eq]
    split
    · rw [List.map_cons, List.map_cons, reachedInside]
      refine List.Sublist.cons_cons _ ?_
      cases drawing slots (Node.mk l cs).layer with
      | slot name => exact List.nil_sublist _
      | text content => exact List.nil_sublist _
      | picture src => exact List.nil_sublist _
      | box =>
        rw [List.map_flatMap, List.map_flatMap]
        exact List.Sublist.flatMap_right _ fun n hn => ih n hn _
    · exact List.nil_sublist _

/-- What the index says about a layer that is drawn, unless it has neither a node id nor a key. -/
def entryDrawn? (c : Context) (l : Layer) (inside : Bool) : Option Entry :=
  let nodeId := if isBlankText l.id.toList then none else some (escapeAttr l.id.toList)
  let key := (keyDrawn c l).map escapeAttr
  if key.isNone && nodeId.isNone then none
  else some ⟨key, nodeId, tagDrawn c inside l, escapeAttr (classValue (tokensDrawn c l))⟩

end Render

end ResponsiveMarkup
