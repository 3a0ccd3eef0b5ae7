import ResponsiveMarkup.Proofs.Compile.Sound
import ResponsiveMarkup.Proofs.Design.Walk

/-!
Hidden nodes. Neither a drawing nor the label of a link or button looks into a hidden node, so what a compilation
makes of the designs is what it makes of them with all hidden nodes taken out; only the findings about the designs
may be others.
-/

namespace ResponsiveMarkup

namespace Design

namespace Node

mutual

/-- A tree without the hidden nodes below its root. -/
def shown : Node → Node
  | mk l cs => mk l (shownAll cs)

def shownAll : List Node → List Node
  | [] => []
  | n :: ns => if n.layer.visible then shown n :: shownAll ns else shownAll ns

end

@[simp] theorem layer_shown (n : Node) : n.shown.layer = n.layer := by
  obtain ⟨l, cs⟩ := n
  rw [shown]
  rfl

theorem shownAll_eq (ns : List Node) : shownAll ns = (ns.filter (·.layer.visible)).map shown := by
  induction ns with
  | nil => rw [shownAll, List.filter_nil, List.map_nil]
  | cons n ns ih =>
    rw [shownAll, List.filter_cons, ih]
    split
    · rw [List.map_cons]
    · rfl

theorem children_shown (n : Node) : n.shown.children = (n.children.filter (·.layer.visible)).map shown := by
  obtain ⟨l, cs⟩ := n
  rw [shown]
  exact shownAll_eq cs

/-- No hidden node is left but the root. -/
theorem visible_of_mem_walk_shown (n : Node) : ∀ m ∈ n.shown.walk, m = n.shown ∨ m.layer.visible = true := by
  induction n using Node.induction with
  | h l cs ih =>
    intro m hm
    rw [walk_eq, List.mem_cons, children_shown] at hm
    rcases hm with rfl | hm
    · exact Or.inl rfl
    · obtain ⟨k, hk, hm⟩ := List.mem_flatMap.mp hm
      obtain ⟨n, hn, rfl⟩ := List.mem_map.mp hk
      obtain ⟨hchild, hvisible⟩ := List.mem_filter.mp hn
      rcases ih n hchild m hm with rfl | hm
      · exact Or.inr (by rwa [layer_shown])
      · exact Or.inr hm

theorem firstTextAmong_shownAll {ns : List Node} (h : ∀ n ∈ ns, n.shown.firstText = n.firstText) :
    firstTextAmong (shownAll ns) = firstTextAmong ns := by
  induction ns with
  | nil => rw [shownAll]
  | cons n ns ih =>
    have hrest := ih fun m hm => h m (List.mem_cons_of_mem n hm)
    rw [shownAll, firstTextAmong]
    split
    · rename_i hvisible
      rw [firstTextAmong, layer_shown, hvisible, h n List.mem_cons_self, hrest]
      rfl
    · exact hrest

theorem firstText_shown (n : Node) : n.shown.firstText = n.firstText := by
  induction n using Node.induction with
  | h l cs ih => rw [shown, firstText, firstText, firstTextAmong_shownAll ih]

end Node

/-- The design without the hidden nodes below the root of its tree. -/
def Artboard.shown (a : Artboard) : Artboard := { a with tree := a.tree.shown }

end Design

namespace Render

open Design

section

variable (c : Context) (inside : Bool)

theorem attributesDrawn_shown (n : Node) : attributesDrawn c inside n.shown = attributesDrawn c inside n := by
  rw [attributesDrawn, attributesDrawn, othersDrawn, othersDrawn, Node.layer_shown]
  cases drawing c.slots n.layer with
  | slot name => rfl
  | text content => simp only [interactiveAttributes, Node.firstText_shown, Node.layer_shown]
  | picture src => rfl
  | box => simp only [interactiveAttributes, Node.firstText_shown, Node.layer_shown]

theorem renderNode_hidden {n : Node} (h : n.layer.visible = false) : renderNode c inside n = [] := by
  rw [renderNode_eq, h, if_neg (by simp)]

/-- Nodes that are not drawn can be left out. -/
theorem flatMap_renderNode_visible (ns : List Node) :
    (ns.filter (·.layer.visible)).flatMap (renderNode c inside) = ns.flatMap (renderNode c inside) := by
  induction ns with
  | nil => rfl
  | cons n ns ih =>
    rw [List.filter_cons, List.flatMap_cons]
    cases hvisible : n.layer.visible with
    | true => rw [if_pos rfl, List.flatMap_cons, ih]
    | false => rw [if_neg (by simp), renderNode_hidden c inside hvisible, ih, List.nil_append]

theorem renderNode_shown (n : Node) : renderNode c inside n.shown = renderNode c inside n := by
  -- For both values of inside: the children of a link or button are drawn as inside of one.
  induction n using Node.induction generalizing inside with
  | h l cs ih =>
    have hbody : bodyDrawn? c inside (Node.mk l cs).shown = bodyDrawn? c inside (.mk l cs) := by
      rw [bodyDrawn?, bodyDrawn?, Node.layer_shown]
      cases drawing c.slots (Node.mk l cs).layer with
      | slot name => rfl
      | text content => rfl
      | picture src => rfl
      | box =>
        simp only
        rw [Node.children_shown, List.flatMap_map, ← flatMap_renderNode_visible c _ (Node.mk l cs).children]
        refine congrArg some (List.flatMap_congr fun n hn => ?_)
        exact ih n (List.mem_filter.mp hn).1 _
    rw [renderNode_eq, renderNode_eq, hbody, attributesDrawn_shown, Node.layer_shown]

end

theorem render_shown (a : Artboard) (options : Options) : render a.shown options = render a options := by
  rw [render, render, renderTree, renderTree, Artboard.shown, renderNode_shown]

end Render

namespace Compile

open Design

/-- The designs without their hidden nodes. -/
def Input.shown (i : Input) : Input :=
  ⟨i.mobile.map Artboard.shown, i.tablet.map Artboard.shown, i.desktop.map Artboard.shown⟩

theorem Input.get?_shown (i : Input) (v : Viewport) : i.shown.get? v = (i.get? v).map Artboard.shown := by
  cases v <;> rfl

theorem fragments_shown (o : Render.Options) (i : Input) : fragments o i.shown = fragments o i := by
  have hdrawn : (Render.render · o) ∘ Artboard.shown = (Render.render · o) :=
    funext fun a => Render.render_shown a o
  simp only [fragments_eq, Input.shown, Option.map_map, hdrawn]

theorem baseSlots_shown (i : Input) (base : Viewport) : baseSlots i.shown base = baseSlots i base := by
  rw [baseSlots, baseSlots, Input.get?_shown, Option.map_map]
  rfl

/-- Taking out all hidden nodes below the roots, of which none is left then, changes nothing in what a run hands out
but the findings about the designs. -/
theorem run_without_hidden (o : Options) (rules : RuleTable) (i : Input) :
    (∀ v a, i.shown.get? v = some a → ∀ n ∈ a.tree.walk, n = a.tree ∨ n.layer.visible = true) ∧
    run o rules i.shown = { run o rules i with diagnostics := diagnostics i.shown } := by
  constructor
  · intro v a ha
    rw [Input.get?_shown, Option.map_eq_some_iff] at ha
    obtain ⟨b, -, rfl⟩ := ha
    exact Node.visible_of_mem_walk_shown b.tree
  · have hsame : fragments o.render i.shown = fragments o.render i := fragments_shown o.render i
    cases hbase : (fragments o.render i).merge.stats.baseViewport with
    | none => rw [run_of_none hbase, run_of_none (by rw [hsame, hbase])]
    | some base =>
      have houtcome : outcome o rules i.shown base = outcome o rules i base := by
        rw [outcome, outcome, hsame, baseSlots_shown]
      rw [run_of_base hbase, run_of_base (by rw [hsame, hbase]), houtcome, hsame, baseSlots_shown]

end Compile

end ResponsiveMarkup
