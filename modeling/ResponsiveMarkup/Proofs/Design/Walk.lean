import Mathlib.Data.List.Basic
import ResponsiveMarkup.Design.Node

/-!
The walk over a tree. Whatever waits on the stack comes after all below the node on top, so a node is followed by the
walks of its children, one after another.
-/

namespace ResponsiveMarkup.Design.Node

/-- What holds of a node when it holds of its children holds of all nodes. -/
theorem induction {P : Node → Prop} (h : ∀ l cs, (∀ n ∈ cs, P n) → P (.mk l cs)) : ∀ n, P n
  | .mk l cs => h l cs fun n _ => induction h n

theorem walkFrom_cons (n : Node) (stack : List Node) : walkFrom (n :: stack) = n :: walkFrom (n.children ++ stack) := by
  obtain ⟨l, cs⟩ := n
  rw [walkFrom]
  rfl

theorem walkFrom_append (ns stack : List Node) : walkFrom (ns ++ stack) = walkFrom ns ++ walkFrom stack := by
  -- On the stack of the walk: the children of its top node are put in front of the nodes that wait.
  induction ns using walkFrom.induct with
  | case1 => rw [walkFrom, List.nil_append, List.nil_append]
  | case2 l cs ns ih =>
    rw [List.cons_append, walkFrom, walkFrom, ← List.append_assoc, ih, List.cons_append]

theorem walkFrom_eq (ns : List Node) : walkFrom ns = ns.flatMap walk := by
  induction ns with
  | nil => rw [walkFrom, List.flatMap_nil]
  | cons n ns ih =>
    have hfirst : walkFrom ([n] ++ ns) = walkFrom [n] ++ walkFrom ns := walkFrom_append [n] ns
    rw [List.flatMap_cons, ← ih]
    exact hfirst

theorem walk_eq (n : Node) : n.walk = n :: n.children.flatMap walk := by
  rw [walk, walkFrom_cons, List.append_nil, walkFrom_eq]

end ResponsiveMarkup.Design.Node
