import Mathlib.Data.List.Nodup
import ResponsiveMarkup.Proofs.Design.Walk

/-!
The walk with a stack visits a tree in pre-order. Its loop puts the children of a node down in reverse, so that the
stack holds, one above another, the siblings still to come of all nodes on the way down; read from the top it is the
forest that is left to walk. The loop ends after as many turns as there are nodes, and what it has visited by then are
the nodes at all places of the tree, each place once, in the order of the ways that lead down to them.
-/

namespace ResponsiveMarkup.Design.Node

/-! ### The loop -/

/-- The nodes visited so far, and those that were put down and wait, the next one last. -/
structure WalkState where
  visited : List Node
  stack : List Node

/-- One turn takes the node that was put down last and puts its children in its place, the first of them last. -/
def WalkState.turn? (s : WalkState) : Option WalkState :=
  s.stack.getLast?.map fun n => ⟨s.visited ++ [n], s.stack.dropLast ++ n.children.reverse⟩

/-- The loop takes so many turns before it stops, and has then visited these nodes. -/
inductive WalkState.Ends : WalkState → Nat → List Node → Prop where
  | stop {s} : s.turn? = none → Ends s 0 s.visited
  | turn {s t turns out} : s.turn? = some t → Ends t turns out → Ends s (turns + 1) out

namespace WalkState

variable {s t : WalkState}

/-- The forest that is left to walk. -/
def ahead (s : WalkState) : List Node := s.stack.reverse

theorem turn?_eq_none_iff : s.turn? = none ↔ s.ahead = [] := by
  simp [turn?, ahead]

theorem turn?_eq_some (h : s.turn? = some t) : ∃ n rest, s.ahead = n :: rest ∧
    t.visited = s.visited ++ [n] ∧ t.ahead = n.children ++ rest := by
  obtain ⟨n, hn, rfl⟩ := Option.map_eq_some_iff.mp h
  refine ⟨n, s.stack.dropLast.reverse, ?_, rfl, ?_⟩
  · conv_lhs => rw [ahead, ← List.dropLast_append_getLast? n hn]
    rw [List.reverse_append]
    rfl
  · simp [ahead]

/-- A turn moves one node from what is left to what is done. -/
theorem turn_invariant (h : s.turn? = some t) :
    t.visited ++ walkFrom t.ahead = s.visited ++ walkFrom s.ahead ∧ sizeAll s.ahead = sizeAll t.ahead + 1 := by
  obtain ⟨n, rest, hahead, hvisited, hnext⟩ := turn?_eq_some h
  obtain ⟨l, cs⟩ := n
  constructor
  · rw [hahead, walkFrom_cons, hvisited, hnext, List.append_assoc]
    rfl
  · rw [hahead, hnext, sizeAll_append, sizeAll, size, children]
    omega

theorem ends_only {turns : Nat} {out : List Node} (h : s.Ends turns out) :
    turns = sizeAll s.ahead ∧ out = s.visited ++ walkFrom s.ahead := by
  induction h with
  | stop h =>
    rw [turn?_eq_none_iff.mp h, walkFrom, sizeAll, List.append_nil]
    exact ⟨rfl, rfl⟩
  | turn h _ ih =>
    obtain ⟨hturns, hout⟩ := ih
    obtain ⟨hsame, hless⟩ := turn_invariant h
    exact ⟨by omega, hout.trans hsame⟩

/-- The nodes that are left bound the turns. -/
theorem ends (s : WalkState) : s.Ends (sizeAll s.ahead) (s.visited ++ walkFrom s.ahead) := by
  induction hsize : sizeAll s.ahead generalizing s with
  | zero =>
    cases hnext : s.turn? with
    | none =>
      rw [turn?_eq_none_iff.mp hnext, walkFrom, List.append_nil]
      exact .stop hnext
    | some t =>
      have := (turn_invariant hnext).2
      omega
  | succ size ih =>
    cases hnext : s.turn? with
    | none =>
      rw [turn?_eq_none_iff.mp hnext, sizeAll] at hsize
      omega
    | some t =>
      obtain ⟨hsame, hless⟩ := turn_invariant hnext
      rw [← hsame]
      exact .turn hnext (ih t (by omega))

theorem ends_iff {turns : Nat} {out : List Node} :
    s.Ends turns out ↔ turns = sizeAll s.ahead ∧ out = s.visited ++ walkFrom s.ahead := by
  constructor
  · exact ends_only
  · rintro ⟨rfl, rfl⟩
    exact ends s

end WalkState

/-! ### Places -/

/-- The node at the end of a way down, which says at each node the how manieth child is next. -/
def at? (n : Node) : List Nat → Option Node
  | [] => some n
  | i :: way => n.children[i]?.bind fun c => c.at? way

mutual

/-- The ways down to all nodes of a tree. -/
def places : Node → List (List Nat)
  | mk _ cs => [] :: placesFrom 0 cs

/-- The ways down to the nodes under children that are numbered from `i`. -/
def placesFrom (i : Nat) : List Node → List (List Nat)
  | [] => []
  | c :: cs => (places c).map (i :: ·) ++ placesFrom (i + 1) cs

end

theorem map_at?_placesFrom {l : Layer} {cs : List Node} (hcs : ∀ c ∈ cs, c.places.map c.at? = c.walk.map some)
    (before after : List Node) (hsplit : cs = before ++ after) :
    (placesFrom before.length after).map (mk l cs).at? = (after.flatMap walk).map some := by
  induction after generalizing before with
  | nil =>
    rw [placesFrom]
    rfl
  | cons c after ih =>
    have hat : ∀ way, (mk l cs).at? (before.length :: way) = c.at? way := by
      intro way
      rw [at?, children, hsplit, List.getElem?_append_right (Nat.le_refl _), Nat.sub_self]
      rfl
    have hc : c ∈ cs := by
      rw [hsplit]
      exact List.mem_append_right _ List.mem_cons_self
    have hrest := ih (before ++ [c]) (by rw [hsplit, List.append_assoc]; rfl)
    rw [List.length_append, List.length_singleton] at hrest
    rw [placesFrom, List.map_append, List.map_map, List.flatMap_cons, List.map_append, hrest, ← hcs c hc]
    congr 1
    exact List.map_congr_left fun way _ => hat way

theorem map_at?_places (n : Node) : n.places.map n.at? = n.walk.map some := by
  induction n using induction with
  | h l cs ih =>
    rw [walk_eq, places, List.map_cons, List.map_cons]
    congr 1
    exact map_at?_placesFrom ih [] cs rfl

theorem mem_placesFrom {i : Nat} {cs : List Node} {way : List Nat} :
    way ∈ placesFrom i cs ↔ ∃ k c down, cs[k]? = some c ∧ down ∈ c.places ∧ way = (i + k) :: down := by
  induction cs generalizing i with
  | nil => simp [placesFrom]
  | cons c cs ih =>
    rw [placesFrom, List.mem_append, List.mem_map, ih]
    constructor
    · rintro (⟨down, hdown, rfl⟩ | ⟨k, d, down, hd, hdown, rfl⟩)
      · exact ⟨0, c, down, rfl, hdown, rfl⟩
      · exact ⟨k + 1, d, down, hd, hdown, by rw [Nat.add_assoc, Nat.add_comm 1]⟩
    · rintro ⟨k, d, down, hd, hdown, rfl⟩
      cases k with
      | zero =>
        cases hd
        exact Or.inl ⟨down, hdown, rfl⟩
      | succ k => exact Or.inr ⟨k, d, down, hd, hdown, by rw [Nat.add_assoc, Nat.add_comm 1]⟩

/-- The places are where there is a node. -/
theorem mem_places {n : Node} {way : List Nat} : way ∈ n.places ↔ (n.at? way).isSome := by
  induction way generalizing n with
  | nil => cases n; simp [places, at?]
  | cons i down ih =>
    obtain ⟨l, cs⟩ := n
    rw [places, List.mem_cons, mem_placesFrom, at?, children]
    constructor
    · rintro (h | ⟨k, c, below, hc, hbelow, h⟩)
      · cases h
      · rw [Nat.zero_add, List.cons.injEq] at h
        obtain ⟨rfl, rfl⟩ := h
        rw [hc]
        exact ih.mp hbelow
    · intro h
      cases hc : cs[i]? with
      | none =>
        rw [hc] at h
        cases h
      | some c =>
        rw [hc] at h
        exact Or.inr ⟨i, c, down, hc, ih.mpr h, by rw [Nat.zero_add]⟩

/-- What lies above a node is a node. -/
theorem isSome_at?_append {n : Node} {p q : List Nat} (h : (n.at? (p ++ q)).isSome) : (n.at? p).isSome := by
  induction p generalizing n with
  | nil => rfl
  | cons i p ih =>
    rw [List.cons_append, at?] at h
    rw [at?]
    cases hc : n.children[i]? with
    | none =>
      rw [hc] at h
      cases h
    | some c =>
      rw [hc] at h
      exact ih h

theorem ascending_placesFrom {cs : List Node} (hcs : ∀ c ∈ cs, c.places.Pairwise (· < ·)) (i : Nat) :
    (placesFrom i cs).Pairwise (· < ·) := by
  induction cs generalizing i with
  | nil =>
    rw [placesFrom]
    exact .nil
  | cons c cs ih =>
    rw [placesFrom, List.pairwise_append]
    refine ⟨?_, ih (fun d hd => hcs d (List.mem_cons_of_mem c hd)) (i + 1), ?_⟩
    · rw [List.pairwise_map]
      exact (hcs c List.mem_cons_self).imp fun h => List.cons_lt_cons_iff.mpr (Or.inr ⟨rfl, h⟩)
    · intro p hp q hq
      obtain ⟨down, -, rfl⟩ := List.mem_map.mp hp
      obtain ⟨k, d, below, -, -, rfl⟩ := mem_placesFrom.mp hq
      exact List.cons_lt_cons_iff.mpr (Or.inl (by omega))

/-- The places come in the order of the ways: a way comes before those that go on from it, and where two part, the one
through the earlier child comes first. -/
theorem ascending_places (n : Node) : n.places.Pairwise (· < ·) := by
  induction n using induction with
  | h l cs ih =>
    rw [places, List.pairwise_cons]
    refine ⟨fun q hq => ?_, ascending_placesFrom ih 0⟩
    obtain ⟨k, c, down, -, -, rfl⟩ := mem_placesFrom.mp hq
    exact List.nil_lt_cons _ _

/-- What lies above comes before what lies below, and so does what lies under an earlier child of the same node. -/
theorem lt_below (p q : List Nat) (i : Nat) : p < p ++ i :: q := by
  induction p with
  | nil => exact List.nil_lt_cons _ _
  | cons j p ih => exact List.cons_lt_cons_iff.mpr (Or.inr ⟨rfl, ih⟩)

theorem lt_beside (p q r : List Nat) {i j : Nat} (h : i < j) : p ++ i :: q < p ++ j :: r := by
  induction p with
  | nil => exact List.cons_lt_cons_iff.mpr (Or.inl h)
  | cons k p ih => exact List.cons_lt_cons_iff.mpr (Or.inr ⟨rfl, ih⟩)

/-- In an ascending list the lesser of two members stands first. -/
theorem sublist_of_lt {order : List (List Nat)} (h : order.Pairwise (· < ·)) {p q : List Nat} (hp : p ∈ order)
    (hq : q ∈ order) (hlt : p < q) : [p, q].Sublist order := by
  induction h with
  | nil => cases hp
  | @cons a order hfirst hrest ih =>
    rcases List.mem_cons.mp hp with rfl | hbehind
    · rcases List.mem_cons.mp hq with rfl | hbelow
      · exact absurd hlt (List.lt_irrefl _)
      · exact (List.singleton_sublist.mpr hbelow).cons_cons p
    · rcases List.mem_cons.mp hq with rfl | hbelow
      · exact absurd (List.lt_trans hlt (hfirst p hbehind)) (List.lt_irrefl _)
      · exact (ih hbehind hbelow).cons a

/-- The walk visits the nodes at these places, in this order. -/
structure PreOrder (n : Node) (order : List (List Nat)) : Prop where
  visited : n.walk.map some = order.map n.at?
  once : order.Nodup
  everywhere : ∀ p, p ∈ order ↔ (n.at? p).isSome
  parents_first : ∀ p q i, p ++ i :: q ∈ order → [p, p ++ i :: q].Sublist order
  siblings_in_order : ∀ p q r i j, i < j → p ++ i :: q ∈ order → p ++ j :: r ∈ order →
    [p ++ i :: q, p ++ j :: r].Sublist order

/-- Walking with a stack is walking in pre-order: a node and then the walks of its children, one after another. The loop
stops, after as many turns as there are nodes, and has then visited just these, each at its place. -/
theorem walk_preorder (n : Node) :
    n.walk = n :: n.children.flatMap walk ∧
    (∀ turns out, (⟨[], [n]⟩ : WalkState).Ends turns out ↔ turns = n.size ∧ out = n.walk) ∧
    PreOrder n n.places := by
  refine ⟨walk_eq n, ?_, ?_⟩
  · intro turns out
    have hahead : (⟨[], [n]⟩ : WalkState).ahead = [n] := rfl
    rw [WalkState.ends_iff, hahead, sizeAll, sizeAll, Nat.add_zero, List.nil_append, walk]
  · constructor
    · exact (map_at?_places n).symm
    · apply (ascending_places n).imp
      rintro p q hlt rfl
      exact List.lt_irrefl p hlt
    · exact fun p => mem_places
    · intro p q i hq
      have hp : p ∈ n.places := by
        rw [mem_places] at hq ⊢
        exact isSome_at?_append hq
      exact sublist_of_lt (ascending_places n) hp hq (lt_below p q i)
    · intro p q r i j hij hq hr
      exact sublist_of_lt (ascending_places n) hq hr (lt_beside p q r hij)

end ResponsiveMarkup.Design.Node
