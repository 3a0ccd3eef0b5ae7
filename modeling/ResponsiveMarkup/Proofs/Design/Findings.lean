import Mathlib.Data.Finset.Card
import Mathlib.Data.List.Nodup
import ResponsiveMarkup.Proofs.Design.Slots
import ResponsiveMarkup.Proofs.Design.Walk

/-!
What the checks of a design find, told from the design: each later occurrence of an id, each slot without a node, and
one slot too many for each node that has several. A design without errors has a frame with a size, ids that are all
distinct, hidden nodes included, and at most one slot for an id.
-/

namespace ResponsiveMarkup.Design

namespace Node

mutual

/-- The ids of a node and of all nodes below it, depth first, hidden nodes included. -/
def ids : Node → List String
  | mk l cs => l.id :: idsAmong cs

def idsAmong : List Node → List String
  | [] => []
  | n :: ns => ids n ++ idsAmong ns

end

/-- The walk meets the ids depth first, whatever waits on its stack. -/
theorem map_id_walkFrom (ns : List Node) : (walkFrom ns).map (·.layer.id) = idsAmong ns := by
  have happend : ∀ ms ns : List Node, idsAmong (ms ++ ns) = idsAmong ms ++ idsAmong ns := by
    intro ms ns
    induction ms with
    | nil => rfl
    | cons m ms ih => rw [List.cons_append, idsAmong, idsAmong, ih, List.append_assoc]
  induction ns using walkFrom.induct with
  | case1 => rw [walkFrom]; rfl
  | case2 l cs ns ih =>
    rw [walkFrom, List.map_cons, ih, happend]
    rfl

theorem map_id_walk (n : Node) : n.walk.map (·.layer.id) = n.ids := by
  rw [walk, map_id_walkFrom]
  exact List.append_nil _

end Node

/-! ### Ids that come again -/

/-- The entries with an equal one in front of them. -/
def recurrences (ids : List String) : List String := (ids.zipIdx.filter fun p => p.1 ∈ ids.take p.2).map (·.1)

theorem recurrences_eq_nil_iff (ids : List String) : recurrences ids = [] ↔ ids.Nodup := by
  rw [recurrences, List.map_eq_nil_iff, List.filter_eq_nil_iff, List.nodup_iff_pairwise_ne, List.pairwise_iff_getElem]
  constructor
  · intro h i j hi hj hij hsame
    apply h (ids[j], j) (List.mem_zipIdx_iff_getElem?.mpr (List.getElem?_eq_getElem hj))
    exact decide_eq_true (List.mem_take_iff_getElem.mpr ⟨i, by omega, hsame⟩)
  · rintro h ⟨id, j⟩ hmem hearlier
    have hj := List.mem_zipIdx_iff_getElem?.mp hmem
    obtain ⟨i, hi, hsame⟩ := List.mem_take_iff_getElem.mp (of_decide_eq_true hearlier)
    obtain ⟨hlength, hid⟩ := List.getElem?_eq_some_iff.mp hj
    exact h i j (by omega) hlength (by omega) (hsame.trans hid.symm)

example : recurrences ["a", "b", "a", "a"] = ["a", "a"] := by decide

/-- Findings of other codes are left out. -/
theorem filter_code_eq_nil {fs : List Finding} {codes : List String} {code : String} (h : ∀ f ∈ fs, f.code ∈ codes)
    (hcode : code ∉ codes) : fs.filter (·.code = code) = [] := by
  rw [List.filter_eq_nil_iff]
  intro f hf hsame
  apply hcode
  rw [← of_decide_eq_true hsame]
  exact h f hf

/-- The ids that were met before are those of the nodes in front. -/
theorem filter_checkNodes {seen front : List String} {ns : List Node} (hseen : ∀ id, id ∈ seen ↔ id ∈ front) :
    (checkNodes seen ns).filter (·.code = "AST001") =
      (((ns.map (·.layer.id)).zipIdx front.length).filter fun p => p.1 ∈ (front ++ ns.map (·.layer.id)).take p.2).map
        fun p => .duplicateId p.1 := by
  induction ns generalizing seen front with
  | nil => rfl
  | cons n ns ih =>
    have hseen' : ∀ id, id ∈ n.layer.id :: seen ↔ id ∈ front ++ [n.layer.id] := by
      intro id
      rw [List.mem_cons, hseen, List.mem_append, List.mem_singleton, or_comm]
    have hrest := ih hseen'
    have hnode : (checkNode n).filter (·.code = "AST001") = [] :=
      filter_code_eq_nil (fun f => code_checkNode) (by decide)
    rw [List.length_append, List.length_singleton, List.append_assoc, List.singleton_append] at hrest
    rw [checkNodes, List.filter_append, List.filter_append, hnode, List.append_nil, hrest, List.map_cons,
      List.zipIdx_cons, List.filter_cons]
    by_cases hmem : n.layer.id ∈ front
    · simp [hmem, (hseen _).mpr hmem, Finding.code]
    · have hunseen : n.layer.id ∉ seen := fun h => hmem ((hseen _).mp h)
      simp [hmem, hunseen]

theorem filter_duplicates (a : Artboard) :
    (validate a).filter (·.code = "AST001") = (recurrences (a.tree.walk.map (·.layer.id))).map .duplicateId := by
  have hframe : (checkFrame a.frame).filter (·.code = "AST001") = [] :=
    filter_code_eq_nil (fun f hf => List.mem_singleton.mpr (code_checkFrame hf)) (by decide)
  have hslots : (checkSlots (a.tree.walk.map (·.layer.id)) [] a.slots.entries).filter (·.code = "AST001") = [] :=
    filter_code_eq_nil (fun f => code_checkSlots) (by decide)
  have hnodes := @filter_checkNodes [] [] a.tree.walk fun _ => Iff.rfl
  rw [validate, List.filter_append, List.filter_append, hframe, hslots, hnodes, List.nil_append, List.append_nil,
    recurrences, List.map_map]
  rfl

/-- No id is found twice just when none comes twice on the walk. -/
theorem unique_ids_iff (a : Artboard) :
    (∀ f ∈ validate a, f.code ≠ "AST001") ↔ (a.tree.walk.map (·.layer.id)).Nodup := by
  rw [← recurrences_eq_nil_iff, ← List.map_eq_nil_iff (f := Finding.duplicateId), ← filter_duplicates,
    List.filter_eq_nil_iff]
  simp only [decide_eq_true_eq, ne_eq]

/-! ### Slots without a node and nodes with several slots -/

theorem filter_unknown {ids : List String} {bound entries : List (String × String)} :
    (checkSlots ids bound entries).filter (·.code = "AST005") =
      (entries.filter (·.2 ∉ ids)).map fun e => .unknownSlotNode e.1 e.2 := by
  induction entries generalizing bound with
  | nil => rfl
  | cons e es ih =>
    obtain ⟨name, id⟩ := e
    have hreused : (((bound.find? (·.2 == id)).map fun b => Finding.reusedSlotNode id b.1 name).toList.filter
        (·.code = "AST005")) = [] := by
      cases bound.find? (·.2 == id) <;> rfl
    have hcustom : ((if isStandardSlot name then [] else [Finding.customSlot name id]).filter
        (·.code = "AST005")) = [] := by
      split <;> rfl
    rw [checkSlots, List.filter_append, List.filter_append, List.filter_append, hreused, hcustom, ih, List.filter_cons]
    by_cases hknown : id ∈ ids
    · simp [hknown]
    · simp [hknown, Finding.code]

/-- Of a value and those behind it, the ones that are new. -/
theorem card_insert_sdiff (later known : Finset String) (id : String) :
    (insert id later \ known).card = (later \ insert id known).card + if id ∈ known then 0 else 1 := by
  rw [Finset.sdiff_insert]
  by_cases hknown : id ∈ known
  · have hout : id ∉ later \ known := fun h => (Finset.mem_sdiff.mp h).2 hknown
    rw [if_pos hknown, Finset.insert_sdiff_of_mem _ hknown, Finset.erase_eq_of_notMem hout, Nat.add_zero]
  · rw [if_neg hknown, Finset.insert_sdiff_of_notMem _ hknown, ← Finset.erase_insert_eq_erase]
    exact (Finset.card_erase_add_one (Finset.mem_insert_self id _)).symm

/-- A slot is reported if one before it has its node. -/
theorem length_reusedSlot (bound : List (String × String)) (name id : String) :
    (((bound.find? (·.2 == id)).map fun b => Finding.reusedSlotNode id b.1 name).toList.filter
      (·.code = "AST006")).length = if id ∈ (bound.map (·.2)).toFinset then 1 else 0 := by
  cases hfind : bound.find? (·.2 == id) with
  | some b =>
    have hmem : id ∈ (bound.map (·.2)).toFinset := by
      have hsame := List.find?_some hfind
      apply List.mem_toFinset.mpr
      exact List.mem_map.mpr ⟨b, List.mem_of_find?_eq_some hfind, beq_iff_eq.mp hsame⟩
    rw [if_pos hmem]
    rfl
  | none =>
    have hmem : id ∉ (bound.map (·.2)).toFinset := by
      intro h
      obtain ⟨b, hb, hsame⟩ := List.mem_map.mp (List.mem_toFinset.mp h)
      exact List.find?_eq_none.mp hfind b hb (beq_iff_eq.mpr hsame)
    rw [if_neg hmem]
    rfl

/-- A node is reported again for each slot but its first. -/
theorem length_reused {ids : List String} {bound entries : List (String × String)} :
    ((checkSlots ids bound entries).filter (·.code = "AST006")).length +
      ((entries.map (·.2)).toFinset \ (bound.map (·.2)).toFinset).card = entries.length := by
  induction entries generalizing bound with
  | nil => simp [checkSlots]
  | cons e es ih =>
    obtain ⟨name, id⟩ := e
    have hunknown : ((if id ∈ ids then [] else [Finding.unknownSlotNode name id]).filter (·.code = "AST006")) = [] := by
      split <;> rfl
    have hcustom : ((if isStandardSlot name then [] else [Finding.customSlot name id]).filter
        (·.code = "AST006")) = [] := by
      split <;> rfl
    have hreused := length_reusedSlot bound name id
    have hcard := card_insert_sdiff (es.map (·.2)).toFinset (bound.map (·.2)).toFinset id
    have hrest : ((checkSlots ids ((name, id) :: bound) es).filter (·.code = "AST006")).length +
        ((es.map (·.2)).toFinset \ insert id (bound.map (·.2)).toFinset).card = es.length := by
      have h := @ih ((name, id) :: bound)
      rwa [List.map_cons, List.toFinset_cons] at h
    rw [checkSlots, List.filter_append, List.filter_append, List.filter_append, hunknown, hcustom, List.nil_append,
      List.append_nil, List.length_append, hreused, List.map_cons, List.toFinset_cons, hcard, List.length_cons]
    split <;> omega

/-- Findings of a code that only the checks of the slots have. -/
theorem filter_slot_code {code : String} (hcode : code ∈ ["AST005", "AST006", "AST008"]) (a : Artboard) :
    (validate a).filter (·.code = code) =
      (checkSlots (a.tree.walk.map (·.layer.id)) [] a.slots.entries).filter (·.code = code) := by
  have hother : ∀ code ∈ ["AST005", "AST006", "AST008"],
      code ∉ ["AST004"] ∧ code ∉ ["AST001", "AST002", "AST003", "AST007"] := by
    decide
  have hframe : (checkFrame a.frame).filter (·.code = code) = [] :=
    filter_code_eq_nil (fun f hf => List.mem_singleton.mpr (code_checkFrame hf)) (hother code hcode).1
  have hnodes : (checkNodes [] a.tree.walk).filter (·.code = code) = [] :=
    filter_code_eq_nil (fun f => code_checkNodes) (hother code hcode).2
  rw [validate, List.filter_append, List.filter_append, hframe, hnodes, List.nil_append, List.nil_append]

theorem filter_frame_code (a : Artboard) : (validate a).filter (·.code = "AST004") = checkFrame a.frame := by
  have hnodes : (checkNodes [] a.tree.walk).filter (·.code = "AST004") = [] :=
    filter_code_eq_nil (fun f => code_checkNodes) (by decide)
  have hslots : (checkSlots (a.tree.walk.map (·.layer.id)) [] a.slots.entries).filter (·.code = "AST004") = [] :=
    filter_code_eq_nil (fun f => code_checkSlots) (by decide)
  have hframe : (checkFrame a.frame).filter (·.code = "AST004") = checkFrame a.frame := by
    apply List.filter_eq_self.mpr
    intro f hf
    exact decide_eq_true (code_checkFrame hf)
  rw [validate, List.filter_append, List.filter_append, hframe, hnodes, hslots, List.append_nil, List.append_nil]

/-! ### Errors -/

theorem checkFrame_eq_nil_iff (f : Frame) :
    checkFrame f = [] ↔ (f.w.isFinite = true ∧ 0 < f.w) ∧ f.h.isFinite = true ∧ 0 < f.h := by
  rw [checkFrame, ite_eq_left_iff]
  simp [isPositiveSize, and_assoc]

theorem severity_eq_error_iff (f : Finding) :
    f.severity = .error ↔ f.code = "AST001" ∨ f.code = "AST004" ∨ f.code = "AST006" := by
  cases f <;> simp [Finding.severity, Finding.code]

/-- An error is a frame without a size, an id that comes again or a node with several slots. -/
theorem no_error_iff (a : Artboard) : (∀ f ∈ validate a, f.severity ≠ .error) ↔
    (validate a).filter (·.code = "AST001") = [] ∧ (validate a).filter (·.code = "AST004") = [] ∧
      (validate a).filter (·.code = "AST006") = [] := by
  simp only [List.filter_eq_nil_iff, decide_eq_true_eq, ne_eq, severity_eq_error_iff, not_or]
  constructor
  · intro h
    exact ⟨fun f hf => (h f hf).1, fun f hf => (h f hf).2.1, fun f hf => (h f hf).2.2⟩
  · rintro ⟨hid, hframe, hslot⟩ f hf
    exact ⟨hid f hf, hframe f hf, hslot f hf⟩

theorem length_filter_reused (a : Artboard) : ((validate a).filter (·.code = "AST006")).length +
    (a.slots.entries.map (·.2)).toFinset.card = a.slots.entries.length := by
  have hreused := @length_reused (a.tree.walk.map (·.layer.id)) [] a.slots.entries
  rw [List.map_nil, List.toFinset_nil, Finset.sdiff_empty] at hreused
  rw [filter_slot_code (by decide)]
  exact hreused

/-- No node has several slots just when the slots' ids are distinct. -/
theorem filter_reused_eq_nil_iff (a : Artboard) :
    (validate a).filter (·.code = "AST006") = [] ↔ (a.slots.entries.map (·.2)).Nodup := by
  have hcount := length_filter_reused a
  rw [← List.length_eq_zero_iff]
  constructor
  · intro hnone
    apply Multiset.coe_nodup.mp
    apply Multiset.toFinset_card_eq_card_iff_nodup.mp
    rw [Multiset.coe_card, List.length_map]
    change (a.slots.entries.map (·.2)).toFinset.card = _
    omega
  · intro hnodup
    have hcard := List.toFinset_card_of_nodup hnodup
    rw [List.length_map] at hcard
    omega

/-- A design has no errors if and only if its frame has a size, no two nodes have one id and no two slots one node. An
id is reported once for each occurrence but the first, in the order of the tree; the nodes that are reported as reused
are as many as there are slots beyond one for each id; and the slots that point nowhere are reported, no others. -/
theorem findings_complete (a : Artboard) :
    ((∀ f ∈ validate a, f.severity ≠ .error) ↔
      ((a.frame.w.isFinite = true ∧ 0 < a.frame.w) ∧ a.frame.h.isFinite = true ∧ 0 < a.frame.h) ∧
      a.tree.ids.Nodup ∧ (a.slots.entries.map (·.2)).Nodup) ∧
    (validate a).filter (·.code = "AST001") = (recurrences a.tree.ids).map .duplicateId ∧
    ((validate a).filter (·.code = "AST006")).length =
      a.slots.entries.length - (a.slots.entries.map (·.2)).toFinset.card ∧
    (validate a).filter (·.code = "AST005") =
      (a.slots.entries.filter (·.2 ∉ a.tree.ids)).map fun e => .unknownSlotNode e.1 e.2 := by
  have hduplicates := filter_duplicates a
  rw [Node.map_id_walk] at hduplicates
  have hcode : "AST005" ∈ ["AST005", "AST006", "AST008"] := by decide
  have hunknown := filter_slot_code hcode a
  rw [filter_unknown, Node.map_id_walk] at hunknown
  refine ⟨?_, hduplicates, ?_, hunknown⟩
  · rw [no_error_iff, hduplicates, List.map_eq_nil_iff, recurrences_eq_nil_iff, filter_frame_code,
      checkFrame_eq_nil_iff, filter_reused_eq_nil_iff]
    exact and_left_comm
  · have hcount := length_filter_reused a
    omega

end ResponsiveMarkup.Design
