import Mathlib.Data.List.Basic
import ResponsiveMarkup.Design.Validation
import ResponsiveMarkup.Proofs.Text.Words

/-!
What the slots resolve to. Looking an id up finds the first entry, by name, that says something once blanks are
taken off; the checks of a design compare ids as they are written. Where nothing has blanks around it the two agree.
-/

namespace ResponsiveMarkup

open Text

namespace SlotIndex

/-- The entry names a slot for the id. -/
def binds (id : Text) (e : String × String) : Bool :=
  !(trim e.1.toList).isEmpty && !(trim e.2.toList).isEmpty && trim e.2.toList == id

def lookup (found : List (Text × Text)) (id : Text) : Option Text := (found.find? (·.1 == id)).map (·.2)

/-- The index with one more entry of the map, as it is built. -/
def bindEntry (found : List (Text × Text)) (e : String × String) : List (Text × Text) :=
  if (trim e.1.toList).isEmpty || (trim e.2.toList).isEmpty || found.any (·.1 == trim e.2.toList) then found
  else found ++ [(trim e.2.toList, trim e.1.toList)]

theorem lookup_bindEntry (found : List (Text × Text)) (e : String × String) (id : Text) :
    lookup (bindEntry found e) id =
      (lookup found id).or (if binds id e then some (trim e.1.toList) else none) := by
  rw [bindEntry]
  split
  · rename_i hskipped
    by_cases hbinds : binds id e = true
    · -- The entry says something, so the id has a name already.
      simp only [binds, Bool.and_eq_true, Bool.not_eq_true', beq_iff_eq] at hbinds
      obtain ⟨⟨hname, hid⟩, rfl⟩ := hbinds
      rw [hname, hid, Bool.or_self, Bool.false_or, List.any_eq_true] at hskipped
      have hfound : (lookup found (trim e.2.toList)).isSome := by
        rw [lookup, Option.isSome_map, List.find?_isSome]
        exact hskipped
      rw [Option.or_of_isSome hfound]
    · rw [if_neg hbinds, Option.or_none]
  · rename_i hadded
    rw [Bool.or_eq_true, Bool.or_eq_true, not_or, not_or, Bool.not_eq_true, Bool.not_eq_true] at hadded
    have hbinds : binds id e = (trim e.2.toList == id) := by rw [binds, hadded.1.1, hadded.1.2]; rfl
    rw [lookup, lookup, List.find?_append, hbinds, List.find?_singleton, Option.map_or]
    split <;> rfl

theorem lookup_foldl (entries : List (String × String)) (found : List (Text × Text)) (id : Text) :
    lookup (entries.foldl bindEntry found) id =
      (lookup found id).or ((entries.find? (binds id)).map fun e => trim e.1.toList) := by
  induction entries generalizing found with
  | nil => rw [List.foldl_nil, List.find?_nil, Option.map_none, Option.or_none]
  | cons e es ih =>
    rw [List.foldl_cons, ih, lookup_bindEntry, Option.or_assoc, List.find?_cons]
    cases binds id e <;> rfl

/-- A node gets the name of the first entry that names a slot for it. -/
theorem resolve?_ofSlots (slots : NameMap) (id : String) : (ofSlots slots).resolve? id =
    (slots.entries.find? (binds id.toList)).map fun e => trim e.1.toList :=
  lookup_foldl slots.entries [] id.toList

theorem resolve?_eq_some {slots : NameMap} {id : String} {name : Text} (h : (ofSlots slots).resolve? id = some name) :
    ∃ e ∈ slots.entries, name = trim e.1.toList ∧ name ≠ [] ∧ id.toList = trim e.2.toList ∧ id.toList ≠ [] := by
  rw [resolve?_ofSlots, Option.map_eq_some_iff] at h
  obtain ⟨e, hfind, rfl⟩ := h
  have hbinds := List.find?_some hfind
  simp only [binds, Bool.and_eq_true, Bool.not_eq_true', beq_iff_eq, List.isEmpty_eq_false_iff] at hbinds
  obtain ⟨⟨hname, hid⟩, hsame⟩ := hbinds
  exact ⟨e, List.mem_of_find?_eq_some hfind, rfl, hname, hsame.symm, by rwa [← hsame]⟩

theorem trimmed_of_resolve? {slots : NameMap} {id : String} {name : Text}
    (h : (ofSlots slots).resolve? id = some name) : Trimmed name := by
  obtain ⟨e, -, rfl, -⟩ := resolve?_eq_some h
  exact trimmed_trim _

end SlotIndex

namespace Design

/-! ### What the checks of the slots find -/

theorem code_checkFrame {frame : Frame} {f : Finding} (h : f ∈ checkFrame frame) : f.code = "AST004" := by
  rw [checkFrame] at h
  split at h
  · cases h
  · rw [List.mem_singleton.mp h]
    rfl

theorem code_checkNode {n : Node} {f : Finding} (h : f ∈ checkNode n) :
    f.code ∈ ["AST002", "AST003", "AST007"] := by
  rw [checkNode, List.mem_append, List.mem_append, checkText, checkGeometry, checkImage] at h
  rcases h with (h | h) | h
  · split at h
    · rw [List.mem_singleton.mp h]
      simp [Finding.code]
    · cases h
  · split at h
    · cases h
    · rw [List.mem_singleton.mp h]
      simp [Finding.code]
  · split at h
    · rw [List.mem_singleton.mp h]
      simp [Finding.code]
    · cases h

theorem code_checkNodes {seen : List String} {ns : List Node} {f : Finding} (h : f ∈ checkNodes seen ns) :
    f.code ∈ ["AST001", "AST002", "AST003", "AST007"] := by
  induction ns generalizing seen with
  | nil => cases h
  | cons n ns ih =>
    rw [checkNodes, List.mem_append, List.mem_append] at h
    rcases h with (h | h) | h
    · split at h
      · rw [List.mem_singleton.mp h]
        simp [Finding.code]
      · cases h
    · exact List.mem_cons_of_mem _ (code_checkNode h)
    · exact ih h

theorem code_checkSlots {ids : List String} {bound entries : List (String × String)} {f : Finding}
    (h : f ∈ checkSlots ids bound entries) : f.code ∈ ["AST005", "AST006", "AST008"] := by
  induction entries generalizing bound with
  | nil => cases h
  | cons e es ih =>
    rw [checkSlots] at h
    simp only [List.mem_append, Option.mem_toList, Option.map_eq_some_iff] at h
    rcases h with ((h | ⟨b, -, rfl⟩) | h) | h
    · split at h
      · cases h
      · rw [List.mem_singleton.mp h]
        simp [Finding.code]
    · simp [Finding.code]
    · split at h
      · cases h
      · rw [List.mem_singleton.mp h]
        simp [Finding.code]
    · exact ih h

def bareLayer (id : String) : Layer :=
  { id := id, name := "Box", kind := .container, visible := true, x := 0, y := 0, w := 8, h := 8
    fills := [], radius := none, stroke := none, shadows := [], opacity := 1, blendMode := none
    text := none, image := none, actions := none }

/-- A box with a child for each id. -/
def slottedArtboard (ids : List String) (slots : NameMap) : Artboard :=
  ⟨⟨0, 0, 8, 8⟩, .mk (bareLayer "root") (ids.map fun id => .mk (bareLayer id) []), slots⟩

theorem walk_slottedArtboard (ids : List String) (slots : NameMap) :
    (slottedArtboard ids slots).tree.walk.map (·.layer.id) = "root" :: ids := by
  have hleaves : (Node.walkFrom (ids.map fun id => .mk (bareLayer id) [])).map (·.layer.id) = ids := by
    induction ids with
    | nil => simp [Node.walkFrom]
    | cons id ids ih =>
      rw [List.map_cons, Node.walkFrom, List.nil_append, List.map_cons, ih]
      rfl
  rw [Node.walk, slottedArtboard, Node.walkFrom, List.append_nil, List.map_cons, hleaves]
  rfl

end Design

end ResponsiveMarkup
