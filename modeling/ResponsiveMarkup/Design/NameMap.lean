/-!
Maps from names to names, kept in ascending order of their keys. Slots and tag annotations are such maps.
-/

namespace ResponsiveMarkup

/-- Entries in ascending order of distinct keys. -/
structure NameMap where
  entries : List (String × String)
  ascending : entries.Pairwise fun a b => a.1 < b.1
  deriving DecidableEq

namespace NameMap

def empty : NameMap := ⟨[], .nil⟩

/-- A new key goes to its place; the value of a present key is replaced. -/
def insertEntry (k v : String) : List (String × String) → List (String × String)
  | [] => [(k, v)]
  | e :: es =>
    if k < e.1 then (k, v) :: e :: es
    else if k = e.1 then (k, v) :: es
    else e :: insertEntry k v es

theorem fst_of_mem_insertEntry {k v : String} {es : List (String × String)} {e : String × String}
    (h : e ∈ insertEntry k v es) : e.1 = k ∨ e ∈ es := by
  induction es with
  | nil => simp_all [insertEntry]
  | cons d es ih =>
    simp only [insertEntry] at h
    split at h
    · simp only [List.mem_cons] at h
      grind
    · split at h <;> grind

theorem ascending_insertEntry {k v : String} {es : List (String × String)}
    (h : es.Pairwise fun a b => a.1 < b.1) : (insertEntry k v es).Pairwise fun a b => a.1 < b.1 := by
  induction es with
  | nil => simp [insertEntry]
  | cons d es ih =>
    rw [List.pairwise_cons] at h
    simp only [insertEntry]
    split
    · rw [List.pairwise_cons, List.pairwise_cons]
      exact ⟨by grind, h⟩
    · split
      · rw [List.pairwise_cons]
        exact ⟨by grind, h.2⟩
      · rw [List.pairwise_cons]
        refine ⟨fun e he => ?_, ih h.2⟩
        rcases fst_of_mem_insertEntry he with rfl | he
        · grind
        · exact h.1 e he

def insert (m : NameMap) (k v : String) : NameMap :=
  ⟨insertEntry k v m.entries, ascending_insertEntry m.ascending⟩

/-- Later entries replace earlier ones of the same key. -/
def ofList (es : List (String × String)) : NameMap := es.foldl (fun m e => m.insert e.1 e.2) empty

def get? (m : NameMap) (k : String) : Option String := (m.entries.find? (·.1 == k)).map (·.2)

def keys (m : NameMap) : List String := m.entries.map (·.1)

instance : Inhabited NameMap := ⟨empty⟩

end NameMap

end ResponsiveMarkup
