import ResponsiveMarkup.Design.Node

/-!
Slots: named places in the output. A node that a slot is bound to is not drawn; a marker stands for it.
-/

namespace ResponsiveMarkup

open Text

/-- Names that every template knows. Other names work as well. -/
def standardSlots : List String := ["heading", "subcopy", "cta_primary", "image_main", "overlay"]

def isStandardSlot (name : String) : Bool := standardSlots.contains name

def slotMarker (name : Text) : Text := "slot:".toList ++ name

/-- The key that a slot's element is matched by. -/
def slotKey (name : Text) : Text := "slot-".toList ++ name

/-- Which slot a node is bound to: node ids with their slot names. -/
structure SlotIndex where
  entries : List (Text × Text)

namespace SlotIndex

/-- Names and ids count without the blanks around them. Of two slots for one node the first name counts. -/
def ofSlots (slots : NameMap) : SlotIndex where
  entries := slots.entries.foldl (fun found (name, id) =>
    let name := trim name.toList
    let id := trim id.toList
    if name.isEmpty || id.isEmpty || found.any (·.1 == id) then found else found ++ [(id, name)]) []

def resolve? (s : SlotIndex) (id : String) : Option Text :=
  (s.entries.find? (·.1 == id.toList)).map (·.2)

def size (s : SlotIndex) : Nat := s.entries.length

end SlotIndex

/-- The name in a comment that marks a slot. -/
def markedSlot? (comment : Text) : Option Text := (stripStart? "slot:".toList (trim comment)).map trim

end ResponsiveMarkup
