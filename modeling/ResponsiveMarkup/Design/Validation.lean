import ResponsiveMarkup.Design.Node
import ResponsiveMarkup.Number.Plain
import ResponsiveMarkup.Slot

/-!
What a design should satisfy before it is rendered. Nothing here stops a rendering: every violation is a
finding, in the order of the frame, the nodes as they are walked, and the slots by name.
-/

namespace ResponsiveMarkup.Design

inductive Severity where
  | error
  | warning
  | info
  deriving DecidableEq, Repr

inductive Finding where
  | duplicateId (id : String)
  | textWithChildren (id : String) (children : Nat)
  /-- The measures that are negative or no number, by name. -/
  | badGeometry (id : String) (measures : List (String × Float))
  | frameSize (w h : Float)
  | unknownSlotNode (slot id : String)
  /-- Two slots, by name, for one node. -/
  | reusedSlotNode (id first second : String)
  | unresolvedImage (id : String)
  | customSlot (slot id : String)

namespace Finding

def code : Finding → String
  | duplicateId .. => "AST001"
  | textWithChildren .. => "AST002"
  | badGeometry .. => "AST003"
  | frameSize .. => "AST004"
  | unknownSlotNode .. => "AST005"
  | reusedSlotNode .. => "AST006"
  | unresolvedImage .. => "AST007"
  | customSlot .. => "AST008"

/-- What holds of a design without this finding. -/
def guarantee : Finding → String
  | duplicateId .. => "Node ids are unique within one AST."
  | textWithChildren .. => "Text nodes are leaves; their children are never rendered."
  | badGeometry .. => "Geometry is finite and non-negative; other values render as 0."
  | frameSize .. => "The frame has a positive width and height."
  | unknownSlotNode .. => "Every slot points at a node of the tree."
  | reusedSlotNode .. => "A node id is bound to at most one slot."
  | unresolvedImage .. => "Image nodes arrive with a resolved asset URL."
  | customSlot .. => "Slot names outside the standard set are passed through verbatim."

def severity : Finding → Severity
  | duplicateId .. => .error
  | frameSize .. => .error
  | reusedSlotNode .. => .error
  | textWithChildren .. => .warning
  | badGeometry .. => .warning
  | unknownSlotNode .. => .warning
  | unresolvedImage .. => .warning
  | customSlot .. => .info

def amount (x : Float) : String := String.ofList (plainNumber.render x)

def message : Finding → String
  | duplicateId id => "Node id \"" ++ id ++ "\" appears more than once."
  | textWithChildren id n =>
    "Text node \"" ++ id ++ "\" has " ++ toString n ++ " children; they are ignored."
  | badGeometry id measures =>
    "Node \"" ++ id ++ "\" has invalid geometry: " ++
      ", ".intercalate (measures.map fun m => m.1 ++ "=" ++ amount m.2) ++ "."
  | frameSize w h => "Frame size " ++ amount w ++ "x" ++ amount h ++ " is not a positive box."
  | unknownSlotNode slot id => "Slot \"" ++ slot ++ "\" points at unknown node \"" ++ id ++ "\"."
  | reusedSlotNode id first second =>
    "Node \"" ++ id ++ "\" is bound to slots \"" ++ first ++ "\" and \"" ++ second ++ "\"."
  | unresolvedImage id => "Image node \"" ++ id ++ "\" has no resolved src; it renders as an empty box."
  | customSlot slot _ => "Slot \"" ++ slot ++ "\" is not a standard slot name."

/-- The node that a finding is about, which need not exist. -/
def nodeId? : Finding → Option String
  | duplicateId id => some id
  | textWithChildren id _ => some id
  | badGeometry id _ => some id
  | frameSize .. => none
  | unknownSlotNode _ id => some id
  | reusedSlotNode id .. => some id
  | unresolvedImage id => some id
  | customSlot _ id => some id

def hints : Finding → List String
  | frameSize .. => ["Export the top-level frame with its width and height."]
  | unresolvedImage .. => ["Run asset export before compiling."]
  | _ => []

def isError (f : Finding) : Bool := f.severity == .error

end Finding

def isPositiveSize (x : Float) : Bool := x.isFinite && x > 0

def checkFrame (f : Frame) : List Finding :=
  if isPositiveSize f.w && isPositiveSize f.h then [] else [.frameSize f.w f.h]

def isBadMeasure (x : Float) : Bool := !x.isFinite || x < 0

def checkText (n : Node) : List Finding :=
  if n.layer.text.isSome && !n.children.isEmpty then
    [.textWithChildren n.layer.id n.children.length]
  else []

def checkGeometry (l : Layer) : List Finding :=
  let bad := [("x", l.x), ("y", l.y), ("w", l.w), ("h", l.h)].filter fun m => isBadMeasure m.2
  if bad.isEmpty then [] else [.badGeometry l.id bad]

def checkImage (l : Layer) : List Finding :=
  if l.image.isSome && l.imageSrc.isNone && l.text.isNone then [.unresolvedImage l.id] else []

def checkNode (n : Node) : List Finding := checkText n ++ checkGeometry n.layer ++ checkImage n.layer

/-- Findings of nodes in order, `seen` being the ids of those before. -/
def checkNodes (seen : List String) : List Node → List Finding
  | [] => []
  | n :: ns =>
    (if n.layer.id ∈ seen then [.duplicateId n.layer.id] else []) ++ checkNode n ++
      checkNodes (n.layer.id :: seen) ns

/-- Findings of slots in order, `bound` being those before with the last in front. A reused node is reported
with the slot that it was bound to last. -/
def checkSlots (ids : List String) (bound : List (String × String)) :
    List (String × String) → List Finding
  | [] => []
  | (name, id) :: rest =>
    (if id ∈ ids then [] else [.unknownSlotNode name id]) ++
      ((bound.find? (·.2 == id)).map fun b => .reusedSlotNode id b.1 name).toList ++
      (if isStandardSlot name then [] else [.customSlot name id]) ++
      checkSlots ids ((name, id) :: bound) rest

def validate (a : Artboard) : List Finding :=
  let nodes := a.tree.walk
  checkFrame a.frame ++ checkNodes [] nodes ++
    checkSlots (nodes.map (·.layer.id)) [] a.slots.entries

end ResponsiveMarkup.Design
