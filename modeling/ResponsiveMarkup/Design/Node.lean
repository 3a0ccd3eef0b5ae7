import ResponsiveMarkup.Design.NameMap
import ResponsiveMarkup.Text.Search

/-!
Designs: a frame, a tree of nodes with their geometry, decoration and content, and the slots that name some of
the nodes. A design is input only; nothing here changes one.
-/

namespace ResponsiveMarkup.Design

structure Frame where
  x : Float
  y : Float
  w : Float
  h : Float

inductive NodeKind where
  | container
  | text
  | image
  | vector
  /-- Any other kind; drawn as a plain box. -/
  | unknown
  deriving DecidableEq, Repr

structure GradientStop where
  color : String
  position : Float

inductive Fill where
  | solid (color : String) (opacity : Option Float)
  | image (src : Option String)
  | linearGradient (angle : Float) (stops : List GradientStop)
  | radialGradient (stops : List GradientStop)
  | none
  | unsupported

structure Corners where
  topLeft : Float
  topRight : Float
  bottomRight : Float
  bottomLeft : Float

inductive Radius where
  | uniform (r : Float)
  | corners (c : Corners)

def Radius.toCorners : Radius → Corners
  | uniform r => ⟨r, r, r, r⟩
  | corners c => c

structure Stroke where
  weight : Float
  color : Option String

structure Shadow where
  inner : Bool
  x : Float
  y : Float
  blur : Float
  spread : Float
  color : Option String

inductive TextAlign where
  | left
  | center
  | right
  | justify
  deriving DecidableEq, Repr

inductive TextDecoration where
  | none
  | underline
  | strikethrough
  deriving DecidableEq, Repr

structure TextContent where
  characters : String
  fontFamily : Option String
  fontSize : Option Float
  fontWeight : Option Float
  lineHeight : Option Float
  letterSpacing : Option Float
  align : TextAlign
  color : Option String
  italic : Bool
  decoration : TextDecoration
  uppercase : Bool

structure ImageAsset where
  src : Option String
  width : Option Float
  height : Option Float

structure Actions where
  url : Option String
  clickable : Bool

/-- All of a node but its children. Positions are absolute. -/
structure Layer where
  id : String
  name : String
  kind : NodeKind
  visible : Bool
  x : Float
  y : Float
  w : Float
  h : Float
  fills : List Fill
  radius : Option Radius
  stroke : Option Stroke
  shadows : List Shadow
  opacity : Float
  blendMode : Option String
  text : Option TextContent
  image : Option ImageAsset
  actions : Option Actions

/-- A layer with the nodes inside it. -/
inductive Node where
  | mk (layer : Layer) (children : List Node)

structure Artboard where
  frame : Frame
  tree : Node
  slots : NameMap

namespace Layer

open Text

/-- A text without the blanks around it, if anything is left. -/
def trimmed? (s : String) : Option Text :=
  let t := trim s.toList
  if t.isEmpty then none else some t

/-- Where the node's image is found. -/
def imageSrc (l : Layer) : Option Text := do trimmed? (← (← l.image).src)

def actionUrl (l : Layer) : Option Text := do trimmed? (← (← l.actions).url)

/-- The key in a `[key:…]` annotation of the name. Only the first annotation counts. -/
def keyAnnotation (l : Layer) : Option Text := do
  let (_, rest) ← breakOn "[key:".toList l.name.toList
  let (inside, _) ← breakOn [']'] rest
  trimmed? (String.ofList inside)

def ownText (l : Layer) : Option Text := do trimmed? (← l.text).characters

end Layer

namespace Node

def layer : Node → Layer
  | mk l _ => l

def children : Node → List Node
  | mk _ cs => cs

mutual

/-- The first text in a node, depth first, hidden children left out. -/
def firstText : Node → Option Text
  | mk l cs =>
    match l.ownText with
    | some t => some t
    | none => firstTextAmong cs

def firstTextAmong : List Node → Option Text
  | [] => none
  | n :: ns =>
    match if n.layer.visible then firstText n else none with
    | some t => some t
    | none => firstTextAmong ns

end

mutual

/-- How many nodes a tree has. -/
def size : Node → Nat
  | mk _ cs => sizeAll cs + 1

def sizeAll : List Node → Nat
  | [] => 0
  | n :: ns => size n + sizeAll ns

end

theorem sizeAll_append (ns ms : List Node) : sizeAll (ns ++ ms) = sizeAll ns + sizeAll ms := by
  induction ns with
  | nil => simp [sizeAll]
  | cons n ns ih => simp [sizeAll, ih, Nat.add_assoc]

/-- The nodes below those on a stack: the top one comes next, and its children go on top of the others. -/
def walkFrom : List Node → List Node
  | [] => []
  | mk l cs :: stack => mk l cs :: walkFrom (cs ++ stack)
termination_by stack => sizeAll stack
decreasing_by simp only [sizeAll_append, sizeAll, size]; omega

/-- A node and all nodes below it, parents before children and siblings in order. -/
def walk (n : Node) : List Node := walkFrom [n]

end Node

end ResponsiveMarkup.Design
