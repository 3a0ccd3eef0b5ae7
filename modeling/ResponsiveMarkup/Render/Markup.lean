import ResponsiveMarkup.Markup.ClassList
import ResponsiveMarkup.Markup.Escape
import ResponsiveMarkup.Markup.Names
import ResponsiveMarkup.Render.Tag
import ResponsiveMarkup.Slot
import ResponsiveMarkup.Style.Box
import ResponsiveMarkup.Style.Typeface
import ResponsiveMarkup.Text.Lines

/-!
Drawing a design as markup. Each visible node becomes one element that carries the node's id: a slot holds its
marker and nothing else, a text its lines, a picture is an element without a body, and every other node is a
box around its children.
-/

namespace ResponsiveMarkup.Render

open Design Style Text

structure Options where
  /-- Put the whole tree into a box of the frame's size. -/
  frameWrapper : Bool
  /-- Ask for pictures to be loaded late. -/
  lazyImages : Bool
  /-- Node ids with the tags that an annotation chose for them. -/
  semanticTags : NameMap

def Options.standard : Options := ⟨true, true, NameMap.empty⟩

/-- What the tree is drawn with. -/
structure Context where
  frame : Frame
  slots : SlotIndex
  options : Options

/-- The four ways a node is drawn, the first that fits being taken. -/
inductive Drawing where
  | slot (name : Text)
  | text (content : TextContent)
  | picture (src : Text)
  | box

def drawing (slots : SlotIndex) (l : Layer) : Drawing :=
  match slots.resolve? l.id, l.text, l.imageSrc with
  | some name, _, _ => .slot name
  | none, some content, _ => .text content
  | none, none, some src => if l.kind = .container then .box else .picture src
  | none, none, none => .box

def writeAttribute (name value : Text) : Text :=
  ' ' :: name ++ "=\"".toList ++ escapeAttr value ++ ['"']

def openTag (tag : Text) (attributes : List (Text × Text)) (selfClosing : Bool) : Text :=
  '<' :: tag ++ attributes.flatMap (fun a => writeAttribute a.1 a.2) ++
    (if selfClosing then " />".toList else ['>'])

def closeTag (tag : Text) : Text := "</".toList ++ tag ++ ['>']

/-- The attributes of an element: its node, its key, its classes and then the others. -/
def elementAttributes (id : String) (key : Option Text) (tokens : List Text)
    (others : List (Text × Text)) : List (Text × Text) :=
  let value := classValue tokens
  (Names.nodeId, id.toList) :: (key.map fun k => (Names.key, k)).toList ++
    (if value.isEmpty then [] else [(Names.classes, value)]) ++ others

/-- An annotation only counts for a tag that is no link and no button. -/
def tagFor (options : Options) (l : Layer) (kind : TagKind) : Text :=
  if kind.isInteractive then kind.tagName
  else ((options.semanticTags.get? l.id).bind semanticTag?).getD kind.tagName

/-- What makes a link lead somewhere, a button inert in a form, and a box readable by its first text. -/
def interactiveAttributes (n : Node) (kind : TagKind) (labelled : Bool) : List (Text × Text) :=
  let label :=
    if labelled then (n.firstText.map fun t => ("aria-label".toList, t)).toList else []
  match kind with
  | .link => (n.layer.actionUrl.map fun url => ("href".toList, url)).toList ++ label
  | .button => ("type".toList, "button".toList) :: label
  | .container => []

/-- A size in whole pixels, halves away from zero, as far as 64 bits go. -/
def wholePixels (x : Float) : Text :=
  match Binary64.ofFloat x with
  | .finite _ m q =>
    let (num, den) := Binary64.fraction m q 0
    Nat.toDigits 10 (min (roundDiv .away num den) (Nat.pow 2 64 - 1))
  | _ => ['0']

/-- The size that a picture is reserved, if both sides are known. -/
def sizeAttributes (image : Option ImageAsset) : List (Text × Text) :=
  match image.bind (·.width), image.bind (·.height) with
  | some w, some h =>
    if isPositive w && isPositive h then
      [("width".toList, wholePixels w), ("height".toList, wholePixels h)]
    else []
  | _, _ => []

def pictureAttributes (options : Options) (l : Layer) (src : Text) : List (Text × Text) :=
  [("src".toList, src), ("alt".toList, l.name.toList)] ++
    (if options.lazyImages then
      [("loading".toList, "lazy".toList), ("decoding".toList, "async".toList)] else []) ++
    sizeAttributes l.image

/-- The lines of a text, or a marker where there is nothing to read. -/
def textBody (l : Layer) (content : TextContent) : Text :=
  if isBlankText content.characters.toList then comment ("text:".toList ++ l.id.toList)
  else joinWith "<br />".toList ((lines content.characters.toList).map escapeText)

def layerTokens (c : Context) (l : Layer) : List Text := boxTokens l c.frame ++ decorationTokens l

/-- A container's picture lies behind its children. -/
def backdropTokens (l : Layer) : List Text :=
  if l.kind = .container then (l.imageSrc.map pictureTokens).getD [] else []

mutual

def renderNode (c : Context) (insideInteractive : Bool) : Node → Text
  | .mk l cs =>
    if l.visible then
      match drawing c.slots l with
      | .slot name =>
        let attributes := elementAttributes l.id (some (slotKey name)) (boxTokens l c.frame)
          [(Names.slot, name)]
        openTag "div".toList attributes false ++ comment (slotMarker name) ++ closeTag "div".toList
      | .text content =>
        let kind := pickTag l insideInteractive
        let tag := tagFor c.options l kind
        let attributes := elementAttributes l.id l.keyAnnotation (layerTokens c l ++ textTokens content)
          (interactiveAttributes (.mk l cs) kind false)
        openTag tag attributes false ++ textBody l content ++ closeTag tag
      | .picture src =>
        let attributes := elementAttributes l.id l.keyAnnotation (layerTokens c l)
          (pictureAttributes c.options l src)
        openTag "img".toList attributes true
      | .box =>
        let kind := pickTag l insideInteractive
        let tag := tagFor c.options l kind
        let attributes := elementAttributes l.id l.keyAnnotation
          (dedupe (layerTokens c l ++ backdropTokens l)) (interactiveAttributes (.mk l cs) kind true)
        openTag tag attributes false ++ renderAll c (insideInteractive || kind.isInteractive) cs ++
          closeTag tag
    else []

def renderAll (c : Context) (insideInteractive : Bool) : List Node → Text
  | [] => []
  | n :: ns => renderNode c insideInteractive n ++ renderAll c insideInteractive ns

end

/-- The tree on its own. -/
def renderTree (a : Artboard) (options : Options) : Text :=
  renderNode ⟨a.frame, SlotIndex.ofSlots a.slots, options⟩ false a.tree

def frameNodeId : String := "__frame"

def frameKey : Text := "frame-root".toList

/-- The tree inside its frame, unless the options do without one. -/
def render (a : Artboard) (options : Options) : Text :=
  let body := renderTree a options
  if options.frameWrapper then
    openTag "div".toList (elementAttributes frameNodeId (some frameKey) (frameTokens a.frame) []) false ++
      body ++ closeTag "div".toList
  else body

end ResponsiveMarkup.Render
