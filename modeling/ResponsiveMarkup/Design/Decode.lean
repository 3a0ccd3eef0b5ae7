import ResponsiveMarkup.Design.Node
import ResponsiveMarkup.Json.Schema

/-!
Designs written as JSON. Kinds, alignments and fills may be spelled as a design tool spells them or in the
short form used here.
-/

namespace ResponsiveMarkup.Design

open Json Json.Reader

def Frame.schema : Schema (Reader (Frame → Frame)) Frame where
  title := "struct Frame"
  start := ⟨0, 0, 0, 0⟩
  fields :=
    [field "x" float fun v f => { f with x := v },
     field "y" float fun v f => { f with y := v },
     field "w" float fun v f => { f with w := v },
     field "h" float fun v f => { f with h := v }]

def Frame.reader (room : Nat) : Reader Frame := record "struct Frame" (inside room fun _ => schema)

def NodeKind.variants : List (Variant NodeKind) :=
  [⟨["COMPONENT", "COMPONENT_SET", "FRAME", "GROUP", "INSTANCE", "SECTION", "container"], .container⟩,
   ⟨["TEXT", "text"], .text⟩,
   ⟨["IMAGE", "image"], .image⟩,
   ⟨["BOOLEAN_OPERATION", "ELLIPSE", "LINE", "POLYGON", "RECTANGLE", "STAR", "VECTOR", "vector"], .vector⟩]

def TextAlign.variants : List (Variant TextAlign) :=
  [⟨["LEFT", "left"], .left⟩, ⟨["CENTER", "center"], .center⟩, ⟨["RIGHT", "right"], .right⟩,
   ⟨["JUSTIFIED", "justify"], .justify⟩]

def TextDecoration.variants : List (Variant TextDecoration) :=
  [⟨["NONE", "none"], .none⟩, ⟨["UNDERLINE", "underline"], .underline⟩,
   ⟨["STRIKETHROUGH", "line-through", "strikethrough"], .strikethrough⟩]

/-! ### Fills -/

def GradientStop.schema : Schema (Value → Except Fault (GradientStop → GradientStop)) GradientStop where
  title := "struct GradientStop"
  start := ⟨"", 0⟩
  fields :=
    [{ part "color" Value.text (fun v s => { s with color := v }) with required := true },
     part "position" Value.float fun v s => { s with position := v }]

def GradientStop.list : Value → Except Fault (List GradientStop) := Value.listOf (Value.record schema)

inductive FillKind where
  | solid
  | image
  | linearGradient
  | radialGradient
  | none
  | unsupported
  deriving DecidableEq, Repr

def FillKind.variants : List (Variant FillKind) :=
  [⟨["SOLID", "solid"], .solid⟩, ⟨["IMAGE", "image"], .image⟩,
   ⟨["GRADIENT_LINEAR", "linear-gradient"], .linearGradient⟩,
   ⟨["GRADIENT_RADIAL", "radial-gradient"], .radialGradient⟩, ⟨["NONE", "none"], .none⟩]

/-- A kind of fill without data: it ignores an object's members and takes no elements. -/
def bareFill (fill : Fill) : Value → Except Fault Fill
  | .list (v :: vs) => .error (.wrongLength (v :: vs).length (elementCount 0 ++ " in sequence"))
  | _ => .ok fill

/-- A fill of a known kind from its other members, or from its elements in order. -/
def Fill.ofValue (v : Value) : FillKind → Except Fault Fill
  | .solid =>
    let schema : Schema (Value → Except Fault (String × Option Float → String × Option Float))
        (String × Option Float) :=
      ⟨"struct variant Fill::Solid",
       [{ part "color" Value.text (fun v s => (v, s.2)) with required := true },
        part "opacity" (Value.optional Value.float) fun v s => (s.1, v)], ("", Option.none)⟩
    (Value.record schema v).map fun s => .solid s.1 s.2
  | .image =>
    let schema : Schema (Value → Except Fault (Option String → Option String)) (Option String) :=
      ⟨"struct variant Fill::Image", [part "src" (Value.optional Value.text) fun v _ => v], Option.none⟩
    (Value.record schema v).map .image
  | .linearGradient =>
    let schema : Schema (Value → Except Fault (Float × List GradientStop → Float × List GradientStop))
        (Float × List GradientStop) :=
      ⟨"struct variant Fill::LinearGradient",
       [part "angle" Value.float fun v s => (v, s.2),
        part "stops" GradientStop.list fun v s => (s.1, v)], (0, [])⟩
    (Value.record schema v).map fun s => .linearGradient s.1 s.2
  | .radialGradient =>
    let schema : Schema (Value → Except Fault (List GradientStop → List GradientStop))
        (List GradientStop) :=
      ⟨"struct variant Fill::RadialGradient", [part "stops" GradientStop.list fun v _ => v], []⟩
    (Value.record schema v).map .radialGradient
  | .none => bareFill .none v
  | .unsupported => bareFill .unsupported v

def FillKind.reader : Reader FillKind := do
  lift (chooseVariant variants (some .unsupported) (← textOf "variant identifier"))

/-- One member of a fill's object: its kind, or any other, kept for later. -/
def fillMember (room : Nat) (acc : Option FillKind × List (Text × Value)) (key : Text) :
    Reader (Option FillKind × List (Text × Value)) := do
  if key = "type".toList then
    if acc.1.isSome then fail (.duplicateField "type")
    else do
      colon
      return (some (← FillKind.reader), acc.2)
  else do
    colon
    let v ← value room
    return (acc.1, acc.2 ++ [(key, v)])

/-- A fill's kind may stand anywhere in its object, so the other members are kept until all are read. -/
def Fill.reader : Nat → Reader Fill
  | 0 => do
    match ← peek with
    | some '[' | some '\x7b' => fail .tooDeep
    | _ => unexpected "internally tagged enum Fill"
  | room + 1 => do
    match ← peek with
    | some '\x7b' => do
      let _ ← next
      let (kind, pairs) ← members (fillMember room) (Option.none, [])
      match kind with
      | Option.none => fail (.missingField "type")
      | some kind => do
        let _ ← next
        lift (ofValue (.object pairs) kind)
    | some '[' => do
      let _ ← next
      if ← hasElement true then
        let kind ← FillKind.reader
        let items ← moreElements (value room)
        endList
        lift (ofValue (.list items) kind)
      else fail (.missingField "type")
    | _ => unexpected "internally tagged enum Fill"

/-! ### Corners -/

def Corners.schema : Schema (Value → Except Fault (Corners → Corners)) Corners where
  title := "struct CornerRadii"
  start := ⟨0, 0, 0, 0⟩
  fields :=
    [{ part "tl" Value.float (fun v c => { c with topLeft := v }) with aliases := ["topLeft"] },
     { part "tr" Value.float (fun v c => { c with topRight := v }) with aliases := ["topRight"] },
     { part "br" Value.float (fun v c => { c with bottomRight := v }) with aliases := ["bottomRight"] },
     { part "bl" Value.float (fun v c => { c with bottomLeft := v }) with aliases := ["bottomLeft"] }]

/-- One number for all corners, or corners of their own. -/
def Radius.reader (room : Nat) : Reader Radius := do
  match ← value room with
  | .number n => return .uniform n.toFloat
  | v =>
    match Value.record Corners.schema v with
    | .ok c => return .corners c
    | .error _ => fail (.noShape "Radius")

/-! ### Records of a node -/

def Stroke.schema : Schema (Reader (Stroke → Stroke)) Stroke where
  title := "struct Stroke"
  start := ⟨0, none⟩
  fields :=
    [field "weight" float fun v s => { s with weight := v },
     field "color" (optional string) fun v s => { s with color := v }]

def Shadow.schema : Schema (Reader (Shadow → Shadow)) Shadow where
  title := "struct Shadow"
  start := ⟨false, 0, 0, 0, 0, none⟩
  fields :=
    [field "inner" bool fun v s => { s with inner := v },
     field "x" float fun v s => { s with x := v },
     field "y" float fun v s => { s with y := v },
     field "blur" float fun v s => { s with blur := v },
     field "spread" float fun v s => { s with spread := v },
     field "color" (optional string) fun v s => { s with color := v }]

def TextContent.schema (room : Nat) : Schema (Reader (TextContent → TextContent)) TextContent where
  title := "struct TextContent"
  start := ⟨"", none, none, none, none, none, .left, none, false, .none, false⟩
  fields :=
    [{ field "characters" string (fun v (t : TextContent) => { t with characters := v }) with
         aliases := ["raw", "content"] },
     field "fontFamily" (optional string) fun v t => { t with fontFamily := v },
     field "fontSize" (optional float) fun v t => { t with fontSize := v },
     field "fontWeight" (optional float) fun v t => { t with fontWeight := v },
     field "lineHeight" (optional float) fun v t => { t with lineHeight := v },
     field "letterSpacing" (optional float) fun v t => { t with letterSpacing := v },
     field "align" (variant room TextAlign.variants none) fun v t => { t with align := v },
     field "color" (optional string) fun v t => { t with color := v },
     field "italic" bool fun v t => { t with italic := v },
     field "decoration" (variant room TextDecoration.variants none) fun v t => { t with decoration := v },
     field "uppercase" bool fun v t => { t with uppercase := v }]

def ImageAsset.schema : Schema (Reader (ImageAsset → ImageAsset)) ImageAsset where
  title := "struct ImageAsset"
  start := ⟨none, none, none⟩
  fields :=
    [field "src" (optional string) fun v i => { i with src := v },
     field "width" (optional float) fun v i => { i with width := v },
     field "height" (optional float) fun v i => { i with height := v }]

def Actions.schema : Schema (Reader (Actions → Actions)) Actions where
  title := "struct NodeActions"
  start := ⟨none, false⟩
  fields :=
    [field "url" (optional string) fun v a => { a with url := v },
     field "clickable" bool fun v a => { a with clickable := v }]

/-- A layer of which only the id is given. -/
def Layer.plain (id : String) : Layer where
  id := id
  name := ""
  kind := .container
  visible := true
  x := 0
  y := 0
  w := 0
  h := 0
  fills := []
  radius := none
  stroke := none
  shadows := []
  opacity := 1
  blendMode := none
  text := none
  image := none
  actions := none

/-- The fields of a node, the reader of its children being given. -/
def Node.schema (room : Nat) (children : Reader (List Node)) :
    Schema (Reader (Layer × List Node → Layer × List Node)) (Layer × List Node) :=
  let on {α : Type} (name : String) (read : Reader α) (set : α → Layer → Layer) :
      RecordField (Reader (Layer × List Node → Layer × List Node)) :=
    field name read fun v n => (set v n.1, n.2)
  { title := "struct DesignNode"
    start := (Layer.plain "", [])
    fields :=
      [{ on "id" string (fun v l => { l with id := v }) with required := true },
       on "name" string fun v l => { l with name := v },
       on "type" (variant room NodeKind.variants (some .unknown)) fun v l => { l with kind := v },
       on "visible" bool fun v l => { l with visible := v },
       on "x" float fun v l => { l with x := v },
       on "y" float fun v l => { l with y := v },
       on "w" float fun v l => { l with w := v },
       on "h" float fun v l => { l with h := v },
       on "fills" (list (inside room Fill.reader)) fun v l => { l with fills := v },
       on "radius" (optional (Radius.reader room)) fun v l => { l with radius := v },
       on "stroke" (optional (record "struct Stroke" (inside room fun _ => Stroke.schema)))
         fun v l => { l with stroke := v },
       on "shadows"
         (list (inside room fun r => record "struct Shadow" (inside r fun _ => Shadow.schema)))
         fun v l => { l with shadows := v },
       on "opacity" float fun v l => { l with opacity := v },
       on "blendMode" (optional string) fun v l => { l with blendMode := v },
       on "text" (optional (record "struct TextContent" (inside room TextContent.schema)))
         fun v l => { l with text := v },
       on "image" (optional (record "struct ImageAsset" (inside room fun _ => ImageAsset.schema)))
         fun v l => { l with image := v },
       on "actions" (optional (record "struct NodeActions" (inside room fun _ => Actions.schema)))
         fun v l => { l with actions := v },
       field "children" children fun v n => (n.1, v)] }

/-- A node with room for a number of levels. A list of children takes one level and each child another. -/
def Node.reader : Nat → Reader Node
  | 0 => do
    let n ← record "struct DesignNode" (none : Option (Schema (Reader (Layer × List Node → _)) _))
    return .mk n.1 n.2
  | 1 => do
    let n ← record "struct DesignNode" (some (Node.schema 0 (list none)))
    return .mk n.1 n.2
  | room + 2 => do
    let n ← record "struct DesignNode" (some (Node.schema (room + 1) (list (some (Node.reader room)))))
    return .mk n.1 n.2

/-- A map from names to names; the last value of a key counts. -/
def nameMap (room : Nat) : Reader NameMap :=
  mapOf (inside room fun _ => string) (fun m k v => m.insert (String.ofList k) v) NameMap.empty

def Artboard.schema (room : Nat) : Schema (Reader (Artboard → Artboard)) Artboard where
  title := "struct DesignAst"
  start := ⟨⟨0, 0, 0, 0⟩, .mk (Layer.plain "") [], NameMap.empty⟩
  fields :=
    [requiredField "frame" (Frame.reader room) fun v a => { a with frame := v },
     requiredField "tree" (Node.reader room) fun v a => { a with tree := v },
     field "slots" (nameMap room) fun v a => { a with slots := v }]

def Artboard.reader (room : Nat) : Reader Artboard := record "struct DesignAst" (inside room schema)

def Artboard.ofJson (s : Text) : Except Fault Artboard := Reader.parse (reader maxNesting) s

def Node.ofJson (s : Text) : Except Fault Node := Reader.parse (reader maxNesting) s

def Frame.ofJson (s : Text) : Except Fault Frame := Reader.parse (reader maxNesting) s

end ResponsiveMarkup.Design
