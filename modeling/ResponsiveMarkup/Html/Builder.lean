import ResponsiveMarkup.Html.Classes
import ResponsiveMarkup.Html.Lexer

/-!
What an HTML tree grows from: the open elements, the formatting elements that may have to be opened again, and
the moves that all insertion modes share.
-/

namespace ResponsiveMarkup.Html

inductive InsertionMode where
  | initial
  | beforeHtml
  | beforeHead
  | inHead
  | afterHead
  | inBody
  | inText
  | inTable
  | inTableText
  | inCaption
  | inColumnGroup
  | inTableBody
  | inRow
  | inCell
  | inSelect
  | inSelectInTable
  | inTemplate
  | afterBody
  | inFrameset
  | afterFrameset
  | afterAfterBody
  | afterAfterFrameset
  deriving DecidableEq, Repr

structure OpenElement where
  id : NodeId
  element : Element

/-- A formatting element with the tag that makes it again, or a mark that nothing outside of it is. -/
inductive Formatting where
  | mark
  | element (id : NodeId) (tag : Tag)

structure Builder where
  tree : Tree
  mode : InsertionMode
  /-- The mode to go on in after text. -/
  resumeMode : InsertionMode
  /-- Modes of the open templates, the innermost first. -/
  templateModes : List InsertionMode
  /-- Innermost first. -/
  openElements : List OpenElement
  /-- The last one first. -/
  formatting : List Formatting
  head : Option OpenElement
  form : Option NodeId
  /-- Whether frames may still take the place of the body. -/
  framesetAllowed : Bool
  /-- Whether the rules of old browsers hold. -/
  oldRules : Bool
  /-- Whether what does not belong into a table goes in front of it. -/
  fostering : Bool
  /-- Whether a line feed right now would be dropped. -/
  dropsNewline : Bool
  /-- Characters found between the parts of a table. -/
  tableText : List Char

namespace Builder

def start : Builder where
  tree := Tree.empty
  mode := .initial
  resumeMode := .inBody
  templateModes := []
  openElements := []
  formatting := []
  head := none
  form := none
  framesetAllowed := true
  oldRules := false
  fostering := false
  dropsNewline := false
  tableText := []

def current? (b : Builder) : Option OpenElement := b.openElements.head?

def currentIs (b : Builder) (p : Element → Bool) : Bool := b.current?.any (p ·.element)

def currentNamed (b : Builder) (name : String) : Bool := b.currentIs (·.isNamed name)

/-- Whether an element is open that nothing in between closes off. -/
def inScopeWhere (ends : Element → Bool) (p : OpenElement → Bool) : List OpenElement → Bool
  | [] => false
  | o :: os => p o || (!ends o.element && inScopeWhere ends p os)

def inScope (b : Builder) (ends : Element → Bool) (p : Element → Bool) : Bool :=
  inScopeWhere ends (p ·.element) b.openElements

def inScopeNamed (b : Builder) (ends : Element → Bool) (name : String) : Bool :=
  b.inScope ends (·.isNamed name)

def insideTemplate (b : Builder) : Bool := b.openElements.any (·.element.isNamed "template")

/-! ### Closing elements -/

def pop (b : Builder) : Builder := { b with openElements := b.openElements.drop 1 }

/-- Close elements while the innermost is one of these. -/
def popWhile (b : Builder) (p : Element → Bool) : Builder :=
  { b with openElements := b.openElements.dropWhile (p ·.element) }

/-- Close elements up to the first of these, and that one too. -/
def popThrough (b : Builder) (p : Element → Bool) : Builder :=
  { b with openElements := (b.openElements.dropWhile (!p ·.element)).drop 1 }

def popThroughNamed (b : Builder) (name : String) : Builder := b.popThrough (·.isNamed name)

/-- Close elements until the innermost is one of these. -/
def popTo (b : Builder) (p : Element → Bool) : Builder := b.popWhile (!p ·)

/-- Close what closes itself, but no element of this name. -/
def closeImpliedExcept (b : Builder) (name : String) : Builder :=
  b.popWhile fun e => e.closesItself && e.name != name

def closeImplied (b : Builder) : Builder := b.popWhile (·.closesItself)

def closeParagraph (b : Builder) : Builder := (b.closeImpliedExcept "p").popThroughNamed "p"

/-- Close a paragraph that is open, if a button does not close it off. -/
def closeOpenParagraph (b : Builder) : Builder :=
  if b.inScopeNamed Element.endsButtonScope "p" then b.closeParagraph else b

def dropOpen (b : Builder) (id : NodeId) : Builder :=
  { b with openElements := b.openElements.filter (·.id != id) }

/-! ### Inserting nodes -/

inductive Place where
  | lastIn (parent : NodeId)
  /-- In front of a table, or last in the element around it when the table is in no parent. -/
  | before (table around : NodeId)

/-- The place in front of the innermost table, or in the innermost template. -/
def fosterPlace : List OpenElement → Place
  | [] => .lastIn Tree.root
  | [o] => .lastIn o.id
  | o :: around :: os =>
    if o.element.isNamed "template" then .lastIn o.id
    else if o.element.isNamed "table" then .before o.id around.id
    else fosterPlace (around :: os)

/-- Where something belongs that is to stand in this element. -/
def placeIn (b : Builder) (target : OpenElement) : Place :=
  if b.fostering && target.element.isTablePart then fosterPlace b.openElements else .lastIn target.id

def placeHere (b : Builder) : Place :=
  match b.current? with
  | some o => b.placeIn o
  | none => .lastIn Tree.root

def put (b : Builder) (place : Place) (id : NodeId) : Builder :=
  { b with tree :=
      match place with
      | .lastIn parent => b.tree.append parent id
      | .before table around =>
        match b.tree.parent? table with
        | some parent => b.tree.insertBefore parent table id
        | none => b.tree.append around id }

def create (b : Builder) (content : NodeContent) : NodeId × Builder :=
  let (id, tree) := b.tree.create content
  (id, { b with tree := tree })

def addComment (b : Builder) (place : Place) (body : Text) : Builder :=
  let (id, b) := b.create (.comment body)
  b.put place id

def addCommentHere (b : Builder) (body : Text) : Builder := b.addComment b.placeHere body

/-- A new element in its place, not open yet. -/
def addElement (b : Builder) (e : Element) : OpenElement × Builder :=
  let place := b.placeHere
  let (id, b) := b.create (.element e)
  (⟨id, e⟩, b.put place id)

def opened (b : Builder) (o : OpenElement) : Builder :=
  { b with openElements := o :: b.openElements }

def htmlElement (tag : Tag) : Element := ⟨.html, tag.name, tag.attributes⟩

/-- Insert an element and leave it open. -/
def insertElement (b : Builder) (e : Element) : Builder :=
  let (o, b) := b.addElement e
  b.opened o

def insert (b : Builder) (tag : Tag) : Builder := b.insertElement (htmlElement tag)

/-- Insert an element that stays empty. -/
def insertEmpty (b : Builder) (tag : Tag) : Builder := (b.addElement (htmlElement tag)).2

/-- Insert an element that no tag is written for. -/
def insertImplied (b : Builder) (name : String) : Builder := b.insert ⟨name, [], false⟩

def forbidFrameset (b : Builder) : Builder := { b with framesetAllowed := false }

/-! ### Formatting -/

def mark (b : Builder) : Builder := { b with formatting := .mark :: b.formatting }

def Formatting.isMark : Formatting → Bool
  | .mark => true
  | .element .. => false

def Formatting.isFor (id : NodeId) : Formatting → Bool
  | .mark => false
  | .element i _ => i == id

/-- Forget the formatting elements up to the last mark, and the mark. -/
def clearToMark (b : Builder) : Builder :=
  { b with formatting := (b.formatting.dropWhile (!Formatting.isMark ·)).drop 1 }

/-- The formatting elements since the last mark, the last one first. -/
def sinceMark : List Formatting → List (NodeId × Tag)
  | [] => []
  | .mark :: _ => []
  | .element id tag :: rest => (id, tag) :: sinceMark rest

def isFormatting (b : Builder) (id : NodeId) : Bool := b.formatting.any (Formatting.isFor id)

def isOpen (b : Builder) (id : NodeId) : Bool := b.openElements.any (·.id == id)

def dropFormatting (b : Builder) (id : NodeId) : Builder :=
  { b with formatting := b.formatting.filter (!Formatting.isFor id ·) }

def replaceFormatting (b : Builder) (id : NodeId) (new : List Formatting) : Builder :=
  { b with formatting := b.formatting.flatMap fun f => if Formatting.isFor id f then new else [f] }

/-- Whether there is nothing to open again at this entry. -/
def isSettled (b : Builder) : Formatting → Bool
  | .mark => true
  | .element id _ => b.isOpen id

/-- Open formatting elements again, the first one outermost. -/
def reopen (b : Builder) : List Formatting → Builder
  | [] => b
  | .mark :: rest => reopen b rest
  | .element id tag :: rest =>
    let (o, b) := b.addElement (htmlElement tag)
    reopen ((b.opened o).replaceFormatting id [.element o.id tag]) rest

/-- Open again the formatting elements that were closed since the last one that is settled. -/
def reconstruct (b : Builder) : Builder :=
  b.reopen (b.formatting.takeWhile fun f => !b.isSettled f).reverse

/-- Insert a formatting element. Of four alike since the last mark the first is forgotten. -/
def insertFormatting (b : Builder) (tag : Tag) : Builder :=
  let alike := (sinceMark b.formatting).filter fun f => f.2.sameFormatting tag
  let b := match alike[2]? with
    | some _ => match alike.getLast? with
      | some (id, _) => b.dropFormatting id
      | none => b
    | none => b
  let (o, b) := b.addElement (htmlElement tag)
  { b.opened o with formatting := .element o.id tag :: b.formatting }

/-! ### End tags -/

/-- Close the innermost element of a name, if no special element is in between. -/
def closeOther (b : Builder) (name : String) : Builder :=
  match b.openElements.find? fun o => o.element.isNamed name || o.element.isSpecial with
  | some o =>
    if o.element.isNamed name then
      let b := b.closeImpliedExcept name
      { b with openElements := (b.openElements.dropWhile (·.id != o.id)).drop 1 }
    else b
  | none => b

/-! ### Formatting that overlaps blocks -/

/-- How far the rebuilding of a chain of formatting elements has come: the node to hang in next, and the
place of the new formatting entry: after this one, if any. -/
structure Rebuilding where
  builder : Builder
  last : NodeId
  after : Option NodeId

/-- Go outwards over the elements between a block and a formatting element: each formatting element, up to the
third, is made again around what was built so far; all others are closed. -/
def rebuildChain (block : NodeId) : Nat → List OpenElement → Rebuilding → Rebuilding
  | _, [], r => r
  | count, o :: os, r =>
    let b := r.builder
    match b.formatting.find? (Formatting.isFor o.id) with
    | some (.element _ tag) =>
      if 3 < count then
        rebuildChain block (count + 1) os { r with builder := (b.dropFormatting o.id).dropOpen o.id }
      else
        let (id, b) := b.create (.element (htmlElement tag))
        let b := b.replaceFormatting o.id [.element id tag]
        let replaced := b.openElements.map fun p => if p.id = o.id then ⟨id, htmlElement tag⟩ else p
        let tree := (b.tree.detach r.last).append id r.last
        rebuildChain block (count + 1) os
          { builder := { b with openElements := replaced, tree := tree }
            last := id
            after := if r.last = block then some id else r.after }
    | _ => rebuildChain block (count + 1) os { r with builder := b.dropOpen o.id }

/-- Put a new element right inside an open one. -/
def openWithin (b : Builder) (outer : NodeId) (o : OpenElement) : Builder :=
  { b with openElements := b.openElements.flatMap fun p => if p.id = outer then [o, p] else [p] }

/-- Take a block out of a formatting element that ends inside it: the elements between are made again around
the block, the block moves out, and a copy of the formatting element takes over the block's content. -/
def liftBlock (b : Builder) (fmt : NodeId) (tag : Tag) (block ancestor : OpenElement)
    (between : List OpenElement) : Builder :=
  let r := rebuildChain block.id 1 between ⟨b, block.id, none⟩
  let b := { r.builder with tree := r.builder.tree.detach r.last }
  let b := b.put (b.placeIn ancestor) r.last
  let (copy, b) := b.create (.element (htmlElement tag))
  let b := { b with tree := (b.tree.moveChildren block.id copy).append block.id copy }
  let entry := Formatting.element copy tag
  let b := match r.after with
    | none => b.replaceFormatting fmt [entry]
    | some id =>
      { b with formatting := (b.formatting.filter (!Formatting.isFor fmt ·)).flatMap fun f =>
          if Formatting.isFor id f then [entry, f] else [f] }
  (b.dropOpen fmt).openWithin block.id ⟨copy, htmlElement tag⟩

/-- End the innermost formatting element of a name, as often as there is one and at most so many times. -/
def endFormattingSteps (name : String) : Nat → Builder → Builder
  | 0, b => b
  | n + 1, b =>
    match (sinceMark b.formatting).find? fun f => f.2.name == name with
    | none => b.closeOther name
    | some (fmt, tag) =>
      if !b.isOpen fmt then b.dropFormatting fmt
      else if !inScopeWhere Element.endsScope (·.id == fmt) b.openElements then b
      else
        let inside := b.openElements.takeWhile (·.id != fmt)
        let outside := (b.openElements.dropWhile (·.id != fmt)).drop 1
        match inside.reverse.find? (·.element.isSpecial), outside with
        | some block, ancestor :: _ =>
          let between := (inside.dropWhile (·.id != block.id)).drop 1
          endFormattingSteps name n (b.liftBlock fmt tag block ancestor between)
        | _, _ => { b with openElements := outside }.dropFormatting fmt

/-- The end tag of a formatting element. -/
def endFormatting (b : Builder) (name : String) : Builder :=
  if b.currentNamed name && b.current?.all (fun o => !b.isFormatting o.id) then b.pop
  else endFormattingSteps name 8 b

/-- A link does not stand in a link: one that is open ends here. -/
def endOpenLink (b : Builder) : Builder :=
  match (sinceMark b.formatting).find? fun f => f.2.name == "a" with
  | none => b
  | some (id, _) => ((b.endFormatting "a").dropFormatting id).dropOpen id

/-! ### The mode that the open elements ask for -/

/-- A select in a table, unless a template is in between. -/
def selectMode : List OpenElement → InsertionMode
  | [] => .inSelect
  | o :: os =>
    if o.element.isNamed "template" then .inSelect
    else if o.element.isNamed "table" then .inSelectInTable
    else selectMode os

def modeFor (b : Builder) : List OpenElement → InsertionMode
  | [] => .inBody
  | o :: os =>
    if o.element.space != .html then modeFor b os
    else
      match o.element.name with
      | "select" => selectMode os
      | "td" | "th" => if os.isEmpty then modeFor b os else .inCell
      | "tr" => .inRow
      | "tbody" | "thead" | "tfoot" => .inTableBody
      | "caption" => .inCaption
      | "colgroup" => .inColumnGroup
      | "table" => .inTable
      | "template" => b.templateModes.headD .inTemplate
      | "head" => if os.isEmpty then modeFor b os else .inHead
      | "body" => .inBody
      | "frameset" => .inFrameset
      | "html" => if b.head.isSome then .afterHead else .beforeHead
      | _ => modeFor b os

/-- The mode after an element was closed that had one of its own. -/
def resetMode (b : Builder) : Builder := { b with mode := b.modeFor b.openElements }

end Builder

end ResponsiveMarkup.Html
