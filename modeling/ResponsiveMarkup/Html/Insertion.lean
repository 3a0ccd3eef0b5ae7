import ResponsiveMarkup.Html.Builder
import ResponsiveMarkup.Html.OldDoctype

/-!
What each insertion mode makes of a token. A mode may hand the token on: to the rules of another mode, or back
to be taken again in the mode that the tree is in by then.
-/

namespace ResponsiveMarkup.Html

open Text

inductive Insertion where
  | done (b : Builder)
  /-- The token is to be taken again. -/
  | again (b : Builder)
  /-- The text that follows is to be read in a mode of its own. -/
  | reading (mode : LexMode) (b : Builder)

namespace Builder

/-- The token is taken again in a mode. -/
def againIn (b : Builder) (mode : InsertionMode) : Insertion := .again { b with mode := mode }

def goTo (b : Builder) (mode : InsertionMode) : Insertion := .done { b with mode := mode }

/-- An element whose content is text only. -/
def insertText (b : Builder) (tag : Tag) (mode : LexMode) : Insertion :=
  .reading mode { b.insert tag with resumeMode := b.mode, mode := .inText }

def isHidden (tag : Tag) : Bool := (tag.attribute? "type").any (sameName · "hidden".toList)

/-! ### Before the body -/

def inInitial (b : Builder) : Token → Insertion
  | .char c => if isSyntaxBlank c then .done b else { b with oldRules := true }.againIn .beforeHtml
  | .comment body => .done (b.addComment (.lastIn Tree.root) body)
  | .doctype d => { b with oldRules := d.isOld }.goTo .beforeHtml
  | _ => { b with oldRules := true }.againIn .beforeHtml

/-- The root element. -/
def insertHtml (b : Builder) (tag : Tag) : Builder :=
  let (id, b) := b.create (.element (htmlElement tag))
  (b.put (.lastIn Tree.root) id).opened ⟨id, htmlElement tag⟩

/-- End tags that count as the end of what they name even where it was never begun. -/
def startsBody (tag : Tag) : Bool := ["head", "body", "html", "br"].contains tag.name

def inBeforeHtml (b : Builder) (token : Token) : Insertion :=
  let implied := (b.insertHtml ⟨"html", [], false⟩).againIn .beforeHead
  match token with
  | .char c => if isSyntaxBlank c then .done b else implied
  | .comment body => .done (b.addComment (.lastIn Tree.root) body)
  | .startTag tag => if tag.name = "html" then (b.insertHtml tag).goTo .beforeHead else implied
  | .endTag tag => if startsBody tag then implied else .done b
  | _ => implied

/-- The head, which is remembered. -/
def insertHead (b : Builder) (tag : Tag) : Builder :=
  let b := b.insert tag
  { b with head := b.current? }

def inBeforeHead (b : Builder) (token : Token) : Insertion :=
  let implied := (b.insertHead ⟨"head", [], false⟩).againIn .inHead
  match token with
  | .char c => if isSyntaxBlank c then .done b else implied
  | .comment body => .done (b.addCommentHere body)
  | .startTag tag =>
    if tag.name = "html" then .done b
    else if tag.name = "head" then (b.insertHead tag).goTo .inHead
    else implied
  | .endTag tag => if startsBody tag then implied else .done b
  | _ => implied

def endTemplate (b : Builder) : Builder :=
  if b.insideTemplate then
    let b := ((b.popWhile (·.closesItselfInTemplate)).popThroughNamed "template").clearToMark
    { b with templateModes := b.templateModes.drop 1 }.resetMode
  else b

/-- The elements that may stand in a head, wherever they stand. -/
def headElement (b : Builder) (tag : Tag) : Insertion :=
  match tag.name with
  | "title" => b.insertText tag (.escapable tag.name)
  | "noframes" | "style" | "noscript" => b.insertText tag (.raw tag.name)
  | "script" => b.insertText tag (.script tag.name .plain 0)
  | "template" =>
    let b := (b.insert tag).mark.forbidFrameset
    { b with templateModes := .inTemplate :: b.templateModes }.goTo .inTemplate
  | _ => .done (b.insertEmpty tag)

def inInHead (b : Builder) (token : Token) : Insertion :=
  let left := b.pop.againIn .afterHead
  match token with
  | .char c => if isSyntaxBlank c then .done b else left
  | .comment body => .done (b.addCommentHere body)
  | .startTag tag =>
    if tag.name = "html" ∨ tag.name = "head" then .done b
    else if headNames.contains tag.name ∨ tag.name = "noscript" then b.headElement tag
    else left
  | .endTag tag =>
    if tag.name = "head" then b.pop.goTo .afterHead
    else if tag.name = "template" then .done b.endTemplate
    else if startsBody tag then left
    else .done b
  | _ => left

/-- An element of the head that comes after it still goes into the head. -/
def lateHeadElement (b : Builder) (tag : Tag) : Insertion :=
  match b.head with
  | none => .done b
  | some head =>
    match (b.opened head).headElement tag with
    | .done b => .done (b.dropOpen head.id)
    | .again b => .again (b.dropOpen head.id)
    | .reading mode b => .reading mode (b.dropOpen head.id)

def inAfterHead (b : Builder) (token : Token) : Insertion :=
  let implied := (b.insertImplied "body").againIn .inBody
  match token with
  | .char c => if isSyntaxBlank c then .done b else implied
  | .comment body => .done (b.addCommentHere body)
  | .startTag tag =>
    if tag.name = "html" ∨ tag.name = "head" then .done b
    else if tag.name = "body" then (b.insert tag).forbidFrameset.goTo .inBody
    else if tag.name = "frameset" then (b.insert tag).goTo .inFrameset
    else if headNames.contains tag.name then b.lateHeadElement tag
    else implied
  | .endTag tag =>
    if tag.name = "template" then .done b.endTemplate
    else if ["body", "html", "br"].contains tag.name then implied
    else .done b
  | _ => implied

/-! ### The body -/

/-- The body, if it is the second element open. -/
def body? (b : Builder) : Option OpenElement :=
  (b.openElements.reverse[1]?).filter (·.element.isNamed "body")

/-- Frames take the place of a body that has shown nothing yet. -/
def replaceBody (b : Builder) (tag : Tag) : Insertion :=
  match b.body? with
  | some body =>
    if b.framesetAllowed then
      let b := { b with tree := b.tree.detach body.id, openElements := b.openElements.reverse.take 1 }
      (b.insert tag).goTo .inFrameset
    else .done b
  | none => .done b

/-- The item that a new one closes: the innermost open one of these names, unless a special element stops
the search. -/
def itemToClose? (names : List String) (b : Builder) : Option String :=
  (b.openElements.find? fun o => o.element.isOneOf names || o.element.stopsItemSearch).bind fun o =>
    if o.element.isOneOf names then some o.element.name else none

def insertItem (b : Builder) (tag : Tag) : Builder :=
  let names := if tag.name = "li" then ["li"] else ["dd", "dt"]
  let b := b.forbidFrameset
  let b := match itemToClose? names b with
    | some name => (b.closeImpliedExcept name).popThroughNamed name
    | none => b
  b.closeOpenParagraph.insert tag

def insertForm (b : Builder) (tag : Tag) : Builder :=
  if b.form.isSome ∧ b.insideTemplate = false then b
  else
    let b := b.closeOpenParagraph.insert tag
    if b.insideTemplate then b else { b with form := b.current?.map (·.id) }

/-- End an element that is in scope, with all that closes itself inside. -/
def endInScope (b : Builder) (name : String) : Builder :=
  if b.inScopeNamed Element.endsScope name then b.closeImplied.popThroughNamed name else b

def endForm (b : Builder) : Builder :=
  if b.insideTemplate then b.endInScope "form"
  else
    match b.form with
    | none => b
    | some id =>
      let b := { b with form := none }
      if inScopeWhere Element.endsScope (·.id == id) b.openElements then b.closeImplied.dropOpen id else b

/-- An element that closes off formatting. -/
def insertMarked (b : Builder) (tag : Tag) : Builder := (b.reconstruct.insert tag).mark.forbidFrameset

def svgName (name : String) : String := ((svgNames.find? (·.1 == name)).map (·.2)).getD name

/-- An element that is not of HTML; a slash at its end closes it. -/
def insertForeign (b : Builder) (space : Namespace) (tag : Tag) : Builder :=
  let e : Element := ⟨space, if space = .svg then svgName tag.name else tag.name, tag.attributes⟩
  if tag.selfClosing then (b.addElement e).2 else b.insertElement e

/-- The rules for start tags in a body, by name. -/
def startInBody (b : Builder) (tag : Tag) : Insertion :=
  let name := tag.name
  if headNames.contains name then b.headElement tag
  else if blockNames.contains name then .done (b.closeOpenParagraph.insert tag)
  else if formattingNames.contains name then .done (b.reconstruct.insertFormatting tag)
  else if tableOnlyNames.contains name ∨ name = "frame" ∨ name = "head" ∨ name = "html" then .done b
  else
    match name with
    | "body" =>
      if b.body?.isSome ∧ b.insideTemplate = false then .done b.forbidFrameset else .done b
    | "frameset" => b.replaceBody tag
    | "p" => .done (b.closeOpenParagraph.insert tag)
    | "h1" | "h2" | "h3" | "h4" | "h5" | "h6" =>
      let b := b.closeOpenParagraph
      .done ((if b.currentIs (·.isHeading) then b.pop else b).insert tag)
    | "pre" | "listing" =>
      .done { (b.closeOpenParagraph.insert tag).forbidFrameset with dropsNewline := true }
    | "form" => .done (b.insertForm tag)
    | "li" | "dd" | "dt" => .done (b.insertItem tag)
    | "plaintext" => .reading .plain (b.closeOpenParagraph.insert tag)
    | "button" =>
      .done ((b.endInScope "button").reconstruct.insert tag).forbidFrameset
    | "a" => .done (b.endOpenLink.reconstruct.insertFormatting tag)
    | "nobr" =>
      let b := b.reconstruct
      let b := if b.inScopeNamed Element.endsScope "nobr" then (b.endFormatting "nobr").reconstruct else b
      .done (b.insertFormatting tag)
    | "applet" | "marquee" | "object" => .done (b.insertMarked tag)
    | "table" =>
      let b := if b.oldRules then b else b.closeOpenParagraph
      (b.insert tag).forbidFrameset.goTo .inTable
    | "area" | "br" | "embed" | "img" | "keygen" | "wbr" =>
      .done (b.reconstruct.insertEmpty tag).forbidFrameset
    | "image" => .done (b.reconstruct.insertEmpty { tag with name := "img" }).forbidFrameset
    | "input" =>
      let b := b.reconstruct.insertEmpty tag
      .done (if isHidden tag then b else b.forbidFrameset)
    | "param" | "source" | "track" => .done (b.insertEmpty tag)
    | "hr" => .done (b.closeOpenParagraph.insertEmpty tag).forbidFrameset
    | "textarea" => { b.forbidFrameset with dropsNewline := true }.insertText tag (.escapable name)
    | "xmp" => b.closeOpenParagraph.reconstruct.forbidFrameset.insertText tag (.raw name)
    | "iframe" => b.forbidFrameset.insertText tag (.raw name)
    | "noembed" | "noscript" => b.insertText tag (.raw name)
    | "select" =>
      let inTable := [.inTable, .inCaption, .inTableBody, .inRow, .inCell].contains b.mode
      (b.reconstruct.insert tag).forbidFrameset.goTo (if inTable then .inSelectInTable else .inSelect)
    | "optgroup" | "option" =>
      .done ((if b.currentNamed "option" then b.pop else b).reconstruct.insert tag)
    | "rb" | "rtc" =>
      .done ((if b.inScopeNamed Element.endsScope "ruby" then b.closeImplied else b).insert tag)
    | "rp" | "rt" =>
      let b := if b.inScopeNamed Element.endsScope "ruby" then b.closeImpliedExcept "rtc" else b
      .done (b.insert tag)
    | "math" => .done (b.insertForeign .mathml tag)
    | "svg" => .done (b.insertForeign .svg tag)
    | _ => .done (b.reconstruct.insert tag)

/-- The rules for end tags in a body, by name. -/
def endInBody (b : Builder) (tag : Tag) : Insertion :=
  let name := tag.name
  if blockNames.contains name ∨ ["button", "listing", "pre"].contains name then .done (b.endInScope name)
  else if formattingNames.contains name ∨ name = "a" ∨ name = "nobr" then .done (b.endFormatting name)
  else
    match name with
    | "template" => .done b.endTemplate
    | "body" => if b.inScopeNamed Element.endsScope "body" then b.goTo .afterBody else .done b
    | "html" => if b.inScopeNamed Element.endsScope "body" then b.againIn .afterBody else .done b
    | "form" => .done b.endForm
    | "p" =>
      let b := if b.inScopeNamed Element.endsButtonScope "p" then b else b.insertImplied "p"
      .done b.closeParagraph
    | "li" =>
      if b.inScopeNamed Element.endsListScope name then
        .done ((b.closeImpliedExcept name).popThroughNamed name)
      else .done b
    | "dd" | "dt" =>
      if b.inScopeNamed Element.endsScope name then
        .done ((b.closeImpliedExcept name).popThroughNamed name)
      else .done b
    | "h1" | "h2" | "h3" | "h4" | "h5" | "h6" =>
      if b.inScope Element.endsScope (·.isHeading) then
        .done (b.closeImplied.popThrough (·.isHeading))
      else .done b
    | "applet" | "marquee" | "object" =>
      if b.inScopeNamed Element.endsScope name then
        .done (b.closeImplied.popThroughNamed name).clearToMark
      else .done b
    | "br" => .done (b.reconstruct.insertEmpty ⟨"br", [], false⟩).forbidFrameset
    | _ => .done (b.closeOther name)

/-- The end of the document ends the innermost template. -/
def finishTemplate (b : Builder) : Insertion :=
  if b.insideTemplate then
    let b := (b.popThroughNamed "template").clearToMark
    .again { b with templateModes := b.templateModes.drop 1 }.resetMode
  else .done b

def inInBody (b : Builder) : Token → Insertion
  | .char c =>
    if c = '\x00' then .done b
    else
      let b := b.reconstruct
      .done (if isSyntaxBlank c then b else b.forbidFrameset)
  | .comment body => .done (b.addCommentHere body)
  | .startTag tag => b.startInBody tag
  | .endTag tag => b.endInBody tag
  | .finish => if b.templateModes.isEmpty then .done b else b.finishTemplate
  | .doctype _ => .done b

/-- The text of an element that holds nothing else. -/
def inText (b : Builder) : Token → Insertion
  | .endTag _ => b.pop.goTo b.resumeMode
  | .finish => b.pop.againIn b.resumeMode
  | _ => .done b

/-! ### Tables -/

/-- By the rules for a body, but what would stand between table parts goes in front of the table. -/
def fostered (b : Builder) (token : Token) : Insertion :=
  match { b with fostering := true }.inInBody token with
  | .done b => .done { b with fostering := false }
  | .again b => .again { b with fostering := false }
  | .reading mode b => .reading mode { b with fostering := false }

def tableContext (b : Builder) : Builder := b.popTo (·.endsTableScope)

def startInTable (b : Builder) (tag : Tag) : Insertion :=
  match tag.name with
  | "caption" => (b.tableContext.mark.insert tag).goTo .inCaption
  | "colgroup" => (b.tableContext.insert tag).goTo .inColumnGroup
  | "col" => (b.tableContext.insertImplied "colgroup").againIn .inColumnGroup
  | "tbody" | "tfoot" | "thead" => (b.tableContext.insert tag).goTo .inTableBody
  | "td" | "th" | "tr" => (b.tableContext.insertImplied "tbody").againIn .inTableBody
  | "table" =>
    if b.inScopeNamed Element.endsTableScope "table" then .again (b.popThroughNamed "table").resetMode
    else .done b
  | "style" | "script" | "template" => b.headElement tag
  | "input" => if isHidden tag then .done (b.insertEmpty tag) else b.fostered (.startTag tag)
  | "form" =>
    if b.form.isSome ∨ b.insideTemplate then .done b
    else
      let (o, b) := b.addElement (htmlElement tag)
      .done { b with form := some o.id }
  | _ => b.fostered (.startTag tag)

def inInTable (b : Builder) (token : Token) : Insertion :=
  match token with
  | .char _ =>
    if b.currentIs (·.isTablePart) then { b with resumeMode := b.mode }.againIn .inTableText
    else b.fostered token
  | .comment body => .done (b.addCommentHere body)
  | .startTag tag => b.startInTable tag
  | .endTag tag =>
    if tag.name = "table" then
      if b.inScopeNamed Element.endsTableScope "table" then .done (b.popThroughNamed "table").resetMode
      else .done b
    else if tag.name = "template" then .done b.endTemplate
    else if tag.name = "body" ∨ tag.name = "html" ∨ tableOnlyNames.contains tag.name then .done b
    else b.fostered token
  | .finish => b.inInBody token
  | .doctype _ => .done b

/-- Text between table parts. If it shows anything, all of it goes in front of the table. -/
def inTableText (b : Builder) (token : Token) : Insertion :=
  match token with
  | .char c => .done (if c = '\x00' then b else { b with tableText := b.tableText ++ [c] })
  | _ =>
    let text := b.tableText
    let b := { b with tableText := [] }
    let b :=
      if text.all isSyntaxBlank then b
      else text.foldl (fun b c =>
        match b.fostered (.char c) with
        | .done b | .again b | .reading _ b => b) b
    b.againIn b.resumeMode

def endCaption (b : Builder) : Builder :=
  (b.closeImplied.popThroughNamed "caption").clearToMark

def inInCaption (b : Builder) (token : Token) : Insertion :=
  let open? := b.inScopeNamed Element.endsTableScope "caption"
  match token with
  | .startTag tag =>
    if tableOnlyNames.contains tag.name then
      if open? then b.endCaption.againIn .inTable else .done b
    else b.inInBody token
  | .endTag tag =>
    if tag.name = "caption" then
      if open? then b.endCaption.goTo .inTable else .done b
    else if tag.name = "table" then
      if open? then b.endCaption.againIn .inTable else .done b
    else if tag.name = "body" ∨ tag.name = "html" ∨ tableOnlyNames.contains tag.name then .done b
    else b.inInBody token
  | _ => b.inInBody token

def inInColumnGroup (b : Builder) (token : Token) : Insertion :=
  let left := if b.currentNamed "colgroup" then b.pop.againIn .inTable else .done b
  match token with
  | .char c => if isSyntaxBlank c then .done b else left
  | .comment body => .done (b.addCommentHere body)
  | .startTag tag =>
    match tag.name with
    | "html" => .done b
    | "col" => .done (b.insertEmpty tag)
    | "template" => b.headElement tag
    | _ => left
  | .endTag tag =>
    match tag.name with
    | "colgroup" => if b.currentNamed "colgroup" then b.pop.goTo .inTable else .done b
    | "col" => .done b
    | "template" => .done b.endTemplate
    | _ => left
  | .finish => b.inInBody token
  | .doctype _ => .done b

def bodyContext (b : Builder) : Builder := b.popTo (·.endsBodyContext)

def inInTableBody (b : Builder) (token : Token) : Insertion :=
  let left :=
    if b.inScope Element.endsTableScope (·.isOneOf ["table", "tbody", "tfoot"]) then
      b.bodyContext.pop.againIn .inTable
    else .done b
  match token with
  | .startTag tag =>
    match tag.name with
    | "tr" => (b.bodyContext.insert tag).goTo .inRow
    | "td" | "th" => (b.bodyContext.insertImplied "tr").againIn .inRow
    | "caption" | "col" | "colgroup" | "tbody" | "tfoot" | "thead" => left
    | _ => b.inInTable token
  | .endTag tag =>
    match tag.name with
    | "tbody" | "tfoot" | "thead" =>
      if b.inScopeNamed Element.endsTableScope tag.name then b.bodyContext.pop.goTo .inTable else .done b
    | "table" => left
    | "body" | "caption" | "col" | "colgroup" | "html" | "td" | "th" | "tr" => .done b
    | _ => b.inInTable token
  | _ => b.inInTable token

def inInRow (b : Builder) (token : Token) : Insertion :=
  let rowOpen := b.inScopeNamed Element.endsTableScope "tr"
  let ended := (b.popTo (·.endsRowContext)).pop
  let left := if rowOpen then ended.againIn .inTableBody else .done b
  match token with
  | .startTag tag =>
    match tag.name with
    | "td" | "th" => ((b.popTo (·.endsRowContext)).insert tag).mark.goTo .inCell
    | "caption" | "col" | "colgroup" | "tbody" | "tfoot" | "thead" | "tr" => left
    | _ => b.inInTable token
  | .endTag tag =>
    match tag.name with
    | "tr" => if rowOpen then ended.goTo .inTableBody else .done b
    | "table" => left
    | "tbody" | "tfoot" | "thead" =>
      if b.inScopeNamed Element.endsTableScope tag.name then left else .done b
    | "body" | "caption" | "col" | "colgroup" | "html" | "td" | "th" => .done b
    | _ => b.inInTable token
  | _ => b.inInTable token

def endCell (b : Builder) : Builder := (b.closeImplied.popThrough (·.isCell)).clearToMark

def inInCell (b : Builder) (token : Token) : Insertion :=
  match token with
  | .startTag tag =>
    if tableOnlyNames.contains tag.name then
      if b.inScope Element.endsTableScope (·.isCell) then b.endCell.againIn .inRow else .done b
    else b.inInBody token
  | .endTag tag =>
    match tag.name with
    | "td" | "th" =>
      if b.inScopeNamed Element.endsTableScope tag.name then
        ((b.closeImplied.popThroughNamed tag.name).clearToMark).goTo .inRow
      else .done b
    | "body" | "caption" | "col" | "colgroup" | "html" => .done b
    | "table" | "tbody" | "tfoot" | "thead" | "tr" =>
      if b.inScopeNamed Element.endsTableScope tag.name then b.endCell.againIn .inRow else .done b
    | _ => b.inInBody token
  | _ => b.inInBody token

/-! ### Selections, templates and frames -/

/-- Close the option and the group that are innermost. -/
def endOptions (b : Builder) : Builder :=
  let b := if b.currentNamed "option" then b.pop else b
  if b.currentNamed "optgroup" then b.pop else b

/-- Close an option group, and an option in it. -/
def endOptionGroup (b : Builder) : Builder :=
  let inGroup := (b.openElements[1]?).any (·.element.isNamed "optgroup")
  let b := if b.currentNamed "option" && inGroup then b.pop else b
  if b.currentNamed "optgroup" then b.pop else b

def inInSelect (b : Builder) (token : Token) : Insertion :=
  let selectOpen := b.inScopeNamed Element.endsSelectScope "select"
  let ended := (b.popThroughNamed "select").resetMode
  match token with
  | .char _ => .done b
  | .comment body => .done (b.addCommentHere body)
  | .startTag tag =>
    match tag.name with
    | "option" => .done ((if b.currentNamed "option" then b.pop else b).insert tag)
    | "optgroup" => .done (b.endOptions.insert tag)
    | "hr" => .done (b.endOptions.insertEmpty tag)
    | "select" => if selectOpen then .done ended else .done b
    | "input" | "keygen" | "textarea" => if selectOpen then .again ended else .done b
    | "script" | "template" => b.headElement tag
    | _ => .done b
  | .endTag tag =>
    match tag.name with
    | "optgroup" => .done b.endOptionGroup
    | "option" => .done (if b.currentNamed "option" then b.pop else b)
    | "select" => if selectOpen then .done ended else .done b
    | "template" => .done b.endTemplate
    | _ => .done b
  | .finish => b.inInBody token
  | .doctype _ => .done b

/-- Table parts that end a selection standing in a table. -/
def endsSelectInTable (name : String) : Bool :=
  ["caption", "table", "tbody", "tfoot", "thead", "tr", "td", "th"].contains name

def inInSelectInTable (b : Builder) (token : Token) : Insertion :=
  match token with
  | .startTag tag =>
    if endsSelectInTable tag.name then .again (b.popThroughNamed "select").resetMode
    else b.inInSelect token
  | .endTag tag =>
    if endsSelectInTable tag.name then
      if b.inScopeNamed Element.endsTableScope tag.name then .again (b.popThroughNamed "select").resetMode
      else .done b
    else b.inInSelect token
  | _ => b.inInSelect token

/-- What a template turns out to hold decides how it goes on. -/
def templateTurns (b : Builder) (mode : InsertionMode) : Insertion :=
  { b with templateModes := mode :: b.templateModes.drop 1 }.againIn mode

def inInTemplate (b : Builder) (token : Token) : Insertion :=
  match token with
  | .char _ => b.inInBody token
  | .comment _ => b.inInBody token
  | .startTag tag =>
    if headNames.contains tag.name then b.headElement tag
    else
      match tag.name with
      | "caption" | "colgroup" | "tbody" | "tfoot" | "thead" => b.templateTurns .inTable
      | "col" => b.templateTurns .inColumnGroup
      | "tr" => b.templateTurns .inTableBody
      | "td" | "th" => b.templateTurns .inRow
      | _ => b.templateTurns .inBody
  | .endTag tag => if tag.name = "template" then .done b.endTemplate else .done b
  | .finish => b.finishTemplate
  | .doctype _ => .done b

def inAfterBody (b : Builder) (token : Token) : Insertion :=
  match token with
  | .char c => if isSyntaxBlank c then b.inInBody token else b.againIn .inBody
  | .comment body =>
    .done (b.addComment (.lastIn ((b.openElements.getLast?.map (·.id)).getD Tree.root)) body)
  | .startTag tag => if tag.name = "html" then .done b else b.againIn .inBody
  | .endTag tag => if tag.name = "html" then b.goTo .afterAfterBody else b.againIn .inBody
  | _ => .done b

def inAfterAfterBody (b : Builder) (token : Token) : Insertion :=
  match token with
  | .char c => if isSyntaxBlank c then b.inInBody token else b.againIn .inBody
  | .comment body => .done (b.addComment (.lastIn Tree.root) body)
  | .startTag tag => if tag.name = "html" then .done b else b.againIn .inBody
  | .endTag _ => b.againIn .inBody
  | _ => .done b

def inInFrameset (b : Builder) (token : Token) : Insertion :=
  match token with
  | .comment body => .done (b.addCommentHere body)
  | .startTag tag =>
    match tag.name with
    | "frameset" => .done (b.insert tag)
    | "frame" => .done (b.insertEmpty tag)
    | "noframes" => b.headElement tag
    | _ => .done b
  | .endTag tag =>
    if tag.name = "frameset" ∧ 1 < b.openElements.length then
      let b := b.pop
      if b.currentNamed "frameset" then .done b else b.goTo .afterFrameset
    else .done b
  | _ => .done b

def inAfterFrameset (b : Builder) (token : Token) : Insertion :=
  match token with
  | .comment body => .done (b.addCommentHere body)
  | .startTag tag => if tag.name = "noframes" then b.headElement tag else .done b
  | .endTag tag => if tag.name = "html" then b.goTo .afterAfterFrameset else .done b
  | _ => .done b

def inAfterAfterFrameset (b : Builder) (token : Token) : Insertion :=
  match token with
  | .char c => if isSyntaxBlank c then b.inInBody token else .done b
  | .comment body => .done (b.addComment (.lastIn Tree.root) body)
  | .startTag tag => if tag.name = "noframes" then b.headElement tag else .done b
  | _ => .done b

/-- The rules of the current mode. -/
def byMode (b : Builder) (token : Token) : Insertion :=
  match b.mode with
  | .initial => b.inInitial token
  | .beforeHtml => b.inBeforeHtml token
  | .beforeHead => b.inBeforeHead token
  | .inHead => b.inInHead token
  | .afterHead => b.inAfterHead token
  | .inBody => b.inInBody token
  | .inText => b.inText token
  | .inTable => b.inInTable token
  | .inTableText => b.inTableText token
  | .inCaption => b.inInCaption token
  | .inColumnGroup => b.inInColumnGroup token
  | .inTableBody => b.inInTableBody token
  | .inRow => b.inInRow token
  | .inCell => b.inInCell token
  | .inSelect => b.inInSelect token
  | .inSelectInTable => b.inInSelectInTable token
  | .inTemplate => b.inInTemplate token
  | .afterBody => b.inAfterBody token
  | .inFrameset => b.inInFrameset token
  | .afterFrameset => b.inAfterFrameset token
  | .afterAfterBody => b.inAfterAfterBody token
  | .afterAfterFrameset => b.inAfterAfterFrameset token

/-! ### Foreign content -/

/-- A MathML annotation that says it holds HTML. -/
def isHtmlAnnotation (e : Element) : Bool :=
  e.attributes.any fun a =>
    a.name == "encoding" &&
      (sameName a.value "text/html".toList || sameName a.value "application/xhtml+xml".toList)

/-- Whether a token is taken by the rules for elements that are not of HTML. -/
def isForeign (b : Builder) (token : Token) : Bool :=
  match b.current?, token with
  | none, _ => false
  | _, .finish => false
  | some o, _ =>
    let e := o.element
    if e.space == .html then false
    else
      match token with
      | .char _ =>
        !(e.isMathText || e.isSvgHtml ||
          e.space == .mathml && e.name == "annotation-xml" && isHtmlAnnotation e)
      | .startTag tag =>
        !(e.isMathText && tag.name != "mglyph" && tag.name != "malignmark" || e.isSvgHtml ||
          e.space == .mathml && e.name == "annotation-xml" && (tag.name == "svg" || isHtmlAnnotation e))
      | _ => true

/-- Close foreign elements and take a tag by the rules of the mode. -/
def breakOut (b : Builder) (token : Token) : Insertion :=
  (b.popTo fun e => e.space == .html || e.isMathText || e.isSvgHtml).byMode token

/-- The element that a foreign end tag closes; none if an HTML element comes first. -/
def foreignEnd (name : String) (first : Bool) : List OpenElement → Option (Option NodeId)
  | [] => some none
  | [_] => some none
  | o :: os =>
    if !first && o.element.space == .html then none
    else if sameName o.element.name.toList name.toList then some (some o.id)
    else foreignEnd name false os

def isBreakout (tag : Tag) : Bool :=
  breakoutNames.contains tag.name ||
    tag.name == "font" && ["color", "face", "size"].any fun n => (tag.attribute? n).isSome

def inForeign (b : Builder) (token : Token) : Insertion :=
  match token with
  | .char c => .done (if isSyntaxBlank c ∨ c = '\x00' then b else b.forbidFrameset)
  | .comment body => .done (b.addCommentHere body)
  | .startTag tag =>
    if isBreakout tag then b.breakOut token
    else
      match b.current? with
      | some o => .done (b.insertForeign o.element.space tag)
      | none => .done b
  | .endTag tag =>
    if tag.name = "br" ∨ tag.name = "p" then b.breakOut token
    else
      match foreignEnd tag.name true b.openElements with
      | some (some id) => .done { b with openElements := (b.openElements.dropWhile (·.id != id)).drop 1 }
      | some none => .done b
      | none => b.byMode token
  | _ => .done b

/-- Take a token, again and again while the rules ask for it, but no more often than there are steps. -/
def takeSteps : Nat → Builder → Token → Option LexMode × Builder
  | 0, b, _ => (none, b)
  | n + 1, b, token =>
    match if b.isForeign token then b.inForeign token else b.byMode token with
    | .done b => (none, b)
    | .again b => takeSteps n b token
    | .reading mode b => (some mode, b)

/-- Take a token. Every step after the first few closes an element. -/
def take (b : Builder) (token : Token) : Option LexMode × Builder :=
  let dropsNewline := b.dropsNewline
  let b := { b with dropsNewline := false }
  match token with
  | .doctype _ => if b.mode = .initial then takeSteps 1 b token else (none, b)
  | .char '\n' => if dropsNewline then (none, b) else takeSteps (2 * b.openElements.length + 16) b token
  | _ => takeSteps (2 * b.openElements.length + 16) b token

end Builder

end ResponsiveMarkup.Html
