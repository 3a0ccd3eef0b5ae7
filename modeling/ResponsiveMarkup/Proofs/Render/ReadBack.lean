import Mathlib.Data.List.Basic
import ResponsiveMarkup.Contract.Nesting
import ResponsiveMarkup.Proofs.Markup.ClassValue
import ResponsiveMarkup.Proofs.Render.Tags

/-!
Drawn markup read back. Drawing a tree and finding the elements of the markup gives the nodes that were drawn, in
the order of the walk, as long as no line of a text begins beyond ASCII; and all tags are properly nested.
-/

namespace ResponsiveMarkup.Render

open Design Style Text

def textPieces (l : Layer) (content : TextContent) : List Piece :=
  if isBlankText content.characters.toList then [commentPiece ("text:".toList ++ l.id.toList)]
  else linesPieces (lines content.characters.toList)

/-- A node's element around the pieces inside it; without any it is an element without a body. -/
def elementPieces (c : Context) (inside : Bool) (n : Node) : Option (List Piece) → List Piece
  | some body => openPiece (tagDrawn c inside n.layer) (attributesDrawn c inside n) false ::
      (body ++ [closePiece (tagDrawn c inside n.layer)])
  | none => [openPiece (tagDrawn c inside n.layer) (attributesDrawn c inside n) true]

mutual

/-- The pieces that a node is drawn as. -/
def nodePieces (c : Context) (inside : Bool) : Node → List Piece
  | .mk l cs =>
    if l.visible then
      elementPieces c inside (.mk l cs) <|
        match drawing c.slots l with
        | .slot name => some [commentPiece (slotMarker name)]
        | .text content => some (textPieces l content)
        | .picture _ => none
        | .box => some (nodesPieces c (insideOf inside l) cs)
    else []

def nodesPieces (c : Context) (inside : Bool) : List Node → List Piece
  | [] => []
  | n :: ns => nodePieces c inside n ++ nodesPieces c inside ns

end

theorem nodesPieces_eq (c : Context) (inside : Bool) (ns : List Node) :
    nodesPieces c inside ns = ns.flatMap (nodePieces c inside) :=
  eq_flatMap (by rw [nodesPieces]) (fun n ns => by rw [nodesPieces]) ns

/-- The pieces inside a node's element, if it has a body. -/
def bodyPieces? (c : Context) (inside : Bool) (n : Node) : Option (List Piece) :=
  match drawing c.slots n.layer with
  | .slot name => some [commentPiece (slotMarker name)]
  | .text content => some (textPieces n.layer content)
  | .picture _ => none
  | .box => some (n.children.flatMap (nodePieces c (insideOf inside n.layer)))

theorem nodePieces_eq (c : Context) (inside : Bool) (n : Node) : nodePieces c inside n =
    if n.layer.visible then elementPieces c inside n (bodyPieces? c inside n) else [] := by
  obtain ⟨l, cs⟩ := n
  simp only [nodePieces, nodesPieces_eq]
  rfl

section

variable {c : Context} {inside : Bool}

/-- What a node with a body is drawn as, and that its tag is one of those for bodies. -/
theorem bodyPieces?_cases {n : Node} {ps : List Piece} (h : bodyPieces? c inside n = some ps) :
    tagDrawn c inside n.layer ∈ bodyTags ∧
      ((∃ name, ps = [commentPiece (slotMarker name)]) ∨
        (∃ content, drawing c.slots n.layer = .text content ∧ ps = textPieces n.layer content) ∨
        drawing c.slots n.layer = .box ∧ ps = n.children.flatMap (nodePieces c (insideOf inside n.layer))) := by
  rw [bodyPieces?] at h
  rw [tagDrawn]
  cases hdrawing : drawing c.slots n.layer with
  | slot name =>
    rw [hdrawing] at h
    cases h
    have hdiv : "div".toList ∈ bodyTags := by decide
    exact ⟨hdiv, Or.inl ⟨name, rfl⟩⟩
  | text content =>
    rw [hdrawing] at h
    cases h
    exact ⟨tagFor_mem_bodyTags _ _ _, Or.inr (Or.inl ⟨content, rfl, rfl⟩)⟩
  | picture src =>
    rw [hdrawing] at h
    cases h
  | box =>
    rw [hdrawing] at h
    cases h
    exact ⟨tagFor_mem_bodyTags _ _ _, Or.inr (Or.inr ⟨rfl, rfl⟩)⟩

theorem source_textPieces (l : Layer) (content : TextContent) :
    (textPieces l content).flatMap Piece.source = textBody l content := by
  rw [textPieces, textBody]
  split
  · exact List.append_nil _
  · exact source_linesPieces _

theorem source_nodePieces (n : Node) : (nodePieces c inside n).flatMap Piece.source = renderNode c inside n := by
  induction n using Node.induction generalizing inside with
  | h l cs ih =>
    have hbody : bodyDrawn? c inside (.mk l cs) =
        (bodyPieces? c inside (.mk l cs)).map fun ps => ps.flatMap Piece.source := by
      rw [bodyDrawn?, bodyPieces?]
      cases drawing c.slots (Node.mk l cs).layer with
      | slot name => simp [source_commentPiece]
      | text content => simp [source_textPieces]
      | picture src => rfl
      | box =>
        rw [Option.map_some, List.flatMap_assoc]
        exact congrArg some (List.flatMap_congr fun n hn => (ih n hn).symm)
    rw [nodePieces_eq, renderNode_eq, hbody]
    split
    · cases bodyPieces? c inside (.mk l cs) with
      | some ps => simp [elementPieces, source_openPiece, source_closePiece]
      | none => simp [elementPieces, source_openPiece]
    · rfl

/-! ### Every piece is read back -/

theorem isTagName_tagDrawn (l : Layer) : IsTagName (tagDrawn c inside l) := by
  rcases tagDrawn_cases c inside l with htag | htag
  · exact (bodyTags_wellFormed _ htag).1
  · rw [htag]
    decide

theorem isAttributeName_element {id : String} {key : Option Text} {tokens : List Text} {others : List (Text × Text)}
    (hothers : ∀ a ∈ others, a.1 ∈ otherNames) :
    ∀ a ∈ elementAttributes id key tokens others, IsAttributeName a.1 := by
  intro a ha
  have hown : ∀ name ∈ [Names.nodeId, Names.key, Names.classes], IsAttributeName name := by decide
  simp only [elementAttributes, List.cons_append, List.mem_cons, List.mem_append, Option.mem_toList,
    Option.map_eq_some_iff] at ha
  rcases ha with rfl | (⟨k, -, rfl⟩ | ha) | ha
  · exact hown _ (by simp)
  · exact hown _ (by simp)
  · split at ha
    · cases ha
    · rw [List.mem_singleton.mp ha]
      exact hown _ (by simp)
  · exact (otherNames_wellFormed _ (hothers a ha)).1

theorem isAttributeName_drawn (n : Node) : ∀ a ∈ attributesDrawn c inside n, IsAttributeName a.1 :=
  isAttributeName_element (othersDrawn_names c inside n)

theorem overruns_flatMap {α : Type} {g : α → List Piece} {as : List α} (h : ∀ a ∈ as, ∀ f, Overruns (g a) f)
    (f : Text) : Overruns (as.flatMap g) f := by
  induction as with
  | nil => trivial
  | cons a as ih =>
    rw [List.flatMap_cons, overruns_append]
    exact ⟨h a List.mem_cons_self _, ih fun b hb => h b (List.mem_cons_of_mem a hb)⟩

/-- What is inside an element is followed by a tag. -/
theorem overruns_elementPieces (n : Node) {body : Option (List Piece)}
    (h : ∀ ps ∈ body, ∀ f : Text, (∀ d ∈ f.head?, d = '<') → Overruns ps f) (f : Text) :
    Overruns (elementPieces c inside n body) f := by
  cases body with
  | none => exact ⟨Or.inr (fits_openPiece (isTagName_tagDrawn _) (isAttributeName_drawn n) true _), trivial⟩
  | some ps =>
    rw [elementPieces]
    refine ⟨Or.inr (fits_openPiece (isTagName_tagDrawn _) (isAttributeName_drawn n) false _), ?_⟩
    rw [overruns_append]
    refine ⟨h ps rfl _ fun d hd => ?_, Or.inr (fits_closePiece (isTagName_tagDrawn _) _), trivial⟩
    rw [List.flatMap_singleton, source_closePiece] at hd
    cases hd
    rfl

theorem overruns_textPieces (l : Layer) (content : TextContent) {f : Text} (hf : ∀ d ∈ f.head?, d = '<') :
    Overruns (textPieces l content) f := by
  rw [textPieces]
  split
  · exact ⟨Or.inr (fits_commentPiece _ _), trivial⟩
  · exact overruns_linesPieces _ hf

theorem overruns_nodePieces (n : Node) (f : Text) : Overruns (nodePieces c inside n) f := by
  -- No text need follow in any particular way: lines are the only pieces that mind, and they stand inside an
  -- element whose end tag follows them.
  induction n using Node.induction generalizing inside f with
  | h l cs ih =>
    rw [nodePieces_eq]
    split
    · refine overruns_elementPieces _ (fun ps hps f hf => ?_) f
      obtain ⟨-, ⟨name, rfl⟩ | ⟨content, -, rfl⟩ | ⟨-, rfl⟩⟩ := bodyPieces?_cases hps
      · exact ⟨Or.inr (fits_commentPiece _ _), trivial⟩
      · exact overruns_textPieces _ content hf
      · exact overruns_flatMap (fun n hn f => ih n hn f) f
    · trivial

/-- What holds of the tags of the nodes that are drawn, of line breaks and comments, and of the lines of all texts that
are drawn, holds of all pieces. -/
theorem forall_nodePieces {P : Piece → Prop} (n : Node)
    (hopen : ∀ m inside' selfClosing, (Node.layer m, inside') ∈ reached c.slots inside n →
      P (openPiece (tagDrawn c inside' m.layer) (attributesDrawn c inside' m) selfClosing))
    (hbreak : P breakPiece) (hclose : ∀ tag, P (closePiece tag)) (hcomment : ∀ body, P (commentPiece body))
    (hline : ∀ r ∈ reached c.slots inside n, ∀ content, drawing c.slots r.1 = .text content →
      isBlankText content.characters.toList = false → ∀ line ∈ lines content.characters.toList,
        ∀ p ∈ linePieces line, P p) : ∀ p ∈ nodePieces c inside n, P p := by
  induction n using Node.induction generalizing inside with
  | h l cs ih =>
    rw [reached_eq] at hopen hline
    rw [nodePieces_eq]
    split
    · rename_i hvisible
      rw [if_pos hvisible] at hopen hline
      have hinside : ∀ ps ∈ bodyPieces? c inside (.mk l cs), ∀ p ∈ ps, P p := by
        intro ps hps p hp
        obtain ⟨-, ⟨name, rfl⟩ | ⟨content, hdrawing, rfl⟩ | ⟨hdrawing, rfl⟩⟩ := bodyPieces?_cases hps
        · rw [List.mem_singleton.mp hp]
          exact hcomment _
        · rw [textPieces] at hp
          split at hp
          · rw [List.mem_singleton.mp hp]
            exact hcomment _
          · rename_i hblank
            rw [Bool.not_eq_true] at hblank
            rcases mem_linesPieces hp with rfl | ⟨line, hmem, hp⟩
            · exact hbreak
            · exact hline _ List.mem_cons_self content hdrawing hblank line hmem p hp
        · obtain ⟨n, hn, hp⟩ := List.mem_flatMap.mp hp
          have hreached : ∀ r ∈ reached c.slots (insideOf inside l) n,
              r ∈ (l, inside) :: reachedInside c.slots inside (.mk l cs) := by
            intro r hr
            rw [reachedInside, hdrawing]
            exact List.mem_cons_of_mem _ (List.mem_flatMap.mpr ⟨n, hn, hr⟩)
          exact ih n hn (fun m inside' selfClosing hm => hopen m inside' selfClosing (hreached _ hm))
            (fun r hr => hline r (hreached r hr)) p hp
      intro p hp
      cases hbody : bodyPieces? c inside (.mk l cs) with
      | none =>
        rw [hbody, elementPieces, List.mem_singleton] at hp
        rw [hp]
        exact hopen _ _ _ List.mem_cons_self
      | some ps =>
        rw [hbody, elementPieces, List.mem_cons, List.mem_append, List.mem_singleton] at hp
        rcases hp with rfl | hp | rfl
        · exact hopen _ _ _ List.mem_cons_self
        · exact hinside ps hbody p hp
        · exact hclose _
    · intro p hp
      cases hp

/-- A text has no line that begins beyond ASCII. A blank text is drawn without its lines. -/
def PlainLines (slots : SlotIndex) (l : Layer) : Prop :=
  ∀ content, drawing slots l = .text content → isBlankText content.characters.toList = false →
    ∀ line ∈ lines content.characters.toList, ∀ ch ∈ line.head?, ch.val ≤ 127

theorem runsOn_nodePieces (n : Node) (h : ∀ r ∈ reached c.slots inside n, PlainLines c.slots r.1) :
    ∀ p ∈ nodePieces c inside n, p.runsOn = false := by
  refine forall_nodePieces n (fun _ _ _ _ => rfl) rfl (fun _ => rfl) (fun _ => rfl) ?_
  intro r hr content hdrawing hblank line hline p hp
  rw [runsOn_linePieces hp, lineRunsOn_eq_false_iff]
  exact h r hr content hdrawing hblank line hline

/-! ### Elements inside elements -/

theorem isInteractiveTag_tagName (kind : TagKind) : Nesting.isInteractiveTag kind.tagName = kind.isInteractive := by
  cases kind <;> decide

theorem isInteractiveTag_semanticTags : ∀ tag ∈ semanticTags, Nesting.isInteractiveTag tag = false := by
  decide

theorem isInteractiveTag_tagFor (options : Options) (l : Layer) (kind : TagKind) :
    Nesting.isInteractiveTag (tagFor options l kind) = kind.isInteractive := by
  rw [tagFor]
  split
  · exact isInteractiveTag_tagName kind
  · rename_i hplain
    rw [Bool.not_eq_true] at hplain
    cases h : (options.semanticTags.get? l.id).bind semanticTag? with
    | none => exact isInteractiveTag_tagName kind
    | some tag =>
      obtain ⟨name, -, htag⟩ := Option.bind_eq_some_iff.mp h
      rw [semanticTag?] at htag
      rw [hplain]
      exact isInteractiveTag_semanticTags tag (List.mem_of_find?_eq_some htag)

theorem tagDrawn_of_no_body {n : Node} (h : bodyPieces? c inside n = none) :
    tagDrawn c inside n.layer = "img".toList := by
  rw [bodyPieces?] at h
  rw [tagDrawn]
  cases hdrawing : drawing c.slots n.layer with
  | picture src => rfl
  | slot name => rw [hdrawing] at h; cases h
  | text content => rw [hdrawing] at h; cases h
  | box => rw [hdrawing] at h; cases h

/-- Only a box or a text outside of links and buttons is drawn as one. -/
theorem tagDrawn_interactive {l : Layer} (h : Nesting.isInteractiveTag (tagDrawn c inside l) = true) :
    inside = false := by
  have hpick : (pickTag l inside).isInteractive = true := by
    rw [tagDrawn] at h
    split at h
    · exact absurd h (by decide)
    · exact absurd h (by decide)
    · rwa [isInteractiveTag_tagFor] at h
  cases inside with
  | false => rfl
  | true =>
    rw [pickTag, Bool.true_or, if_pos rfl] at hpick
    cases hpick

theorem insideOf_box {l : Layer} (h : drawing c.slots l = .box) :
    insideOf inside l = (inside || Nesting.isInteractiveTag (tagDrawn c inside l)) := by
  rw [insideOf, tagDrawn, h, isInteractiveTag_tagFor]

/-- What holds of single comments, texts and bodiless elements, of contents put one after another and of an element
around contents; the flag says that a link or button is around them. -/
structure Composable (Q : Bool → List Content → Prop) : Prop where
  nil : ∀ inside, Q inside []
  append : ∀ inside cs ds, Q inside cs → Q inside ds → Q inside (cs ++ ds)
  comment : ∀ inside body, Q inside [.comment body]
  text : ∀ inside body, Q inside [.text body]
  selfClosing : ∀ inside name attributes, Nesting.isInteractiveTag name = false →
    Q inside [.startTag name attributes true]
  element : ∀ inside name attributes cs, isVoidTag name = false →
    (Nesting.isInteractiveTag name = true → inside = false) → Q (inside || Nesting.isInteractiveTag name) cs →
    Q inside (.startTag name attributes false :: (cs ++ [.endTag name]))

namespace Composable

variable {Q : Bool → List Content → Prop}

theorem flatMap (h : Composable Q) {α : Type} {f : α → List Content} {as : List α}
    (hf : ∀ a ∈ as, Q inside (f a)) : Q inside (as.flatMap f) := by
  induction as with
  | nil => exact h.nil inside
  | cons a as ih =>
    rw [List.flatMap_cons]
    exact h.append _ _ _ (hf a List.mem_cons_self) (ih fun b hb => hf b (List.mem_cons_of_mem a hb))

theorem textPieces (h : Composable Q) (l : Layer) (content : TextContent) :
    Q inside ((textPieces l content).map Piece.content) := by
  rw [Render.textPieces]
  split
  · exact h.comment _ _
  · rw [← List.flatMap_singleton' (List.map _ _)]
    refine h.flatMap fun c hc => ?_
    obtain ⟨p, hp, rfl⟩ := List.mem_map.mp hc
    rcases mem_linesPieces hp with rfl | ⟨line, -, hp⟩
    · rw [breakPiece, content_openPiece]
      exact h.selfClosing _ _ _ (by decide)
    · rw [(mem_linePieces hp).2]
      exact h.text _ _

theorem nodePieces (h : Composable Q) (n : Node) : Q inside ((nodePieces c inside n).map Piece.content) := by
  -- For both values of inside: the children of a link or button are drawn as inside of one.
  induction n using Node.induction generalizing inside with
  | h l cs ih =>
    rw [nodePieces_eq]
    split
    · cases hbody : bodyPieces? c inside (.mk l cs) with
      | none =>
        rw [elementPieces, List.map_singleton, content_openPiece]
        refine h.selfClosing _ _ _ ?_
        rw [tagDrawn_of_no_body hbody]
        decide
      | some ps =>
        rw [elementPieces, List.map_cons, List.map_append, List.map_singleton, content_openPiece]
        obtain ⟨htag, hps⟩ := bodyPieces?_cases hbody
        refine h.element _ _ _ _ (bodyTags_wellFormed _ htag).2.2 tagDrawn_interactive ?_
        rcases hps with ⟨name, rfl⟩ | ⟨content, -, rfl⟩ | ⟨hdrawing, rfl⟩
        · exact h.comment _ _
        · exact h.textPieces _ content
        · rw [List.map_flatMap, ← insideOf_box hdrawing]
          exact h.flatMap fun n hn => ih n hn
    · exact h.nil _

end Composable

theorem composable_nested : Composable fun _ cs => Nested cs where
  nil _ := .nil
  append _ _ _ hc hd := hc.append hd
  comment _ body := .comment body
  text _ body := .text body
  selfClosing _ name attributes _ := .selfClosing name attributes
  element _ _ attributes _ hvoid _ h := .element attributes hvoid h

/-! ### The elements are those of the walk -/

/-- A reading that finds something in the tags of elements only. -/
structure ReadsTags {β : Type} (f : Content → Option β) : Prop where
  comment : ∀ body, f (.comment body) = none
  text : ∀ body, f (.text body) = none
  endTag : ∀ name, f (.endTag name) = none
  lineBreak : f breakPiece.content = none

namespace ReadsTags

variable {β : Type} {f : Content → Option β}

theorem textPieces (h : ReadsTags f) (l : Layer) (content : TextContent) :
    ((textPieces l content).map Piece.content).filterMap f = [] := by
  apply List.filterMap_eq_nil_iff.mpr
  intro d hd
  obtain ⟨p, hp, rfl⟩ := List.mem_map.mp hd
  rw [Render.textPieces] at hp
  split at hp
  · rw [List.mem_singleton.mp hp]
    exact h.comment _
  · rcases mem_linesPieces hp with rfl | ⟨line, -, hp⟩
    · exact h.lineBreak
    · rw [(mem_linePieces hp).2]
      exact h.text _

/-- What is found in the tags of a tree, given what is found in the tag of a node. -/
theorem nodePieces (h : ReadsTags f) {g : Layer → Bool → Option β}
    (hopen : ∀ inside n selfClosing,
      f (openPiece (tagDrawn c inside n.layer) (attributesDrawn c inside n) selfClosing).content = g n.layer inside)
    (n : Node) : ((nodePieces c inside n).map Piece.content).filterMap f =
      (reached c.slots inside n).filterMap fun r => g r.1 r.2 := by
  induction n using Node.induction generalizing inside with
  | h l cs ih =>
    have helement (n : Node) (body : Option (List Piece)) :
        ((elementPieces c inside n body).map Piece.content).filterMap f =
          (g n.layer inside).toList ++ ((body.getD []).map Piece.content).filterMap f := by
      cases body with
      | none => rw [elementPieces, List.map_singleton, filterMap_cons_toList, hopen]; rfl
      | some ps =>
        have hclose : f (closePiece (tagDrawn c inside n.layer)).content = none := h.endTag _
        rw [elementPieces, List.map_cons, filterMap_cons_toList, hopen, List.map_append, List.filterMap_append,
          List.map_singleton, List.filterMap_cons_none hclose, List.filterMap_nil, List.append_nil]
        rfl
    have hbody : (((bodyPieces? c inside (.mk l cs)).getD []).map Piece.content).filterMap f =
        (reachedInside c.slots inside (.mk l cs)).filterMap fun r => g r.1 r.2 := by
      rw [bodyPieces?, reachedInside]
      cases drawing c.slots (Node.mk l cs).layer with
      | slot name => exact List.filterMap_cons_none (h.comment _)
      | text content =>
        rw [Option.getD_some]
        exact h.textPieces _ content
      | picture src => rfl
      | box =>
        rw [Option.getD_some, List.map_flatMap, List.filterMap_flatMap, List.filterMap_flatMap]
        exact List.flatMap_congr fun n hn => ih n hn
    rw [nodePieces_eq, reached_eq]
    split
    · rw [helement, hbody, filterMap_cons_toList]
    · rfl

end ReadsTags

theorem readsTags_indexed : ReadsTags Content.indexed? where
  comment _ := rfl
  text _ := rfl
  endTag _ := rfl
  lineBreak := rfl

/-! ### The whole drawing -/

def artboardContext (a : Artboard) (options : Options) : Context := ⟨a.frame, SlotIndex.ofSlots a.slots, options⟩

/-- The attributes of the box around the tree. -/
def frameAttributes (a : Artboard) : List (Text × Text) :=
  elementAttributes frameNodeId (some frameKey) (frameTokens a.frame) []

def artboardPieces (a : Artboard) (options : Options) : List Piece :=
  let tree := nodePieces (artboardContext a options) false a.tree
  if options.frameWrapper then
    openPiece "div".toList (frameAttributes a) false :: (tree ++ [closePiece "div".toList])
  else tree

theorem source_artboardPieces (a : Artboard) (options : Options) :
    (artboardPieces a options).flatMap Piece.source = render a options := by
  have htree : (nodePieces (artboardContext a options) false a.tree).flatMap Piece.source = renderTree a options :=
    source_nodePieces a.tree
  rw [artboardPieces, render]
  split
  · rw [List.flatMap_cons, List.flatMap_append, htree, source_openPiece, List.flatMap_singleton,
      source_closePiece, List.append_assoc]
    rfl
  · exact htree

theorem overruns_artboardPieces (a : Artboard) (options : Options) : Overruns (artboardPieces a options) [] := by
  have htree : ∀ f, Overruns (nodePieces (artboardContext a options) false a.tree) f := overruns_nodePieces a.tree
  rw [artboardPieces]
  split
  · have hdiv : IsTagName "div".toList := by decide
    refine ⟨Or.inr (fits_openPiece hdiv (isAttributeName_element (by simp)) false _), ?_⟩
    rw [overruns_append]
    exact ⟨htree _, Or.inr (fits_closePiece hdiv _), trivial⟩
  · exact htree _

/-- A drawing is read back as it was written, up to the first text that runs on. -/
theorem pieces_render_overrun (a : Artboard) (options : Options) :
    Scanner.pieces (render a options) = overrun (artboardPieces a options) := by
  rw [← source_artboardPieces]
  exact pieces_of_overruns (overruns_artboardPieces a options)

/-- The pieces of a drawing begin as they were written, and end with at most one text. -/
theorem pieces_render_cases (a : Artboard) (options : Options) :
    ∃ before after, artboardPieces a options = before ++ after ∧
      (Scanner.pieces (render a options) = before ∨
        ∃ body, Scanner.pieces (render a options) = before ++ [.text body]) := by
  rw [pieces_render_overrun]
  exact overrun_eq _

/-- What is found in the tags that are read is a front of what is found in those that were written. -/
theorem ReadsTags.filterMap_contents_render {β : Type} {f : Content → Option β} (hf : ReadsTags f) (a : Artboard)
    (options : Options) :
    (contents (render a options)).filterMap f <+: ((artboardPieces a options).map Piece.content).filterMap f := by
  obtain ⟨before, after, hsplit, hread⟩ := pieces_render_cases a options
  rw [contents_eq, hsplit, List.map_append, List.filterMap_append]
  rcases hread with hread | ⟨body, hread⟩
  · rw [hread]
    exact List.prefix_append _ _
  · have hnone : ([Piece.text body].map Piece.content).filterMap f = [] := List.filterMap_cons_none (hf.text body)
    rw [hread, List.map_append, List.filterMap_append, hnone, List.append_nil]
    exact List.prefix_append _ _

theorem forall_artboardPieces {P : Piece → Prop} {a : Artboard} {options : Options}
    (hframe : P (openPiece "div".toList (frameAttributes a) false)) (hclose : ∀ tag, P (closePiece tag))
    (htree : ∀ p ∈ nodePieces (artboardContext a options) false a.tree, P p) :
    ∀ p ∈ artboardPieces a options, P p := by
  intro p hp
  rw [artboardPieces] at hp
  split at hp
  · rw [List.mem_cons, List.mem_append, List.mem_singleton] at hp
    rcases hp with rfl | hp | rfl
    · exact hframe
    · exact htree p hp
    · exact hclose _
  · exact htree p hp

section

variable {a : Artboard} {options : Options}
  (h : ∀ r ∈ reached (SlotIndex.ofSlots a.slots) false a.tree, PlainLines (SlotIndex.ofSlots a.slots) r.1)

include h

theorem runsOn_artboardPieces : ∀ p ∈ artboardPieces a options, p.runsOn = false :=
  forall_artboardPieces rfl (fun _ => rfl) (runsOn_nodePieces a.tree h)

theorem pieces_render : Scanner.pieces (render a options) = artboardPieces a options := by
  rw [pieces_render_overrun, overrun_eq_self (runsOn_artboardPieces h)]

theorem contents_render : contents (render a options) = (artboardPieces a options).map Piece.content := by
  rw [contents_eq, pieces_render h]

end

theorem Composable.artboardPieces {Q : Bool → List Content → Prop} (h : Composable Q) (a : Artboard)
    (options : Options) : Q false ((artboardPieces a options).map Piece.content) := by
  have htree : Q false ((Render.nodePieces (artboardContext a options) false a.tree).map Piece.content) :=
    h.nodePieces a.tree
  rw [Render.artboardPieces]
  split
  · rw [List.map_cons, List.map_append, content_openPiece]
    exact h.element _ _ _ _ (by decide) (fun _ => rfl) htree
  · exact htree

theorem nested_artboardPieces (a : Artboard) (options : Options) :
    Nested ((artboardPieces a options).map Piece.content) := composable_nested.artboardPieces a options

/-- The entry of the box around the tree. -/
def frameEntry (a : Artboard) : Entry :=
  ⟨some frameKey, some frameNodeId.toList, "div".toList, escapeAttr (classValue (frameTokens a.frame))⟩

theorem indexed?_frame (a : Artboard) :
    (openPiece "div".toList (frameAttributes a) false).content.indexed? = some (frameEntry a) := by
  have hrelative : "relative".toList ∈ frameTokens a.frame := List.mem_cons_self
  have htokens := isBlankText_classValue hrelative (by rfl)
  have hvalue : isBlankText (escapeAttr (classValue (frameTokens a.frame))) = false := by
    rw [isBlankText_escapeAttr, htokens]
  have hkey : filled? (escapeAttr frameKey) = some frameKey := by decide
  have hnode : filled? (escapeAttr frameNodeId.toList) = some frameNodeId.toList := by decide
  have hdiv : asciiLower "div".toList = "div".toList := by decide
  rw [frameAttributes, indexed?_openPiece _ _ htokens (by simp), Option.bind_some, hkey, hnode, entryOf?, hdiv]
  simp [hvalue, frameEntry]

theorem ReadsTags.artboardPieces {β : Type} {f : Content → Option β} (h : ReadsTags f) {a : Artboard}
    {options : Options} {g : Layer → Bool → Option β}
    (hopen : ∀ inside n selfClosing, f (openPiece (tagDrawn (artboardContext a options) inside n.layer)
      (attributesDrawn (artboardContext a options) inside n) selfClosing).content = g n.layer inside) :
    ((artboardPieces a options).map Piece.content).filterMap f =
      (if options.frameWrapper then (f (openPiece "div".toList (frameAttributes a) false).content).toList else []) ++
        (reached (SlotIndex.ofSlots a.slots) false a.tree).filterMap fun r => g r.1 r.2 := by
  have htree : ((Render.nodePieces (artboardContext a options) false a.tree).map Piece.content).filterMap f =
      (reached (SlotIndex.ofSlots a.slots) false a.tree).filterMap fun r => g r.1 r.2 := h.nodePieces hopen a.tree
  rw [Render.artboardPieces]
  split
  · have hclose : f (closePiece "div".toList).content = none := h.endTag _
    rw [List.map_cons, filterMap_cons_toList, List.map_append, List.filterMap_append, htree, List.map_singleton,
      List.filterMap_cons_none hclose, List.filterMap_nil, List.append_nil]
  · exact htree

theorem entries_artboardPieces (a : Artboard) (options : Options) :
    ((artboardPieces a options).map Piece.content).filterMap Content.indexed? =
      (if options.frameWrapper then [frameEntry a] else []) ++
        (reached (SlotIndex.ofSlots a.slots) false a.tree).filterMap fun r =>
          entryDrawn? (artboardContext a options) r.1 r.2 := by
  rw [readsTags_indexed.artboardPieces fun inside n selfClosing => indexed?_drawn _ inside n selfClosing,
    indexed?_frame]
  rfl

end

/-- The elements of a drawn design are its frame, if that is drawn, and the nodes of the walk that have a node id
or a key, in this order; and every end tag closes the innermost element, none being left open. -/
theorem elements_render (a : Artboard) (options : Options)
    (h : ∀ r ∈ reached (SlotIndex.ofSlots a.slots) false a.tree, PlainLines (SlotIndex.ofSlots a.slots) r.1) :
    (elements (render a options)).map Element.entry =
      (if options.frameWrapper then [frameEntry a] else []) ++
        (reached (SlotIndex.ofSlots a.slots) false a.tree).filterMap
          (fun r => entryDrawn? (artboardContext a options) r.1 r.2) ∧
    (elements (render a options)).map (·.index) = List.range (elements (render a options)).length ∧
    (∀ e ∈ elements (render a options), e.classSpan.slice? (render a options) = some e.classes) ∧
    openAfter [] (contents (render a options)) = some [] := by
  refine ⟨?_, map_index_elements _, slice_classSpan _, ?_⟩
  · rw [map_entry_elements, contents_render h, entries_artboardPieces]
  · rw [contents_render h]
    exact nested_artboardPieces a options []

/-- A text of two lines. -/
def plainText : Layer :=
  { id := "t", name := "Title", kind := .text, visible := true, x := 0, y := 0, w := 8, h := 2
    fills := [], radius := none, stroke := none, shadows := [], opacity := 1, blendMode := none
    text := some
      { characters := "Hi\nyou", fontFamily := none, fontSize := none, fontWeight := none, lineHeight := none
        letterSpacing := none, align := .left, color := none, italic := false, decoration := .none
        uppercase := false }
    image := none, actions := none }

def plainBox : Layer := { plainText with id := "b", name := "Box", kind := .container, text := none }

def plainArtboard : Artboard := ⟨⟨0, 0, 8, 2⟩, .mk plainBox [.mk plainText []], NameMap.empty⟩

theorem reached_plainArtboard : reached (SlotIndex.ofSlots plainArtboard.slots) false plainArtboard.tree =
    [(plainBox, false), (plainText, false)] := rfl

theorem elements_render_plainArtboard :
    (∀ r ∈ reached (SlotIndex.ofSlots plainArtboard.slots) false plainArtboard.tree,
      PlainLines (SlotIndex.ofSlots plainArtboard.slots) r.1) ∧
    ((elements (render plainArtboard Options.standard)).map Element.entry).map (·.nodeId) =
      [some "__frame".toList, some "b".toList, some "t".toList] := by
  have hplain : ∀ r ∈ reached (SlotIndex.ofSlots plainArtboard.slots) false plainArtboard.tree,
      PlainLines (SlotIndex.ofSlots plainArtboard.slots) r.1 := by
    rw [reached_plainArtboard]
    intro r hr
    rcases List.mem_pair.mp hr with rfl | rfl
    · intro content hcontent
      cases hcontent
    · intro content hcontent _ line hline ch hch
      cases hcontent
      rcases List.mem_pair.mp hline with rfl | rfl <;> cases hch <;> decide
  refine ⟨hplain, ?_⟩
  rw [(elements_render plainArtboard Options.standard hplain).1, reached_plainArtboard]
  rfl

end ResponsiveMarkup.Render
