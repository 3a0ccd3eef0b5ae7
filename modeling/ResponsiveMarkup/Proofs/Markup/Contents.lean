import Mathlib.Data.List.Basic
import ResponsiveMarkup.Markup.Element

/-!
What a markup says, whatever bytes its tokens stand at. The elements of a markup are those of what it says, in
order, and their places count up from zero.
-/

namespace ResponsiveMarkup

open Text

/-- A token without its position. Attributes are names with their values. -/
inductive Content where
  | startTag (name : Text) (attributes : List (Text × Option Text)) (selfClosing : Bool)
  | endTag (name : Text)
  | comment (body : Text)
  | text (body : Text)
  deriving DecidableEq, Repr

def Token.content (t : Token) : Content :=
  match t.kind with
  | .startTag tag => .startTag tag.name (tag.attributes.map fun a => (a.name, a.value)) tag.selfClosing
  | .endTag name _ => .endTag name
  | .comment body => .comment body
  | .text body => .text body

def contents (markup : Text) : List Content := (tokenize markup).map Token.content

/-- A content without attributes. -/
def Content.bare : Content → Content
  | startTag name _ selfClosing => startTag name [] selfClosing
  | c => c

/-- An element without its place and position. -/
structure Entry where
  key : Option Text
  nodeId : Option Text
  tag : Text
  classes : Text
  deriving DecidableEq, Repr

def Element.entry (e : Element) : Entry := ⟨e.key, e.nodeId, e.tag, e.classes⟩

/-- The value of the first attribute of a name. -/
def valueOf? (attributes : List (Text × Option Text)) (name : Text) : Option Text :=
  (attributes.find? fun a => sameName a.1 name).bind (·.2)

/-- A value without the blanks around it, if anything is left. -/
def filled? (v : Text) : Option Text := if (trim v).isEmpty then none else some (trim v)

def entryOf? (tag : Text) (key nodeId classes : Option Text) : Option Entry :=
  if key.isNone && nodeId.isNone then none
  else classes.bind fun v => if isBlankText v then none else some ⟨key, nodeId, asciiLower tag, v⟩

/-- The element that a start tag makes. -/
def Content.indexed? : Content → Option Entry
  | startTag name attributes _ =>
    entryOf? name ((valueOf? attributes Names.key).bind filled?)
      ((valueOf? attributes Names.nodeId).bind filled?) (valueOf? attributes Names.classes)
  | _ => none

/-- The value of the first class attribute. -/
def Content.class? : Content → Option Text
  | startTag _ attributes _ => valueOf? attributes Names.classes
  | _ => none

/-- What a part of a tag says. -/
def TagPart.content? : TagPart → Option (Text × Option Text)
  | named _ name none => some (name, none)
  | named _ name (some a) => some (name, a.value.text?)
  | _ => none

def Piece.content : Piece → Content
  | startTag t => .startTag t.name (t.parts.filterMap TagPart.content?) (t.stop == .selfClose)
  | endTag name _ => .endTag name
  | comment body _ => .comment body
  | declaration body _ => .comment body
  | text body => .text body

theorem filterMap_cons_toList {α β : Type} (f : α → Option β) (a : α) (as : List α) :
    (a :: as).filterMap f = (f a).toList ++ as.filterMap f := by
  cases h : f a <;> simp [h]

theorem map_attributesFrom (start : Nat) (parts : List TagPart) :
    (attributesFrom start parts).map (fun a => (a.name, a.value)) = parts.filterMap TagPart.content? := by
  induction parts generalizing start with
  | nil => rfl
  | cons part parts ih =>
    rw [attributesFrom, List.map_append, ih]
    cases part with
    | slash lead => rfl
    | nameless lead indent value => rfl
    | named lead name assigned => cases assigned <;> rfl

theorem content_token (start : Nat) (p : Piece) (r : Span) : Token.content ⟨p.kind start, r⟩ = p.content := by
  cases p with
  | startTag t => simp only [Token.content, Piece.kind, TagText.startTag, map_attributesFrom, Piece.content]
  | endTag name tail => rfl
  | comment body closed => rfl
  | declaration body closed => rfl
  | text body => rfl

theorem map_content_tokensFrom (start : Nat) (ps : List Piece) :
    (tokensFrom start ps).map Token.content = ps.map Piece.content := by
  induction ps generalizing start with
  | nil => rfl
  | cons p ps ih => rw [tokensFrom, List.map_cons, List.map_cons, content_token, ih]

theorem contents_eq (markup : Text) : contents markup = (Scanner.pieces markup).map Piece.content :=
  map_content_tokensFrom 0 _

/-- An attribute has a value just when it has a range for it. -/
def Attribute.Paired (a : Attribute) : Prop := a.value.isSome = a.valueSpan.isSome

theorem TagPart.paired_attribute {start : Nat} {part : TagPart} {a : Attribute}
    (h : part.attribute? start = some a) : a.Paired := by
  cases part with
  | slash lead => cases h
  | nameless lead indent value => cases h
  | named lead name assigned =>
    cases assigned with
    | none => cases h; rfl
    | some b => cases h; simp [Attribute.Paired]

theorem paired_attributesFrom {start : Nat} {parts : List TagPart} :
    ∀ a ∈ attributesFrom start parts, a.Paired := by
  induction parts generalizing start with
  | nil => exact fun a ha => nomatch ha
  | cons part parts ih =>
    intro a ha
    rcases List.mem_append.mp ha with ha | ha
    · exact part.paired_attribute (Option.mem_toList.mp ha)
    · exact ih a ha

theorem valueOf?_attributes (tag : StartTag) (name : Text) :
    valueOf? (tag.attributes.map fun a => (a.name, a.value)) name = tag.value? name := by
  simp only [valueOf?, StartTag.value?, StartTag.attribute?, List.find?_map, Option.bind_map]
  rfl

theorem filterMap_class? (markup : Text) :
    (startTags markup).filterMap (·.value? Names.classes) = (contents markup).filterMap Content.class? := by
  rw [startTags, contents, List.filterMap_filterMap, List.filterMap_map]
  apply List.filterMap_congr
  intro token _
  obtain ⟨kind, span⟩ := token
  cases kind with
  | startTag tag => exact (valueOf?_attributes tag Names.classes).symm
  | endTag name nameSpan => rfl
  | comment body => rfl
  | text body => rfl

/-- Each token is that of a piece, which begins where the pieces in front of it end. -/
theorem mem_tokensFrom {start : Nat} {ps : List Piece} {t : Token} (h : t ∈ tokensFrom start ps) :
    ∃ before p after, ps = before ++ p :: after ∧
      t = ⟨p.kind (start + byteLength (before.flatMap Piece.source)),
        Span.of (start + byteLength (before.flatMap Piece.source)) p.source⟩ := by
  induction ps generalizing start with
  | nil => cases h
  | cons p ps ih =>
    rcases List.mem_cons.mp h with rfl | h
    · exact ⟨[], p, ps, rfl, rfl⟩
    · obtain ⟨before, q, after, hsplit, ht⟩ := ih h
      refine ⟨p :: before, q, after, by rw [hsplit]; rfl, ?_⟩
      rw [List.flatMap_cons, byteLength_append, ← Nat.add_assoc]
      exact ht

theorem exists_of_mem_startTags {markup : Text} {tag : StartTag} (h : tag ∈ startTags markup) :
    ∃ t, Piece.startTag t ∈ Scanner.pieces markup ∧ ∃ start, tag = t.startTag start := by
  obtain ⟨token, htoken, htag⟩ := List.mem_filterMap.mp h
  obtain ⟨before, p, after, hsplit, rfl⟩ := mem_tokensFrom htoken
  have hp : p ∈ Scanner.pieces markup := by
    rw [hsplit]
    exact List.mem_append_right _ List.mem_cons_self
  cases p with
  | startTag t =>
    cases htag
    exact ⟨t, hp, _, rfl⟩
  | endTag name tail => cases htag
  | comment body closed => cases htag
  | declaration body closed => cases htag
  | text body => cases htag

theorem paired_of_mem_startTags {markup : Text} {tag : StartTag} (h : tag ∈ startTags markup) :
    ∀ a ∈ tag.attributes, a.Paired := by
  obtain ⟨t, -, start, rfl⟩ := exists_of_mem_startTags h
  exact paired_attributesFrom

theorem StartTag.trimmed?_eq (tag : StartTag) (name : Text) :
    tag.trimmed? name = (tag.value? name).bind filled? := rfl

theorem StartTag.entry_element? {tag : StartTag} (h : ∀ a ∈ tag.attributes, a.Paired) (index : Nat) :
    (tag.element? index).map Element.entry =
      (Content.startTag tag.name (tag.attributes.map fun a => (a.name, a.value)) tag.selfClosing).indexed? := by
  simp only [Content.indexed?, valueOf?_attributes, ← StartTag.trimmed?_eq, entryOf?, StartTag.element?]
  split
  · rfl
  · simp only [StartTag.value?]
    cases hfound : tag.attribute? Names.classes with
    | none => rfl
    | some a =>
      have hpair := h a (List.mem_of_find?_eq_some hfound)
      obtain ⟨name, value, valueSpan, outerSpan⟩ := a
      cases value with
      | none => rfl
      | some v =>
        cases valueSpan with
        | none => simp [Attribute.Paired] at hpair
        | some r =>
          simp only [Option.bind_eq_bind, Option.bind_some]
          split <;> rfl

theorem StartTag.index_element? {tag : StartTag} {index : Nat} {e : Element} (h : tag.element? index = some e) :
    e.index = index := by
  simp only [StartTag.element?] at h
  split at h
  · cases h
  · obtain ⟨a, -, h⟩ := Option.bind_eq_some_iff.mp h
    obtain ⟨v, -, h⟩ := Option.bind_eq_some_iff.mp h
    obtain ⟨r, -, h⟩ := Option.bind_eq_some_iff.mp h
    split at h
    · cases h
    · cases h
      rfl

def Piece.element? (index start : Nat) : Piece → Option Element
  | startTag t => (t.startTag start).element? index
  | _ => none

/-- The elements that pieces make, the first of them at byte `start`. -/
def elementsOf (index start : Nat) : List Piece → List Element
  | [] => []
  | p :: ps =>
    match p.element? index start with
    | some e => e :: elementsOf (index + 1) (start + byteLength p.source) ps
    | none => elementsOf index (start + byteLength p.source) ps

theorem elementsFrom_tokensFrom (index start : Nat) (ps : List Piece) :
    elementsFrom index ((tokensFrom start ps).filterMap fun token =>
      match token.kind with
      | .startTag tag => some tag
      | _ => none) = elementsOf index start ps := by
  induction ps generalizing index start with
  | nil => rfl
  | cons p ps ih =>
    cases p with
    | startTag t =>
      simp only [tokensFrom, Piece.kind, List.filterMap_cons]
      rw [elementsFrom, elementsOf, ih, ih]
      rfl
    | endTag name tail => exact ih _ _
    | comment body closed => exact ih _ _
    | declaration body closed => exact ih _ _
    | text body => exact ih _ _

theorem elements_eq (markup : Text) : elements markup = elementsOf 0 0 (Scanner.pieces markup) :=
  elementsFrom_tokensFrom 0 0 _

theorem Piece.entry_element? (index start : Nat) (p : Piece) :
    (p.element? index start).map Element.entry = p.content.indexed? := by
  cases p with
  | startTag t =>
    have hpaired : ∀ a ∈ (t.startTag start).attributes, a.Paired := paired_attributesFrom
    rw [Piece.element?, StartTag.entry_element? hpaired]
    simp only [TagText.startTag, map_attributesFrom, Piece.content]
  | endTag name tail => rfl
  | comment body closed => rfl
  | declaration body closed => rfl
  | text body => rfl

theorem Piece.startTag_of_element? {index start : Nat} {p : Piece} {e : Element}
    (h : p.element? index start = some e) : ∃ t, p = .startTag t ∧ (t.startTag start).element? index = some e := by
  cases p with
  | startTag t => exact ⟨t, rfl, h⟩
  | endTag name tail => cases h
  | comment body closed => cases h
  | declaration body closed => cases h
  | text body => cases h

/-- Each element is that of a piece, which begins where the pieces in front of it end. -/
theorem mem_elementsOf {index start : Nat} {ps : List Piece} {e : Element} (h : e ∈ elementsOf index start ps) :
    ∃ before p after place, ps = before ++ p :: after ∧
      p.element? place (start + byteLength (before.flatMap Piece.source)) = some e := by
  induction ps generalizing index start with
  | nil => cases h
  | cons p ps ih =>
    have hrest {place : Nat} (hin : e ∈ elementsOf place (start + byteLength p.source) ps) :
        ∃ before q after place, p :: ps = before ++ q :: after ∧
          q.element? place (start + byteLength (before.flatMap Piece.source)) = some e := by
      obtain ⟨before, q, after, place, hsplit, hq⟩ := ih hin
      refine ⟨p :: before, q, after, place, by rw [hsplit]; rfl, ?_⟩
      rw [List.flatMap_cons, byteLength_append, ← Nat.add_assoc]
      exact hq
    rw [elementsOf] at h
    cases hp : p.element? index start with
    | none =>
      rw [hp] at h
      exact hrest h
    | some d =>
      rw [hp] at h
      rcases List.mem_cons.mp h with rfl | h
      · exact ⟨[], p, ps, index, rfl, hp⟩
      · exact hrest h

theorem map_entry_elementsOf (index start : Nat) (ps : List Piece) :
    (elementsOf index start ps).map Element.entry = (ps.map Piece.content).filterMap Content.indexed? := by
  induction ps generalizing index start with
  | nil => rfl
  | cons p ps ih =>
    have hp := p.entry_element? index start
    rw [elementsOf, List.map_cons]
    cases he : p.element? index start with
    | none =>
      rw [he] at hp
      rw [List.filterMap_cons_none hp.symm]
      exact ih _ _
    | some e =>
      rw [he] at hp
      rw [List.filterMap_cons_some hp.symm, List.map_cons, ih]

theorem map_index_elementsOf (index start : Nat) (ps : List Piece) :
    (elementsOf index start ps).map (·.index) = List.range' index (elementsOf index start ps).length := by
  induction ps generalizing index start with
  | nil => rfl
  | cons p ps ih =>
    rw [elementsOf]
    cases he : p.element? index start with
    | none => exact ih _ _
    | some e =>
      obtain ⟨t, -, ht⟩ := Piece.startTag_of_element? he
      simp only [List.map_cons, List.length_cons, List.range'_succ, ih, StartTag.index_element? ht]

/-- The elements of a markup are those of its contents. -/
theorem map_entry_elements (markup : Text) :
    (elements markup).map Element.entry = (contents markup).filterMap Content.indexed? := by
  rw [elements_eq, contents_eq, map_entry_elementsOf]

theorem map_index_elements (markup : Text) :
    (elements markup).map (·.index) = List.range (elements markup).length := by
  rw [elements_eq, map_index_elementsOf, List.range_eq_range']

theorem index_getElem_elements (markup : Text) (i : Nat) (h : i < (elements markup).length) :
    (elements markup)[i].index = i := by
  have hi := List.getElem_of_eq (map_index_elements markup) (i := i) (by simpa using h)
  simpa using hi

/-! ### Nesting -/

/-- The elements open after reading on, the innermost first, given those open before. An end tag that does not
close the innermost breaks the nesting. -/
def openAfter : List Text → List Content → Option (List Text)
  | stack, [] => some stack
  | stack, .startTag name _ selfClosing :: cs =>
    openAfter (if selfClosing || isVoidTag name then stack else name :: stack) cs
  | [], .endTag _ :: _ => none
  | innermost :: outer, .endTag name :: cs => if sameName innermost name then openAfter outer cs else none
  | stack, _ :: cs => openAfter stack cs

/-- Whatever is open before is open after, and nothing else. -/
def Nested (cs : List Content) : Prop := ∀ stack, openAfter stack cs = some stack

theorem openAfter_append (stack : List Text) (cs ds : List Content) :
    openAfter stack (cs ++ ds) = (openAfter stack cs).bind fun below => openAfter below ds := by
  induction cs generalizing stack with
  | nil => rfl
  | cons c cs ih =>
    cases c with
    | startTag name attributes selfClosing => exact ih _
    | endTag name =>
      cases stack with
      | nil => rfl
      | cons innermost outer =>
        simp only [List.cons_append, openAfter]
        split
        · exact ih outer
        · rfl
    | comment body => exact ih stack
    | text body => exact ih stack

theorem openAfter_bare (stack : List Text) (cs : List Content) :
    openAfter stack (cs.map Content.bare) = openAfter stack cs := by
  induction cs generalizing stack with
  | nil => rfl
  | cons c cs ih =>
    cases c with
    | startTag name attributes selfClosing => exact ih _
    | endTag name =>
      cases stack with
      | nil => rfl
      | cons innermost outer => simp only [List.map_cons, Content.bare, openAfter, ih]
    | comment body => exact ih stack
    | text body => exact ih stack

theorem Nested.nil : Nested [] := fun _ => rfl

theorem Nested.append {cs ds : List Content} (hc : Nested cs) (hd : Nested ds) : Nested (cs ++ ds) := by
  intro stack
  rw [openAfter_append, hc, Option.bind_some, hd]

theorem Nested.comment (body : Text) : Nested [.comment body] := fun _ => rfl

theorem Nested.text (body : Text) : Nested [.text body] := fun _ => rfl

theorem Nested.selfClosing (name : Text) (attributes : List (Text × Option Text)) :
    Nested [.startTag name attributes true] := fun _ => rfl

theorem Nested.element {name : Text} (attributes : List (Text × Option Text)) {cs : List Content}
    (hvoid : isVoidTag name = false) (h : Nested cs) :
    Nested (.startTag name attributes false :: (cs ++ [.endTag name])) := by
  intro stack
  have hsame : sameName name name = true := by simp [sameName]
  rw [openAfter, hvoid, Bool.or_self, if_neg (by simp), openAfter_append, h, Option.bind_some, openAfter,
    if_pos hsame, openAfter]

end ResponsiveMarkup
