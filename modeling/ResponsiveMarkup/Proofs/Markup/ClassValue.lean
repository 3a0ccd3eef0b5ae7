import Mathlib.Data.List.Basic
import ResponsiveMarkup.Proofs.Markup.Contents
import ResponsiveMarkup.Proofs.Markup.Grammar
import ResponsiveMarkup.Proofs.Markup.Replacement

/-!
Giving elements new class values. On the pieces of a markup that is an edit of one attribute of a tag; on its
text it is a replacement of the range that the element names; and on what the markup says it changes nothing
but that value, as long as the value is in double quotes and brings none of its own.
-/

namespace ResponsiveMarkup

open Text

namespace AttributeValue

/-- The value written in the same way with another text. -/
def withText (v : Text) : AttributeValue → AttributeValue
  | quoted q _ closed => quoted q v closed
  | bare _ => bare v
  | missing => missing

theorem text?_withText (v : Text) (a : AttributeValue) : (a.withText v).text? = a.text?.map fun _ => v := by
  cases a <;> rfl

/-- What stands around the text of a value does not depend on that text. -/
theorem source_withText {a : AttributeValue} {v : Text} (h : a.text? = some v) :
    a.withText v = a ∧ ∃ opening closing, byteLength opening = a.opening ∧
      ∀ w, (a.withText w).source = opening ++ w ++ closing := by
  cases a with
  | quoted q body closed =>
    cases h
    refine ⟨rfl, [q], if closed then [q] else [], by simp [byteLength, opening], fun w => ?_⟩
    simp [withText, source]
  | bare body =>
    cases h
    exact ⟨rfl, [], [], rfl, fun w => by simp [withText, source]⟩
  | missing => cases h

end AttributeValue

namespace TagPart

def withValue (v : Text) : TagPart → TagPart
  | named lead name (some a) => named lead name (some { a with value := a.value.withText v })
  | part => part

def isClass : TagPart → Bool
  | named _ name _ => sameName name Names.classes
  | _ => false

end TagPart

/-- The parts of a tag with another value for the first class attribute. -/
def setClass (v : Text) : List TagPart → List TagPart
  | [] => []
  | part :: parts => if part.isClass then part.withValue v :: parts else part :: setClass v parts

def Piece.withClass (v : Text) : Piece → Piece
  | startTag t => startTag { t with parts := setClass v t.parts }
  | p => p

/-- The pieces with the class value of each element `e` replaced by `g e`. -/
def reclass (g : Element → Text) (index start : Nat) : List Piece → List Piece
  | [] => []
  | p :: ps =>
    match p.element? index start with
    | some e => p.withClass (g e) :: reclass g (index + 1) (start + byteLength p.source) ps
    | none => p :: reclass g index (start + byteLength p.source) ps

/-! ### The text -/

/-- The first class attribute of a tag is written by its first part of that name. -/
theorem find_class {start : Nat} {parts : List TagPart} {a : Attribute}
    (h : (attributesFrom start parts).find? (fun a => sameName a.name Names.classes) = some a) :
    ∃ before part after, parts = before ++ part :: after ∧ (∀ q ∈ before, q.isClass = false) ∧
      part.isClass = true ∧ part.attribute? (start + byteLength (before.flatMap TagPart.source)) = some a := by
  induction parts generalizing start with
  | nil => cases h
  | cons part parts ih =>
    rw [attributesFrom, List.find?_append] at h
    cases hclass : part.isClass with
    | true =>
      refine ⟨[], part, parts, rfl, by simp, hclass, ?_⟩
      cases part with
      | slash lead => cases hclass
      | nameless lead indent value => cases hclass
      | named lead name assigned =>
        have hname : sameName name Names.classes = true := hclass
        cases assigned <;> simpa [TagPart.attribute?, hname, byteLength] using h
    | false =>
      have hnone : (part.attribute? start).toList.find? (fun a => sameName a.name Names.classes) = none := by
        cases part with
        | slash lead => rfl
        | nameless lead indent value => rfl
        | named lead name assigned =>
          have hname : sameName name Names.classes = false := hclass
          cases assigned <;> simp [TagPart.attribute?, hname]
      rw [hnone, Option.none_or] at h
      obtain ⟨before, q, after, hsplit, hbefore, hq, ha⟩ := ih h
      refine ⟨part :: before, q, after, by rw [hsplit]; rfl, ?_, hq, ?_⟩
      · intro r hr
        rcases List.mem_cons.mp hr with rfl | hr
        · exact hclass
        · exact hbefore r hr
      · rw [List.flatMap_cons, byteLength_append, ← Nat.add_assoc]
        exact ha

theorem setClass_append {before after : List TagPart} {part : TagPart} (hbefore : ∀ q ∈ before, q.isClass = false)
    (hclass : part.isClass = true) (v : Text) :
    setClass v (before ++ part :: after) = before ++ part.withValue v :: after := by
  induction before with
  | nil => rw [List.nil_append, setClass, if_pos hclass]; rfl
  | cons q before ih =>
    have hq := hbefore q List.mem_cons_self
    rw [List.cons_append, setClass, hq, if_neg (by simp), ih fun r hr => hbefore r (List.mem_cons_of_mem q hr)]
    rfl

/-- A part that writes an attribute with a value, and what stands around the text of the value. -/
theorem TagPart.source_withValue {start : Nat} {part : TagPart} {a : Attribute} {v : Text} {r : Span}
    (h : part.attribute? start = some a) (hv : a.value = some v) (hr : a.valueSpan = some r) :
    part.withValue v = part ∧ ∃ opening closing, r = Span.of (start + byteLength opening) v ∧
      ∀ w, (part.withValue w).source = opening ++ w ++ closing := by
  cases part with
  | slash lead => cases h
  | nameless lead indent value => cases h
  | named lead name assigned =>
    cases assigned with
    | none =>
      cases h
      cases hv
    | some b =>
      cases h
      simp only at hv hr
      rw [hv, Option.map_some, Option.some.injEq] at hr
      obtain ⟨hsame, opening, closing, hlen, hsource⟩ := AttributeValue.source_withText hv
      refine ⟨by simp [withValue, hsame], lead ++ name ++ b.gap ++ '=' :: b.indent ++ opening, closing, ?_, ?_⟩
      · rw [← hr, ← hlen, byteLength_append _ opening, Nat.add_assoc]
      · intro w
        simp [withValue, TagPart.source, Assigned.source, hsource]

theorem source_setClass {start : Nat} {parts : List TagPart} {a : Attribute} {v : Text} {r : Span}
    (h : (attributesFrom start parts).find? (fun a => sameName a.name Names.classes) = some a)
    (hv : a.value = some v) (hr : a.valueSpan = some r) :
    setClass v parts = parts ∧ ∃ before after, r = Span.of (start + byteLength before) v ∧
      ∀ w, (setClass w parts).flatMap TagPart.source = before ++ w ++ after := by
  obtain ⟨before, part, after, rfl, hbefore, hclass, hpart⟩ := find_class h
  obtain ⟨hsame, opening, closing, hspan, hsource⟩ := TagPart.source_withValue hpart hv hr
  refine ⟨by rw [setClass_append hbefore hclass, hsame], before.flatMap TagPart.source ++ opening,
    closing ++ after.flatMap TagPart.source, ?_, ?_⟩
  · rw [hspan, byteLength_append, Nat.add_assoc]
  · intro w
    rw [setClass_append hbefore hclass, List.flatMap_append, List.flatMap_cons, hsource w]
    simp

theorem StartTag.class_of_element? {tag : StartTag} {index : Nat} {e : Element}
    (h : tag.element? index = some e) : ∃ a, tag.attribute? Names.classes = some a ∧
      a.value = some e.classes ∧ a.valueSpan = some e.classSpan ∧ isBlankText e.classes = false := by
  simp only [StartTag.element?] at h
  split at h
  · cases h
  · obtain ⟨a, ha, h⟩ := Option.bind_eq_some_iff.mp h
    obtain ⟨v, hv, h⟩ := Option.bind_eq_some_iff.mp h
    obtain ⟨r, hr, h⟩ := Option.bind_eq_some_iff.mp h
    split at h
    · cases h
    · rename_i hblank
      cases h
      exact ⟨a, ha, hv, hr, by simpa using hblank⟩

/-- An element's class value is a stretch of its tag, and another value goes into the same place. -/
theorem Piece.source_withClass {p : Piece} {index start : Nat} {e : Element}
    (h : p.element? index start = some e) :
    p.withClass e.classes = p ∧ ∃ before after, e.classSpan = Span.of (start + byteLength before) e.classes ∧
      ∀ w, (p.withClass w).source = before ++ w ++ after := by
  obtain ⟨t, rfl, ht⟩ := Piece.startTag_of_element? h
  obtain ⟨a, ha, hv, hr, -⟩ := StartTag.class_of_element? ht
  obtain ⟨hsame, before, after, hspan, hsource⟩ := source_setClass ha hv hr
  refine ⟨by simp [withClass, hsame], '<' :: t.name ++ before, after ++ t.lead ++ t.stop.source, ?_, ?_⟩
  · have hlt : '<'.utf8Size = 1 := by decide
    rw [hspan, List.cons_append, byteLength, byteLength_append, hlt]
    congr 1
    omega
  · intro w
    simp [withClass, Piece.source, TagText.source, hsource w]

/-- The splices that give elements their new values, left out or not where the value stays as it is, turn the
text of the pieces into that of the edited pieces. -/
theorem replaced_reclass {f : Element → Option Text} {g : Element → Text}
    (hfg : ∀ e, (f e).getD e.classes = g e) (index start : Nat) (ps : List Piece) :
    Replaced start (ps.flatMap Piece.source)
      ((elementsOf index start ps).filterMap fun e => (f e).map fun v => ⟨e.classSpan, v⟩)
      ((reclass g index start ps).flatMap Piece.source) := by
  induction ps generalizing index start with
  | nil => exact .nil start []
  | cons p ps ih =>
    rw [elementsOf, reclass]
    cases he : p.element? index start with
    | none => exact (ih index _).prepend
    | some e =>
      obtain ⟨hsame, before, after, hspan, hsource⟩ := Piece.source_withClass he
      have hold : p.source = before ++ e.classes ++ after := by rw [← hsource, hsame]
      rw [List.flatMap_cons, List.flatMap_cons, ← hfg e]
      cases hf : f e with
      | none =>
        rw [List.filterMap_cons_none (by rw [hf]; rfl), Option.getD_none, hsame]
        exact (ih _ _).prepend
      | some v =>
        rw [List.filterMap_cons_some (by rw [hf]; rfl), Option.getD_some]
        have hone : Replaced start p.source [⟨e.classSpan, v⟩] (p.withClass v).source := by
          rw [hold, hsource v]
          exact .single v hspan
        exact hone.append (ih _ _)

/-- Each element's range cuts its class value out of the markup. -/
theorem slice_classSpan (markup : Text) :
    ∀ e ∈ elements markup, e.classSpan.slice? markup = some e.classes := by
  intro e he
  rw [elements_eq] at he
  obtain ⟨before, p, after, place, hsplit, hp⟩ := mem_elementsOf he
  obtain ⟨hsame, opening, closing, hspan, hsource⟩ := Piece.source_withClass hp
  have hold : p.source = opening ++ e.classes ++ closing := by rw [← hsource, hsame]
  have hstands : StandsAt markup 0 ((before ++ p :: after).flatMap Piece.source) := by
    rw [← hsplit, Scanner.flatMap_source_pieces]
    exact standsAt_self markup
  rw [List.flatMap_append, List.flatMap_cons] at hstands
  have hpiece := hstands.right.left
  rw [hold] at hpiece
  rw [hspan]
  exact hpiece.inner

theorem classes_not_blank {markup : Text} : ∀ e ∈ elements markup, isBlankText e.classes = false := by
  intro e he
  rw [elements_eq] at he
  obtain ⟨_, _, _, _, -, hp⟩ := mem_elementsOf he
  obtain ⟨t, -, ht⟩ := Piece.startTag_of_element? hp
  obtain ⟨_, _, _, _, hblank⟩ := StartTag.class_of_element? ht
  exact hblank

theorem classSpan_filled {markup : Text} : ∀ e ∈ elements markup, e.classSpan.start < e.classSpan.stop := by
  intro e he
  obtain ⟨before, after, -, hspan⟩ := Span.slice?_eq_some_iff.mp (slice_classSpan markup e he)
  have hblank := classes_not_blank e he
  have hpos : 0 < byteLength e.classes := byteLength_pos (by rintro h; rw [h] at hblank; cases hblank)
  rw [hspan]
  simp only [Span.of]
  omega

end ResponsiveMarkup
