import Mathlib.Data.List.Forall2
import ResponsiveMarkup.Proofs.Markup.ClassValue

/-!
The scanner after an edit. Whether a piece fits what follows it hangs on very little of that text, and a new
class value leaves this little alone. So when class values are in double quotes and the new ones hold none,
scanning the edited text gives the edited pieces.
-/

namespace ResponsiveMarkup

open Text Scanner

/-- Two texts that look alike to a scanner that has them ahead: the first character is the same, and the first
that is no blank. -/
structure AlikeAhead (f f' : Text) : Prop where
  head : f.head? = f'.head?
  next : (f.dropWhile isSyntaxBlank).head? = (f'.dropWhile isSyntaxBlank).head?

namespace AlikeAhead

variable {f f' : Text}

theorem refl (f : Text) : AlikeAhead f f := ⟨rfl, rfl⟩

theorem cons_same {c : Char} (h : isSyntaxBlank c = false) (f f' : Text) : AlikeAhead (c :: f) (c :: f') := by
  constructor <;> simp [h]

theorem append_left (h : AlikeAhead f f') (s : Text) : AlikeAhead (s ++ f) (s ++ f') := by
  induction s with
  | nil => exact h
  | cons c s ih =>
    refine ⟨rfl, ?_⟩
    by_cases hc : isSyntaxBlank c = true
    · simpa [hc] using ih.next
    · simp [hc]

theorem nil_iff (h : AlikeAhead f f') : f = [] ↔ f' = [] := by
  rw [← List.head?_eq_none_iff, h.head, List.head?_eq_none_iff]

theorem head_append (h : f.head? = f'.head?) (s : Text) : (s ++ f).head? = (s ++ f').head? := by
  rw [List.head?_append, List.head?_append, h]

end AlikeAhead

theorem AttributeValue.Fits.alike {v : AttributeValue} {f f' : Text} (h : v.Fits f) (k : AlikeAhead f f') :
    v.Fits f' := by
  cases v with
  | quoted q body closed => exact ⟨h.1, h.2.1, fun hc => k.nil_iff.mp (h.2.2 hc)⟩
  | bare body =>
    obtain ⟨hbody, hstop, c, hc, hquote⟩ := h
    refine ⟨hbody, ?_, c, ?_, hquote⟩
    · rw [← k.head]
      exact hstop
    · rw [← hc]
      exact AlikeAhead.head_append k.head.symm body
  | missing => exact k.nil_iff.mp h

theorem TagPart.Fits.alike {part : TagPart} {f f' : Text} (h : part.Fits f) (k : AlikeAhead f f') :
    part.Fits f' := by
  cases part with
  | slash lead => exact ⟨h.1, k.head ▸ h.2⟩
  | nameless lead indent value => exact ⟨h.1, h.2.1, h.2.2.alike k⟩
  | named lead name assigned =>
    cases assigned with
    | none => exact ⟨h.1, h.2.1, k.head ▸ h.2.2.1, k.next ▸ h.2.2.2⟩
    | some a => exact ⟨h.1, h.2.1, h.2.2.1, h.2.2.2.1, h.2.2.2.2.alike k⟩

theorem PartsFit.alike {parts : List TagPart} {f f' : Text} (h : PartsFit parts f) (k : AlikeAhead f f') :
    PartsFit parts f' := by
  induction parts with
  | nil => trivial
  | cons part parts ih => exact ⟨h.1.alike (k.append_left _), ih h.2⟩

/-- Where a piece ends hangs on the first character behind it. -/
theorem Piece.Fits.alike {p : Piece} {f f' : Text} (h : p.Fits f) (k : f.head? = f'.head?) : p.Fits f' := by
  have hnil : f = [] ↔ f' = [] := by rw [← List.head?_eq_none_iff, k, List.head?_eq_none_iff]
  cases p with
  | startTag t =>
    obtain ⟨hname, hends, hparts, hlead, hstop⟩ := h
    refine ⟨hname, ?_, hparts.alike (AlikeAhead.append_left ?_ _), hlead, fun hc => hnil.mp (hstop hc)⟩
    · have hhead : (t.parts.flatMap TagPart.source ++ (t.lead ++ (t.stop.source ++ f'))).head? =
          (t.parts.flatMap TagPart.source ++ (t.lead ++ (t.stop.source ++ f))).head? :=
        AlikeAhead.head_append (AlikeAhead.head_append (AlikeAhead.head_append k.symm _) _) _
      rw [EndsTagName, hhead]
      exact hends
    · cases hs : t.stop with
      | close => exact AlikeAhead.cons_same (by decide) _ _
      | selfClose => exact AlikeAhead.cons_same (by decide) _ _
      | cutOff =>
        have hf := hstop hs
        have hf' := hnil.mp hf
        subst hf hf'
        exact .refl _
  | endTag name tail => exact ⟨h.1, h.2.1, h.2.2.imp_right fun hend => ⟨hend.1, hnil.mp hend.2⟩⟩
  | comment body closed => exact ⟨h.1, fun hc => hnil.mp (h.2 hc)⟩
  | declaration body closed => exact ⟨h.1, h.2.1, fun hc => hnil.mp (h.2.2 hc)⟩
  | text body =>
    obtain ⟨c, r, rfl, hcase⟩ := h
    refine ⟨c, r, rfl, ?_⟩
    split
    · rename_i hc
      rw [if_pos hc, k] at hcase
      exact hcase
    · rename_i hc
      rw [if_neg hc] at hcase
      exact hnil.mp hcase

/-- One piece in place of another: it begins as that one does, and fits wherever that one fits. -/
structure Piece.TakesPlaceOf (p' p : Piece) : Prop where
  head : p'.source.head? = p.source.head?
  fits : ∀ f, p.Fits f → p'.Fits f

theorem Piece.TakesPlaceOf.refl (p : Piece) : p.TakesPlaceOf p := ⟨rfl, fun _ h => h⟩

theorem head_of_takesPlace {ps ps' : List Piece} (k : List.Forall₂ Piece.TakesPlaceOf ps' ps) :
    (ps'.flatMap Piece.source).head? = (ps.flatMap Piece.source).head? := by
  induction k with
  | nil => rfl
  | cons hp _ ih => rw [List.flatMap_cons, List.flatMap_cons, List.head?_append, List.head?_append, ih, hp.head]

theorem Scanned.of_takesPlace {ps ps' : List Piece} (h : Scanned ps [])
    (k : List.Forall₂ Piece.TakesPlaceOf ps' ps) : Scanned ps' [] := by
  -- A piece sees only the first character behind it, and no piece changes how the text behind begins.
  induction k with
  | nil => trivial
  | cons hp hrest ih =>
    refine ⟨(hp.fits _ h.1).alike ?_, ih h.2⟩
    rw [List.append_nil, List.append_nil, head_of_takesPlace hrest]

/-- Pieces that take the places of those of a markup are read back as they are. -/
theorem pieces_of_takesPlace {markup : Text} {ps : List Piece}
    (k : List.Forall₂ Piece.TakesPlaceOf ps (pieces markup)) : pieces (ps.flatMap Piece.source) = ps :=
  pieces_of_scanned ((scanned_pieces markup).of_takesPlace k)

/-- No class value is written without quotes or in single ones. -/
def TagPart.ClassInDoubleQuotes : TagPart → Prop
  | named _ name (some a) => sameName name Names.classes = true →
      ∀ v, a.value.text? = some v → ∃ closed, a.value = .quoted '"' v closed
  | _ => True

/-- The class attributes of a markup are written in double quotes. -/
def ClassesInDoubleQuotes (markup : Text) : Prop :=
  ∀ t, Piece.startTag t ∈ pieces markup → ∀ part ∈ t.parts, part.ClassInDoubleQuotes

theorem AttributeValue.Fits.withText {v : Text} {f : Text} {a : AttributeValue} (h : a.Fits f)
    (hquoted : ∀ w, a.text? = some w → ∃ closed, a = .quoted '"' w closed) (hv : '"' ∉ v) :
    (a.withText v).Fits f := by
  cases ht : a.text? with
  | none =>
    cases a with
    | quoted q body closed => cases ht
    | bare body => cases ht
    | missing => exact h
  | some w =>
    obtain ⟨closed, rfl⟩ := hquoted w ht
    exact ⟨h.1, hv, h.2.2⟩

theorem TagPart.Fits.withValue {part : TagPart} {v f : Text} (h : part.Fits f) (hclass : part.isClass = true)
    (hquoted : part.ClassInDoubleQuotes) (hv : '"' ∉ v) : (part.withValue v).Fits f := by
  cases part with
  | slash lead => cases hclass
  | nameless lead indent value => cases hclass
  | named lead name assigned =>
    cases assigned with
    | none => exact h
    | some a =>
      obtain ⟨hlead, hname, hgap, hindent, hvalue⟩ := h
      exact ⟨hlead, hname, hgap, hindent, hvalue.withText (hquoted hclass) hv⟩

theorem TagPart.alike_withValue (part : TagPart) (v f : Text) :
    AlikeAhead (part.source ++ f) ((part.withValue v).source ++ f) := by
  cases part with
  | slash lead => exact .refl _
  | nameless lead indent value => exact .refl _
  | named lead name assigned =>
    cases assigned with
    | none => exact .refl _
    | some a =>
      have hsource (b : AttributeValue) : (TagPart.named lead name (some { a with value := b })).source ++ f =
          (lead ++ name ++ a.gap) ++ '=' :: (a.indent ++ b.source ++ f) := by
        simp [TagPart.source, Assigned.source]
      rw [withValue, hsource, hsource]
      exact (AlikeAhead.cons_same (by decide) _ _).append_left _

theorem alike_setClass (v f : Text) (parts : List TagPart) :
    AlikeAhead (parts.flatMap TagPart.source ++ f) ((setClass v parts).flatMap TagPart.source ++ f) := by
  induction parts with
  | nil => exact .refl f
  | cons part parts ih =>
    rw [setClass]
    split
    · rw [List.flatMap_cons, List.flatMap_cons, List.append_assoc, List.append_assoc]
      exact part.alike_withValue v _
    · rw [List.flatMap_cons, List.flatMap_cons, List.append_assoc, List.append_assoc]
      exact ih.append_left _

theorem PartsFit.setClass {parts : List TagPart} {v f : Text} (h : PartsFit parts f)
    (hquoted : ∀ part ∈ parts, part.ClassInDoubleQuotes) (hv : '"' ∉ v) : PartsFit (setClass v parts) f := by
  induction parts with
  | nil => trivial
  | cons part parts ih =>
    rw [ResponsiveMarkup.setClass]
    split
    · rename_i hclass
      exact ⟨h.1.withValue hclass (hquoted part List.mem_cons_self) hv, h.2⟩
    · exact ⟨h.1.alike (alike_setClass v f parts),
        ih h.2 fun q hq => hquoted q (List.mem_cons_of_mem part hq)⟩

theorem Piece.Fits.withClass {p : Piece} {v f : Text} (h : p.Fits f)
    (hquoted : ∀ t, p = .startTag t → ∀ part ∈ t.parts, part.ClassInDoubleQuotes) (hv : '"' ∉ v) :
    (p.withClass v).Fits f := by
  cases p with
  | startTag t =>
    obtain ⟨hname, hends, hparts, hlead, hstop⟩ := h
    refine ⟨hname, ?_, hparts.setClass (hquoted t rfl) hv, hlead, hstop⟩
    have hhead := (alike_setClass v (t.lead ++ (t.stop.source ++ f)) t.parts).head
    rw [EndsTagName] at hends ⊢
    rw [← hhead]
    exact hends
  | endTag name tail => exact h
  | comment body closed => exact h
  | declaration body closed => exact h
  | text body => exact h

theorem Piece.head_withClass (p : Piece) (v : Text) : (p.withClass v).source.head? = p.source.head? := by
  cases p <;> rfl

theorem takesPlace_reclass {g : Element → Text} {index start : Nat} {ps : List Piece}
    (hquoted : ∀ t, Piece.startTag t ∈ ps → ∀ part ∈ t.parts, part.ClassInDoubleQuotes)
    (hg : ∀ e ∈ elementsOf index start ps, '"' ∉ g e) :
    List.Forall₂ Piece.TakesPlaceOf (reclass g index start ps) ps := by
  induction ps generalizing index start with
  | nil => exact .nil
  | cons p ps ih =>
    have hrest (t) (ht : Piece.startTag t ∈ ps) := hquoted t (List.mem_cons_of_mem p ht)
    rw [elementsOf] at hg
    rw [reclass]
    cases he : p.element? index start with
    | none =>
      rw [he] at hg
      exact .cons (.refl p) (ih hrest hg)
    | some e =>
      rw [he] at hg
      refine .cons ⟨p.head_withClass _, fun f hf => hf.withClass ?_ (hg e List.mem_cons_self)⟩
        (ih hrest fun d hd => hg d (List.mem_cons_of_mem e hd))
      rintro t rfl
      exact hquoted t List.mem_cons_self

theorem mem_reclass {g : Element → Text} {index start : Nat} {ps : List Piece} {p : Piece}
    (h : p ∈ reclass g index start ps) :
    p ∈ ps ∨ ∃ q ∈ ps, ∃ e ∈ elementsOf index start ps, p = q.withClass (g e) := by
  induction ps generalizing index start with
  | nil => cases h
  | cons q ps ih =>
    rw [reclass] at h
    rw [elementsOf]
    cases he : q.element? index start with
    | none =>
      rw [he] at h
      rcases List.mem_cons.mp h with rfl | h
      · exact Or.inl List.mem_cons_self
      · rcases ih h with h | ⟨r, hr, e, hmem, rfl⟩
        · exact Or.inl (List.mem_cons_of_mem q h)
        · exact Or.inr ⟨r, List.mem_cons_of_mem q hr, e, hmem, rfl⟩
    | some d =>
      rw [he] at h
      rcases List.mem_cons.mp h with rfl | h
      · exact Or.inr ⟨q, List.mem_cons_self, d, List.mem_cons_self, rfl⟩
      · rcases ih h with h | ⟨r, hr, e, hmem, rfl⟩
        · exact Or.inl (List.mem_cons_of_mem q h)
        · exact Or.inr ⟨r, List.mem_cons_of_mem q hr, e, List.mem_cons_of_mem d hmem, rfl⟩

/-- Scanning a markup with new class values gives its pieces with those values. -/
theorem pieces_reclass {markup : Text} {g : Element → Text} (hquoted : ClassesInDoubleQuotes markup)
    (hg : ∀ e ∈ elements markup, '"' ∉ g e) :
    pieces ((reclass g 0 0 (pieces markup)).flatMap Piece.source) = reclass g 0 0 (pieces markup) := by
  rw [elements_eq] at hg
  exact pieces_of_takesPlace (takesPlace_reclass hquoted hg)

/-! ### What the edited text says -/

/-- Attributes with another value for the first one that is a class. -/
def setClassValue (v : Text) : List (Text × Option Text) → List (Text × Option Text)
  | [] => []
  | a :: as => if sameName a.1 Names.classes then (a.1, a.2.map fun _ => v) :: as else a :: setClassValue v as

def Content.withClass (v : Text) : Content → Content
  | startTag name attributes selfClosing => startTag name (setClassValue v attributes) selfClosing
  | c => c

/-- The contents with the class values of the elements, one after another, replaced by the given ones. -/
def reclassed : List Content → List Text → List Content
  | [], _ => []
  | c :: cs, vs =>
    match c.indexed?, vs with
    | some _, v :: vs => c.withClass v :: reclassed cs vs
    | _, vs => c :: reclassed cs vs

theorem reclassed_skip {c : Content} (h : c.indexed? = none) (cs : List Content) (vs : List Text) :
    reclassed (c :: cs) vs = c :: reclassed cs vs := by
  rw [reclassed]
  intro n v vs' hn
  rw [h] at hn
  cases hn

theorem reclassed_take {c : Content} {n : Entry} (h : c.indexed? = some n) (cs : List Content) (v : Text)
    (vs : List Text) : reclassed (c :: cs) (v :: vs) = c.withClass v :: reclassed cs vs := by
  simp only [reclassed, h]

theorem filterMap_setClass (v : Text) (parts : List TagPart) :
    (setClass v parts).filterMap TagPart.content? = setClassValue v (parts.filterMap TagPart.content?) := by
  induction parts with
  | nil => rfl
  | cons part parts ih =>
    rw [setClass]
    cases part with
    | slash lead => exact ih
    | nameless lead indent value => exact ih
    | named lead name assigned =>
      cases assigned with
      | none =>
        by_cases hname : sameName name Names.classes = true
        · simp [TagPart.isClass, TagPart.withValue, TagPart.content?, setClassValue, hname]
        · simp [TagPart.isClass, TagPart.content?, setClassValue, hname, ih]
      | some a =>
        by_cases hname : sameName name Names.classes = true
        · simp [TagPart.isClass, TagPart.withValue, TagPart.content?, setClassValue, hname,
            AttributeValue.text?_withText]
        · simp [TagPart.isClass, TagPart.content?, setClassValue, hname, ih]

theorem Piece.content_withClass (p : Piece) (v : Text) : (p.withClass v).content = p.content.withClass v := by
  cases p with
  | startTag t => simp only [withClass, content, Content.withClass, filterMap_setClass]
  | endTag name tail => rfl
  | comment body closed => rfl
  | declaration body closed => rfl
  | text body => rfl

theorem bare_reclass (g : Element → Text) (index start : Nat) (ps : List Piece) :
    (reclass g index start ps).map (fun p => p.content.bare) = ps.map fun p => p.content.bare := by
  induction ps generalizing index start with
  | nil => rfl
  | cons p ps ih =>
    rw [reclass]
    split
    · rw [List.map_cons, List.map_cons, ih]
      cases p <;> rfl
    · rw [List.map_cons, List.map_cons, ih]

theorem content_reclass (g : Element → Text) (index start : Nat) (ps : List Piece) :
    (reclass g index start ps).map Piece.content =
      reclassed (ps.map Piece.content) ((elementsOf index start ps).map g) := by
  induction ps generalizing index start with
  | nil => rfl
  | cons p ps ih =>
    have hp := p.entry_element? index start
    rw [reclass, elementsOf, List.map_cons]
    cases he : p.element? index start with
    | none =>
      rw [he] at hp
      rw [reclassed_skip hp.symm, List.map_cons, ih]
    | some e =>
      rw [he] at hp
      rw [List.map_cons, List.map_cons, reclassed_take hp.symm, Piece.content_withClass, ih]

theorem valueOf?_setClassValue (v : Text) (attributes : List (Text × Option Text)) :
    valueOf? (setClassValue v attributes) Names.classes =
      (valueOf? attributes Names.classes).map fun _ => v := by
  induction attributes with
  | nil => rfl
  | cons a as ih =>
    rw [setClassValue]
    by_cases ha : sameName a.1 Names.classes = true
    · simp [valueOf?, ha]
    · rw [if_neg ha]
      rw [Bool.not_eq_true] at ha
      simpa [valueOf?, List.find?_cons, ha] using ih

theorem valueOf?_setClassValue_of_ne {name : Text} (h : sameName Names.classes name = false) (v : Text)
    (attributes : List (Text × Option Text)) :
    valueOf? (setClassValue v attributes) name = valueOf? attributes name := by
  induction attributes with
  | nil => rfl
  | cons a as ih =>
    rw [setClassValue]
    by_cases ha : sameName a.1 Names.classes = true
    · have hother : sameName a.1 name = false := by
        simp only [sameName, beq_iff_eq] at ha h ⊢
        rw [ha]
        exact h
      simp [valueOf?, ha, hother]
    · rw [if_neg ha]
      cases hname : sameName a.1 name with
      | true => simp [valueOf?, hname]
      | false => simpa [valueOf?, List.find?_cons, hname] using ih

theorem Content.indexed?_withClass {c : Content} {n : Entry} {v : Text} (h : c.indexed? = some n)
    (hv : isBlankText v = false) : (c.withClass v).indexed? = some { n with classes := v } := by
  cases c with
  | startTag name attributes selfClosing =>
    simp only [withClass, indexed?, entryOf?] at h ⊢
    rw [valueOf?_setClassValue, valueOf?_setClassValue_of_ne (by decide),
      valueOf?_setClassValue_of_ne (by decide)]
    split at h
    · cases h
    · rename_i hmarked
      rw [if_neg hmarked]
      obtain ⟨w, hw, h⟩ := Option.bind_eq_some_iff.mp h
      split at h
      · cases h
      · cases h
        simp [hw, hv]
  | endTag name => cases h
  | comment body => cases h
  | text body => cases h

theorem entries_reclassed (g : Element → Text) (index start : Nat) (ps : List Piece)
    (hg : ∀ e ∈ elementsOf index start ps, isBlankText (g e) = false) :
    (reclassed (ps.map Piece.content) ((elementsOf index start ps).map g)).filterMap Content.indexed? =
      (elementsOf index start ps).map fun e => { e.entry with classes := g e } := by
  induction ps generalizing index start with
  | nil => rfl
  | cons p ps ih =>
    have hp := p.entry_element? index start
    rw [elementsOf] at hg ⊢
    rw [List.map_cons]
    cases he : p.element? index start with
    | none =>
      rw [he] at hp hg
      rw [reclassed_skip hp.symm, List.filterMap_cons_none hp.symm]
      exact ih _ _ hg
    | some e =>
      rw [he] at hp hg
      have hnew := Content.indexed?_withClass hp.symm (hg e List.mem_cons_self)
      rw [List.map_cons, List.map_cons, reclassed_take hp.symm, List.filterMap_cons_some hnew,
        ih _ _ fun d hd => hg d (List.mem_cons_of_mem e hd)]

/-- New class values in double quotes show up as such and change nothing else that the markup says. -/
theorem contents_reclass {markup : Text} {g : Element → Text} (hquoted : ClassesInDoubleQuotes markup)
    (hg : ∀ e ∈ elements markup, '"' ∉ g e) (hfilled : ∀ e ∈ elements markup, isBlankText (g e) = false) :
    contents ((reclass g 0 0 (pieces markup)).flatMap Piece.source) =
        reclassed (contents markup) ((elements markup).map g) ∧
      (elements ((reclass g 0 0 (pieces markup)).flatMap Piece.source)).map Element.entry =
        (elements markup).map fun e => { e.entry with classes := g e } := by
  have hcontents : contents ((reclass g 0 0 (pieces markup)).flatMap Piece.source) =
      reclassed (contents markup) ((elements markup).map g) := by
    rw [contents_eq, pieces_reclass hquoted hg, content_reclass, ← contents_eq, ← elements_eq]
  refine ⟨hcontents, ?_⟩
  rw [elements_eq] at hfilled
  rw [map_entry_elements, hcontents, contents_eq, elements_eq, entries_reclassed g 0 0 _ hfilled]

/-- A class value in double quotes holds none. -/
theorem no_quote_of_class {start : Nat} {parts : List TagPart} {f v : Text} {a : Attribute}
    (hfits : PartsFit parts f) (hquoted : ∀ part ∈ parts, part.ClassInDoubleQuotes)
    (h : (attributesFrom start parts).find? (fun a => sameName a.name Names.classes) = some a)
    (hv : a.value = some v) : '"' ∉ v := by
  induction parts generalizing start with
  | nil => cases h
  | cons part parts ih =>
    have hrest {start' : Nat} := @ih start' hfits.2 fun q hq => hquoted q (List.mem_cons_of_mem part hq)
    cases part with
    | slash lead => exact hrest h
    | nameless lead indent value => exact hrest h
    | named lead name assigned =>
      by_cases hname : sameName name Names.classes = true
      · cases assigned with
        | none =>
          simp only [attributesFrom, TagPart.attribute?, Option.toList_some, List.singleton_append,
            List.find?_cons, hname, Option.some.injEq] at h
          subst h
          cases hv
        | some b =>
          simp only [attributesFrom, TagPart.attribute?, Option.toList_some, List.singleton_append,
            List.find?_cons, hname, Option.some.injEq] at h
          subst h
          obtain ⟨closed, hvalue⟩ := hquoted _ List.mem_cons_self hname v hv
          have hfit := hfits.1.2.2.2.2
          rw [hvalue] at hfit
          exact hfit.2.1
      · rw [Bool.not_eq_true] at hname
        apply @hrest (start + byteLength (TagPart.named lead name assigned).source)
        cases assigned <;> simpa [attributesFrom, TagPart.attribute?, List.find?_cons, hname] using h

theorem no_quote_of_mem_elements {markup : Text} (h : ClassesInDoubleQuotes markup) :
    ∀ e ∈ elements markup, '"' ∉ e.classes := by
  intro e he
  rw [elements_eq] at he
  obtain ⟨before, p, after, place, hsplit, hp⟩ := mem_elementsOf he
  obtain ⟨t, rfl, ht⟩ := Piece.startTag_of_element? hp
  obtain ⟨a, ha, hv, -⟩ := StartTag.class_of_element? ht
  have hscanned := scanned_pieces markup
  rw [hsplit, scanned_append] at hscanned
  have hquoted : ∀ part ∈ t.parts, part.ClassInDoubleQuotes := by
    apply h
    rw [hsplit]
    simp
  exact no_quote_of_class hscanned.2.1.parts hquoted ha hv

end ResponsiveMarkup
