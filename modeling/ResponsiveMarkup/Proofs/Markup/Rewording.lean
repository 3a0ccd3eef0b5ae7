import Mathlib.Data.List.Basic
import ResponsiveMarkup.Proofs.Markup.Omission

/-!
Changing the class attributes of all tags by one rule. Where every attribute stands behind a blank and in double
quotes that close, a rule may also drop the attribute: the edited text is scanned as the edited tags, and its tags
are of the same kind.
-/

namespace ResponsiveMarkup

open Text Scanner

/-- What becomes of a class attribute. -/
inductive ClassChange where
  | keep
  | set (value : Text)
  | drop

def Token.startTag? (t : Token) : Option StartTag :=
  match t.kind with
  | .startTag tag => some tag
  | _ => none

theorem startTags_eq (markup : Text) : startTags markup = (tokenize markup).filterMap Token.startTag? := rfl

def ClassChange.splice? (valueSpan outerSpan : Span) : ClassChange → Option Splice
  | keep => none
  | set v => some ⟨valueSpan, v⟩
  | drop => some (.remove outerSpan)

/-- The splice by which a rule changes the class attribute of a tag. -/
def StartTag.classSplice? (rule : Text → ClassChange) (tag : StartTag) : Option Splice := do
  let written ← tag.attribute? Names.classes
  let value ← written.value
  let span ← written.valueSpan
  (rule value).splice? span written.outerSpan

def ClassChange.apply (parts : List TagPart) : ClassChange → List TagPart
  | keep => parts
  | set v => setClass v parts
  | drop => parts.eraseP TagPart.isClass

/-- The class value that the parts of a tag write. -/
def classOf? (parts : List TagPart) : Option Text := valueOf? (parts.filterMap TagPart.content?) Names.classes

def reword (rule : Text → ClassChange) (parts : List TagPart) : List TagPart :=
  ((classOf? parts).map fun v => (rule v).apply parts).getD parts

def Piece.reword (rule : Text → ClassChange) : Piece → Piece
  | startTag t => startTag { t with parts := ResponsiveMarkup.reword rule t.parts }
  | p => p

/-! ### The text -/

theorem TagPart.source_of_attribute? {start : Nat} {part : TagPart} {a : Attribute}
    (h : part.attribute? start = some a) (hname : a.name ≠ []) :
    a.outerSpan = Span.of start part.source ∧ part.source ≠ [] := by
  cases part with
  | slash lead => cases h
  | nameless lead indent value => cases h
  | named lead name assigned =>
    cases assigned <;> cases h <;> exact ⟨rfl, by simp_all [TagPart.source]⟩

/-- What a change asks for is what it does to the parts, and the range it asks for is not empty. -/
theorem replaced_apply {start : Nat} {parts : List TagPart} {a : Attribute} {v : Text} {r : Span}
    (h : (attributesFrom start parts).find? (fun a => sameName a.name Names.classes) = some a)
    (hv : a.value = some v) (hr : a.valueSpan = some r) (hne : v ≠ []) (change : ClassChange) :
    Replaced start (parts.flatMap TagPart.source) (change.splice? r a.outerSpan).toList
        ((change.apply parts).flatMap TagPart.source) ∧
      ∀ s ∈ change.splice? r a.outerSpan, s.range.start < s.range.stop := by
  cases change with
  | keep => exact ⟨.nil _ _, fun s hs => nomatch hs⟩
  | set w =>
    obtain ⟨hsame, before, after, rfl, hsource⟩ := source_setClass h hv hr
    have hpos := byteLength_pos hne
    refine ⟨?_, fun s hs => ?_⟩
    · have hold := hsource v
      rw [hsame] at hold
      rw [hold, ClassChange.apply, hsource w]
      exact .single w rfl
    · cases hs
      simp only [Span.of]
      omega
  | drop =>
    obtain ⟨before, part, after, rfl, hbefore, hclass, hpart⟩ := find_class h
    have hname : a.name ≠ [] := by
      intro hnil
      have hsame := List.find?_some h
      rw [hnil] at hsame
      exact absurd hsame (by decide)
    obtain ⟨houter, hne⟩ := TagPart.source_of_attribute? hpart hname
    have herase : (before ++ part :: after).eraseP TagPart.isClass = before ++ after := by
      rw [List.eraseP_append_right _ (by simpa using hbefore), List.eraseP_cons_of_pos hclass]
    have hpos := byteLength_pos hne
    refine ⟨?_, fun s hs => ?_⟩
    · rw [ClassChange.apply, herase, List.flatMap_append, List.flatMap_append, List.flatMap_cons,
        ← List.append_assoc]
      have hone : Replaced start (before.flatMap TagPart.source ++ part.source ++ after.flatMap TagPart.source)
          [⟨a.outerSpan, []⟩] (before.flatMap TagPart.source ++ [] ++ after.flatMap TagPart.source) :=
        .single [] houter
      rwa [List.append_nil] at hone
    · cases hs
      simp only [Splice.remove, houter, Span.of]
      omega

theorem classOf?_eq (start : Nat) (t : TagText) : classOf? t.parts = (t.startTag start).value? Names.classes := by
  rw [classOf?, ← map_attributesFrom (start + 1 + byteLength t.name), ← valueOf?_attributes]
  rfl

theorem classSplice?_cases (rule : Text → ClassChange) (start : Nat) (t : TagText) :
    (classOf? t.parts = none ∧ (t.startTag start).classSplice? rule = none) ∨
      ∃ a v r, (t.startTag start).attribute? Names.classes = some a ∧ a.value = some v ∧ a.valueSpan = some r ∧
        classOf? t.parts = some v ∧ (t.startTag start).classSplice? rule = (rule v).splice? r a.outerSpan := by
  rw [classOf?_eq start, StartTag.value?, StartTag.classSplice?]
  cases hfound : (t.startTag start).attribute? Names.classes with
  | none => exact Or.inl ⟨rfl, rfl⟩
  | some a =>
    have hpaired : a.value.isSome = a.valueSpan.isSome := paired_attributesFrom a (List.mem_of_find?_eq_some hfound)
    cases hv : a.value with
    | none => exact Or.inl ⟨hv, by simp [hv]⟩
    | some v =>
      rw [hv, eq_comm, Option.isSome_some, Option.isSome_iff_exists] at hpaired
      obtain ⟨r, hr⟩ := hpaired
      exact Or.inr ⟨a, v, r, rfl, hv, hr, hv, by simp [hv, hr]⟩

/-- A tag's splice, if the rule asks for one, does to its text what the rule does to its parts. -/
theorem replaced_reword {rule : Text → ClassChange} (hrule : rule [] = .keep) (start : Nat) (t : TagText) :
    Replaced start (Piece.startTag t).source ((t.startTag start).classSplice? rule).toList
        ((Piece.startTag t).reword rule).source ∧
      ∀ s ∈ (t.startTag start).classSplice? rule, s.range.start < s.range.stop := by
  rw [Piece.reword, reword]
  rcases classSplice?_cases rule start t with ⟨hclass, hsplice⟩ | ⟨a, v, r, hfound, hv, hr, hclass, hsplice⟩
  · rw [hclass, hsplice]
    exact ⟨.nil _ _, fun s hs => nomatch hs⟩
  · rw [hclass, hsplice]
    -- An empty value has an empty range, at which two splices could meet; a rule that keeps it asks for none.
    by_cases hne : v = []
    · subst hne
      rw [Option.map_some, Option.getD_some, hrule]
      exact ⟨.nil _ _, fun s hs => nomatch hs⟩
    · obtain ⟨hreplaced, hfilled⟩ := replaced_apply hfound hv hr hne (rule v)
      have hlt : '<'.utf8Size = 1 := by decide
      have hoffset : start + 1 + byteLength t.name = start + byteLength ('<' :: t.name) := by
        rw [byteLength, hlt, Nat.add_assoc]
      rw [hoffset] at hreplaced
      have hwhole := hreplaced.prepend.append (.nil _ (t.lead ++ t.stop.source))
      rw [List.append_nil] at hwhole
      refine ⟨?_, hfilled⟩
      simpa [Piece.source, TagText.source] using hwhole

theorem replaced_rewordAll {rule : Text → ClassChange} (hrule : rule [] = .keep) (start : Nat) (ps : List Piece) :
    Replaced start (ps.flatMap Piece.source)
        (((tokensFrom start ps).filterMap Token.startTag?).filterMap (StartTag.classSplice? rule))
        ((ps.map (Piece.reword rule)).flatMap Piece.source) ∧
      ∀ s ∈ ((tokensFrom start ps).filterMap Token.startTag?).filterMap (StartTag.classSplice? rule),
        s.range.start < s.range.stop := by
  induction ps generalizing start with
  | nil => exact ⟨.nil start [], fun s hs => nomatch hs⟩
  | cons p ps ih =>
    obtain ⟨hrest, hfilled⟩ := ih (start + byteLength p.source)
    cases p with
    | startTag t =>
      obtain ⟨hone, hfirst⟩ := replaced_reword hrule start t
      have hfirst? : Token.startTag? ⟨(Piece.startTag t).kind start, Span.of start (Piece.startTag t).source⟩ =
          some (t.startTag start) := rfl
      rw [tokensFrom, List.filterMap_cons_some hfirst?, filterMap_cons_toList, List.flatMap_cons, List.map_cons,
        List.flatMap_cons]
      refine ⟨hone.append hrest, fun s hs => ?_⟩
      rcases List.mem_append.mp hs with hs | hs
      · exact hfirst s (Option.mem_toList.mp hs)
      · exact hfilled s hs
    | endTag name tail => exact ⟨hrest.prepend, hfilled⟩
    | comment body closed => exact ⟨hrest.prepend, hfilled⟩
    | declaration body closed => exact ⟨hrest.prepend, hfilled⟩
    | text body => exact ⟨hrest.prepend, hfilled⟩

theorem spliced_reword {rule : Text → ClassChange} (hrule : rule [] = .keep) (markup : Text) :
    spliced markup ((startTags markup).filterMap (StartTag.classSplice? rule)) =
      ((pieces markup).map (Piece.reword rule)).flatMap Piece.source := by
  obtain ⟨hreplaced, hfilled⟩ := replaced_rewordAll hrule 0 (pieces markup)
  rw [flatMap_source_pieces] at hreplaced
  rw [startTags_eq, tokenize, spliced, (applySplices_of_replaced hreplaced (hreplaced.distinct hfilled)).2]
  rfl

/-! ### Scanning the text -/

/-- All there is between the name and the end of a tag are attributes behind a blank and in closed double quotes. -/
def WellQuoted (markup : Text) : Prop :=
  ∀ t, Piece.startTag t ∈ pieces markup → ∀ part ∈ t.parts, part.WellQuoted

theorem WellQuoted.classesInDoubleQuotes {markup : Text} (h : WellQuoted markup) : ClassesInDoubleQuotes markup :=
  fun t ht part hpart => (h t ht part hpart).classInDoubleQuotes

theorem WellQuoted.orderly {markup : Text} (h : WellQuoted markup) :
    ∀ t, Piece.startTag t ∈ pieces markup → Orderly t.parts :=
  fun t ht => orderly_of_wellQuoted (h t ht)

/-- A class value that is read back in double quotes holds none. -/
theorem no_quote_of_classOf? {parts : List TagPart} {f v : Text} (hfits : PartsFit parts f)
    (hquoted : ∀ part ∈ parts, part.ClassInDoubleQuotes) (hv : classOf? parts = some v) : '"' ∉ v := by
  rw [classOf?, ← map_attributesFrom 0, valueOf?, List.find?_map, Option.bind_map] at hv
  obtain ⟨a, hfound, hvalue⟩ := Option.bind_eq_some_iff.mp hv
  exact no_quote_of_class hfits hquoted hfound hvalue

/-- A rule that brings no double quotes into a value that holds none. -/
def QuoteFree (rule : Text → ClassChange) : Prop := ∀ v w, rule v = .set w → '"' ∉ v → '"' ∉ w

/-- A change after which the tag is read back with the changed parts. -/
def ClassChange.Harmless (t : TagText) : ClassChange → Prop
  | keep => True
  | set w => '"' ∉ w ∧ ∀ part ∈ t.parts, part.ClassInDoubleQuotes
  | drop => (∀ part ∈ t.parts, part.Spaced) ∧
      Omitted (t.lead ++ t.stop.source) t.parts (t.parts.eraseP TagPart.isClass)

theorem ClassChange.Harmless.reworked {t : TagText} {change : ClassChange} (h : change.Harmless t) :
    Reworked t.parts (change.apply t.parts) := by
  cases change with
  | keep => exact .refl t.parts
  | set w => exact .setClass h.1 t.parts
  | drop => exact .eraseP_class t.parts

theorem reworked_reword {rule : Text → ClassChange} {t : TagText}
    (h : ∀ v, classOf? t.parts = some v → (rule v).Harmless t) : Reworked t.parts (reword rule t.parts) := by
  rw [reword]
  cases hclass : classOf? t.parts with
  | none => exact .refl t.parts
  | some v => exact (h v hclass).reworked

theorem Piece.Fits.reword {p : Piece} {f : Text} (h : p.Fits f) {rule : Text → ClassChange}
    (hrule : ∀ t, p = .startTag t → ∀ v, classOf? t.parts = some v → (rule v).Harmless t) :
    (p.reword rule).Fits f := by
  cases p with
  | startTag t =>
    rw [Piece.reword, ResponsiveMarkup.reword]
    cases hclass : classOf? t.parts with
    | none => exact h
    | some v =>
      have hharmless := hrule t rfl v hclass
      rw [Option.map_some, Option.getD_some]
      cases hchange : rule v with
      | keep => exact h
      | set w =>
        rw [hchange] at hharmless
        refine Piece.Fits.withClass h (fun u hu => ?_) hharmless.1
        cases hu
        exact hharmless.2
      | drop =>
        rw [hchange] at hharmless
        exact TagText.Fits.omitted h hharmless.1 hharmless.2 (TagText.Fits.name h)
  | endTag name tail => exact h
  | comment body closed => exact h
  | declaration body closed => exact h
  | text body => exact h

theorem Piece.head_reword (rule : Text → ClassChange) (p : Piece) :
    (p.reword rule).source.head? = p.source.head? := by
  cases p <;> rfl

theorem TagText.Fits.of_mem_pieces {markup : Text} {t : TagText} (ht : Piece.startTag t ∈ pieces markup) :
    ∃ f, t.Fits f := by
  obtain ⟨before, after, hsplit⟩ := List.append_of_mem ht
  have hscanned := scanned_pieces markup
  rw [hsplit, scanned_append] at hscanned
  exact ⟨_, hscanned.2.1⟩

theorem Piece.bare_reword (rule : Text → ClassChange) (p : Piece) :
    (p.reword rule).content.bare = p.content.bare := by
  cases p <;> rfl

/-- The rule leaves all tags of a markup readable. -/
def RuleFits (markup : Text) (rule : Text → ClassChange) : Prop :=
  ∀ t, Piece.startTag t ∈ pieces markup → ∀ v, classOf? t.parts = some v → (rule v).Harmless t

namespace RuleFits

variable {markup : Text} {rule : Text → ClassChange}

theorem of_orderly (h : ∀ t, Piece.startTag t ∈ pieces markup → Orderly t.parts) (hrule : QuoteFree rule) :
    RuleFits markup rule := by
  intro t ht v hv
  obtain ⟨f, hfits⟩ := TagText.Fits.of_mem_pieces ht
  have hquoted := AttributesQuoted.classInDoubleQuotes (h t ht).quoted
  cases hchange : rule v with
  | keep => trivial
  | set w => exact ⟨hrule v w hchange (no_quote_of_classOf? hfits.parts hquoted hv), hquoted⟩
  | drop =>
    have hclosed := (h t ht).closed fun part hclass => part.content?_of_isClass hclass
    exact ⟨AttributesQuoted.spaced (h t ht).quoted, .eraseP hclosed _⟩

variable (h : RuleFits markup rule)

include h

theorem takesPlace : List.Forall₂ Piece.TakesPlaceOf ((pieces markup).map (Piece.reword rule)) (pieces markup) := by
  rw [List.forall₂_map_left_iff, List.forall₂_same]
  intro p hp
  refine ⟨p.head_reword rule, fun f hf => hf.reword ?_⟩
  rintro t rfl
  exact h t hp

variable (hnil : rule [] = .keep)

include hnil

/-- The edited text is scanned as the edited tags. -/
theorem pieces_spliced : pieces (spliced markup ((startTags markup).filterMap (StartTag.classSplice? rule))) =
    (pieces markup).map (Piece.reword rule) := by
  rw [spliced_reword hnil]
  exact pieces_of_takesPlace h.takesPlace

theorem bare_spliced :
    (contents (spliced markup ((startTags markup).filterMap (StartTag.classSplice? rule)))).map Content.bare =
      (contents markup).map Content.bare := by
  rw [contents_eq, contents_eq, h.pieces_spliced hnil, List.map_map, List.map_map, List.map_map]
  exact List.map_congr_left fun p _ => p.bare_reword rule

/-- Each tag of the edited text is one of the text with its parts reworked by the rule. -/
theorem startTag_of_mem_spliced {t : TagText}
    (ht : Piece.startTag t ∈ pieces (spliced markup ((startTags markup).filterMap (StartTag.classSplice? rule)))) :
    ∃ u, Piece.startTag u ∈ pieces markup ∧ t = { u with parts := reword rule u.parts } ∧
      Reworked u.parts t.parts := by
  rw [h.pieces_spliced hnil] at ht
  obtain ⟨p, hp, heq⟩ := List.mem_map.mp ht
  cases p with
  | startTag u =>
    cases heq
    exact ⟨u, hp, rfl, reworked_reword (h u hp)⟩
  | endTag name tail => cases heq
  | comment body closed => cases heq
  | declaration body closed => cases heq
  | text body => cases heq

end RuleFits

/-- A rule that brings no double quotes leaves a markup well quoted and its tags as they are but for attributes. -/
theorem wellQuoted_spliced {markup : Text} (h : WellQuoted markup) {rule : Text → ClassChange}
    (hnil : rule [] = .keep) (hrule : QuoteFree rule) :
    WellQuoted (spliced markup ((startTags markup).filterMap (StartTag.classSplice? rule))) ∧
      (contents (spliced markup ((startTags markup).filterMap (StartTag.classSplice? rule)))).map Content.bare =
        (contents markup).map Content.bare := by
  have hfits : RuleFits markup rule := .of_orderly h.orderly hrule
  refine ⟨fun t ht => ?_, hfits.bare_spliced hnil⟩
  obtain ⟨u, hu, -, hreworked⟩ := hfits.startTag_of_mem_spliced hnil ht
  exact hreworked.wellQuoted (h u hu)

end ResponsiveMarkup
