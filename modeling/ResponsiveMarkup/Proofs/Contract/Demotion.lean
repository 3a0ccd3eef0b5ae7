import Mathlib.Data.List.Basic
import ResponsiveMarkup.Proofs.Contract.ClassRules
import ResponsiveMarkup.Proofs.Contract.Nesting
import ResponsiveMarkup.Proofs.Markup.Regular

/-!
Inner links and buttons turned into plain boxes. On the pieces of a markup that is a new name and fewer attributes for
some of its tags, and the edited text is scanned as the pieces so changed, unless the characters around a removed
attribute run together.
-/

namespace ResponsiveMarkup

open Text Scanner

namespace Nesting

def plainName : Text := "div".toList

end Nesting

def TagPart.isInteractive : TagPart → Bool
  | named _ name _ => Nesting.isInteractiveAttribute name
  | _ => false

/-- The parts of a tag without the attributes of links and buttons. -/
def plainParts (parts : List TagPart) : List TagPart := parts.filter fun part => !part.isInteractive

/-- The tag of a plain box in place of a link or button. -/
def Piece.demoted : Piece → Piece
  | startTag t => startTag { t with name := Nesting.plainName, parts := plainParts t.parts }
  | endTag _ tail => endTag Nesting.plainName tail
  | p => p

namespace Nesting

/-- Whether the contract demotes a piece, given the elements open before it. -/
def demotes (stack : List OpenElement) : Piece → Bool
  | .startTag t => isInteractiveTag t.name && stack.any (·.interactive)
  | .endTag name _ => (stack.dropWhile (·.name != asciiLower name)).head?.any (·.demoted)
  | _ => false

/-- The elements open behind a piece. -/
def openBehind (stack : List OpenElement) (p : Piece) : List OpenElement :=
  match p with
  | .startTag t =>
    if t.stop == .selfClose || isVoidTag t.name then stack
    else ⟨asciiLower t.name, isInteractiveTag t.name, demotes stack p⟩ :: stack
  | .endTag name _ =>
    match stack.dropWhile (·.name != asciiLower name) with
    | [] => stack
    | _ :: outer => outer
  | _ => stack

def repairedPiece (stack : List OpenElement) (p : Piece) : Piece := if demotes stack p then p.demoted else p

theorem repairedPiece_cases (stack : List OpenElement) (p : Piece) :
    repairedPiece stack p = p ∨ repairedPiece stack p = p.demoted := by
  rw [repairedPiece]
  split
  · exact Or.inr rfl
  · exact Or.inl rfl

def repairedPieces : List OpenElement → List Piece → List Piece
  | _, [] => []
  | stack, p :: ps => repairedPiece stack p :: repairedPieces (openBehind stack p) ps

def demotion? (start : Nat) : Piece → Option Demotion
  | .startTag t => some (.opening (t.startTag start))
  | .endTag name _ => some (.closing (.of (start + 2) name))
  | _ => none

/-- What the contract makes of a token is a matter of the piece that it comes from. -/
theorem demotions_cons (stack : List OpenElement) (start : Nat) (p : Piece) (r : Span) (tokens : List Token) :
    demotions stack (⟨p.kind start, r⟩ :: tokens) =
      (if demotes stack p then (demotion? start p).toList else []) ++ demotions (openBehind stack p) tokens := by
  cases p with
  | startTag t => rfl
  | endTag name tail =>
    simp only [Piece.kind, demotions, demotes, openBehind]
    split
    · rename_i hnone
      simp [hnone]
    · rename_i e outer hsome
      simp [hsome, demotion?]
  | comment body closed => rfl
  | declaration body closed => rfl
  | text body => rfl

/-! ### The text -/

def removals (start : Nat) (parts : List TagPart) : List Splice :=
  ((attributesFrom start parts).filter (isInteractiveAttribute ·.name)).map fun a => .remove a.outerSpan

theorem removals_cons (start : Nat) (part : TagPart) (parts : List TagPart) : removals start (part :: parts) =
    (if part.isInteractive then [⟨.of start part.source, []⟩] else []) ++
      removals (start + byteLength part.source) parts := by
  rw [removals, attributesFrom, List.filter_append, List.map_append]
  cases part with
  | slash lead => rfl
  | nameless lead indent value => rfl
  | named lead name assigned =>
    by_cases hname : isInteractiveAttribute name = true
    · cases assigned <;> simp [TagPart.attribute?, TagPart.isInteractive, hname, Splice.remove, removals]
    · cases assigned <;> simp [TagPart.attribute?, TagPart.isInteractive, hname, removals]

theorem source_ne_nil_of_isInteractive {part : TagPart} (h : part.isInteractive = true) : part.source ≠ [] := by
  cases part with
  | slash lead => cases h
  | nameless lead indent value => cases h
  | named lead name assigned =>
    have hname : name ≠ [] := by
      rintro rfl
      have hnone : isInteractiveAttribute [] = false := by decide
      rw [TagPart.isInteractive, hnone] at h
      cases h
    cases assigned <;> simp [TagPart.source, hname]

theorem replaced_attributes (start : Nat) (parts : List TagPart) :
    Replaced start (parts.flatMap TagPart.source) (removals start parts) ((plainParts parts).flatMap TagPart.source) ∧
      ∀ s ∈ removals start parts, s.range.start < s.range.stop := by
  induction parts generalizing start with
  | nil => exact ⟨.nil start [], fun s hs => nomatch hs⟩
  | cons part parts ih =>
    obtain ⟨hrest, hfilled⟩ := ih (start + byteLength part.source)
    rw [removals_cons, List.flatMap_cons, plainParts]
    by_cases hinteractive : part.isInteractive = true
    · have hpos := byteLength_pos (source_ne_nil_of_isInteractive hinteractive)
      rw [if_pos hinteractive, List.filter_cons_of_neg (by simp [hinteractive])]
      refine ⟨(Replaced.whole start part.source []).append hrest, fun s hs => ?_⟩
      rcases List.mem_cons.mp hs with rfl | hs
      · simp only [Span.of]
        omega
      · exact hfilled s hs
    · rw [if_neg hinteractive, List.filter_cons_of_pos (by simpa using hinteractive), List.flatMap_cons]
      exact ⟨hrest.prepend, hfilled⟩

theorem replaced_name {start : Nat} {front name : Text} {pos : Nat} (hpos : pos = start + byteLength front)
    (hname : IsTagName name) :
    Replaced start (front ++ name) [⟨.of pos name, plainName⟩] (front ++ plainName) ∧ pos < pos + byteLength name := by
  obtain ⟨a, r, rfl, -⟩ := hname
  have hlength := byteLength_pos (List.cons_ne_nil a r)
  rw [hpos]
  exact ⟨(Replaced.whole _ (a :: r) plainName).prepend, by omega⟩

theorem replaced_demoted {p : Piece} {f : Text} (h : p.Fits f) (start : Nat) :
    Replaced start p.source ((demotion? start p).toList.flatMap Demotion.splices) p.demoted.source ∧
      ∀ s ∈ (demotion? start p).toList.flatMap Demotion.splices, s.range.start < s.range.stop := by
  have hlt : '<'.utf8Size = 1 := by decide
  have hslash : '/'.utf8Size = 1 := by decide
  cases p with
  | startTag t =>
    have hfront : start + 1 = start + byteLength ['<'] := by rw [byteLength, hlt, byteLength]
    have hoffset : start + 1 + byteLength t.name = start + byteLength (['<'] ++ t.name) := by
      rw [byteLength_append, ← Nat.add_assoc, hfront]
    obtain ⟨hname, hfirst⟩ := replaced_name hfront (TagText.Fits.name h)
    obtain ⟨hparts, hfilled⟩ := replaced_attributes (start + 1 + byteLength t.name) t.parts
    rw [hoffset] at hparts hfilled
    have hwhole := (hname.append hparts).append (.nil _ (t.lead ++ t.stop.source))
    rw [List.append_nil] at hwhole
    have hsplices : (demotion? start (.startTag t)).toList.flatMap Demotion.splices =
        [⟨.of (start + 1) t.name, plainName⟩] ++ removals (start + byteLength (['<'] ++ t.name)) t.parts := by
      rw [← hoffset]
      simp only [demotion?, Option.toList_some, List.flatMap_singleton, Demotion.splices, TagText.startTag, removals]
      rfl
    rw [hsplices]
    refine ⟨by simpa [Piece.demoted, Piece.source, TagText.source] using hwhole, fun s hs => ?_⟩
    rcases List.mem_cons.mp hs with rfl | hs
    · exact hfirst
    · exact hfilled s hs
  | endTag name tail =>
    have hfront : start + 2 = start + byteLength ['<', '/'] := by rw [byteLength, byteLength, hlt, hslash, byteLength]
    obtain ⟨hname, hfirst⟩ := replaced_name hfront h.1
    have hwhole := hname.append (.nil _ tail)
    rw [List.append_nil] at hwhole
    refine ⟨hwhole, fun s hs => ?_⟩
    rw [List.mem_singleton.mp hs]
    exact hfirst
  | comment body closed => exact ⟨.nil _ _, fun s hs => absurd hs List.not_mem_nil⟩
  | declaration body closed => exact ⟨.nil _ _, fun s hs => absurd hs List.not_mem_nil⟩
  | text body => exact ⟨.nil _ _, fun s hs => absurd hs List.not_mem_nil⟩

theorem replaced_repairedPieces (stack : List OpenElement) (start : Nat) {ps : List Piece} {f : Text}
    (h : Scanned ps f) :
    Replaced start (ps.flatMap Piece.source) ((demotions stack (tokensFrom start ps)).flatMap Demotion.splices)
        ((repairedPieces stack ps).flatMap Piece.source) ∧
      ∀ s ∈ (demotions stack (tokensFrom start ps)).flatMap Demotion.splices, s.range.start < s.range.stop := by
  induction ps generalizing stack start with
  | nil => exact ⟨.nil start [], fun s hs => nomatch hs⟩
  | cons p ps ih =>
    obtain ⟨hrest, hfilled⟩ := ih (openBehind stack p) (start + byteLength p.source) h.2
    rw [tokensFrom, demotions_cons, repairedPieces, repairedPiece, List.flatMap_append, List.flatMap_cons,
      List.flatMap_cons]
    by_cases hdemotes : demotes stack p = true
    · obtain ⟨hone, hfirst⟩ := replaced_demoted h.1 start
      rw [if_pos hdemotes, if_pos hdemotes]
      refine ⟨hone.append hrest, fun s hs => ?_⟩
      rcases List.mem_append.mp hs with hs | hs
      · exact hfirst s hs
      · exact hfilled s hs
    · rw [if_neg hdemotes, if_neg hdemotes]
      exact ⟨hrest.prepend, hfilled⟩

theorem html_repaired (html : Text) :
    (check .repair html).html = (repairedPieces [] (pieces html)).flatMap Piece.source := by
  obtain ⟨hreplaced, hfilled⟩ := replaced_repairedPieces [] 0 (scanned_pieces html)
  rw [flatMap_source_pieces] at hreplaced
  rw [check, Contract.Result.html_updateHtml, tokenize, spliced,
    (applySplices_of_replaced hreplaced (hreplaced.distinct hfilled)).2]
  rfl

/-! ### Scanning the text -/

end Nesting

/-- A tag that stays one without the attributes of links and buttons: what stands in front of such an attribute ends in
a quote and does not run into what comes to stand behind it, and neither does the name. -/
structure Separable (parts : List TagPart) : Prop where
  spaced : ∀ part ∈ parts, part.Spaced
  ends : parts.Pairwise fun part later => part.EndsInQuote ∨ later.isInteractive = false

/-- The tag can do without the attributes of links and buttons: no part runs into what comes to stand behind it. -/
def TagText.Demotable (t : TagText) : Prop :=
  (∀ part ∈ t.parts, part.Spaced) ∧ Omitted (t.lead ++ t.stop.source) t.parts (plainParts t.parts)

theorem Separable.demotable {t : TagText} (h : Separable t.parts) : t.Demotable := by
  refine ⟨h.spaced, .filter ?_ _⟩
  exact (h.ends.imp fun hpart hnext => hpart.resolve_right (by simp [hnext])).isChain

theorem Orderly.separable {parts : List TagPart} (h : Orderly parts) : Separable parts where
  spaced := AttributesQuoted.spaced h.quoted
  ends := h.strays_behind.imp fun hpart => hpart.imp_right fun hstray => by
    rename_i later
    cases later with
    | slash lead => rfl
    | nameless lead indent value => rfl
    | named lead name assigned => cases assigned <;> cases hstray

namespace Nesting

/-- The tags of links and buttons can do without their attributes. -/
def SeparableTags (html : Text) : Prop :=
  ∀ t, Piece.startTag t ∈ pieces html → isInteractiveTag t.name = true → Separable t.parts

theorem SeparableTags.of_orderly {html : Text} (h : ∀ t, Piece.startTag t ∈ pieces html → Orderly t.parts) :
    SeparableTags html := fun t ht _ => (h t ht).separable

theorem fits_demoted {p : Piece} {f : Text} (h : p.Fits f) (hdemotable : ∀ t, p = .startTag t → t.Demotable) :
    p.demoted.Fits f := by
  have hname : IsTagName plainName := by decide
  cases p with
  | startTag t =>
    obtain ⟨hspaced, homitted⟩ := hdemotable t rfl
    exact TagText.Fits.omitted h hspaced homitted hname
  | endTag name tail => exact ⟨hname, h.2⟩
  | comment body closed => exact h
  | declaration body closed => exact h
  | text body => exact h

theorem takesPlace_repairedPiece {stack : List OpenElement} {p : Piece}
    (h : ∀ t, p = .startTag t → demotes stack p = true → t.Demotable) : (repairedPiece stack p).TakesPlaceOf p := by
  rw [repairedPiece]
  by_cases hdemotes : demotes stack p = true
  · rw [if_pos hdemotes]
    exact ⟨by cases p <;> rfl, fun f hf => fits_demoted hf fun t ht => h t ht hdemotes⟩
  · rw [if_neg hdemotes]
    exact .refl p

theorem takesPlace_repairedPieces (stack : List OpenElement) {ps : List Piece}
    (hseparable : ∀ t, Piece.startTag t ∈ ps → isInteractiveTag t.name = true → Separable t.parts) :
    List.Forall₂ Piece.TakesPlaceOf (repairedPieces stack ps) ps := by
  induction ps generalizing stack with
  | nil => exact .nil
  | cons p ps ih =>
    refine .cons (takesPlace_repairedPiece ?_)
      (ih (openBehind stack p) fun t ht => hseparable t (List.mem_cons_of_mem p ht))
    rintro t rfl hdemotes
    rw [demotes, Bool.and_eq_true] at hdemotes
    exact (hseparable t List.mem_cons_self hdemotes.1).demotable

/-- The repaired text is scanned as the changed pieces. -/
theorem pieces_repaired {html : Text} (hseparable : SeparableTags html) :
    pieces (check .repair html).html = repairedPieces [] (pieces html) := by
  rw [html_repaired]
  exact pieces_of_takesPlace (takesPlace_repairedPieces [] hseparable)

theorem mem_repairedPieces {stack : List OpenElement} {ps : List Piece} {p : Piece} (h : p ∈ repairedPieces stack ps) :
    ∃ q ∈ ps, p = q ∨ p = q.demoted := by
  induction ps generalizing stack with
  | nil => cases h
  | cons q ps ih =>
    rcases List.mem_cons.mp h with rfl | h
    · exact ⟨q, List.mem_cons_self, repairedPiece_cases stack q⟩
    · obtain ⟨r, hr, hp⟩ := ih h
      exact ⟨r, List.mem_cons_of_mem q hr, hp⟩

/-- Attributes of links and buttons are no classes. -/
theorem classOf?_plainParts (parts : List TagPart) : classOf? (plainParts parts) = classOf? parts := by
  have hnames : ∀ n ∈ interactiveAttributes, sameName n Names.classes = false := by decide
  rw [plainParts]
  induction parts with
  | nil => rfl
  | cons part parts ih =>
    by_cases hinteractive : part.isInteractive = true
    · have hclass : part.isClass = false := by
        cases part with
        | slash lead => rfl
        | nameless lead indent value => rfl
        | named lead name assigned =>
          obtain ⟨n, hn, hsame⟩ := List.any_eq_true.mp hinteractive
          rw [TagPart.isClass, sameName_congr hsame]
          exact hnames n hn
      rw [List.filter_cons_of_neg (by simp [hinteractive]), ih, classOf?_cons_of_not_class hclass]
    · rw [List.filter_cons_of_pos (by simpa using hinteractive)]
      by_cases hclass : part.isClass = true
      · rw [classOf?_cons_of_class hclass, classOf?_cons_of_class hclass]
      · rw [Bool.not_eq_true] at hclass
        rw [classOf?_cons_of_not_class hclass, classOf?_cons_of_not_class hclass, ih]

/-- Each tag of the repaired text has the class value of one of the text. -/
theorem startTag_of_mem_repaired {html : Text} (hseparable : SeparableTags html) {t : TagText}
    (ht : Piece.startTag t ∈ pieces (check .repair html).html) :
    ∃ u, Piece.startTag u ∈ pieces html ∧ classOf? t.parts = classOf? u.parts := by
  rw [pieces_repaired hseparable] at ht
  obtain ⟨q, hq, rfl | hdemoted⟩ := mem_repairedPieces ht
  · exact ⟨t, hq, rfl⟩
  · cases q with
    | startTag u =>
      cases hdemoted
      exact ⟨u, hq, classOf?_plainParts u.parts⟩
    | endTag name tail => cases hdemoted
    | comment body closed => cases hdemoted
    | declaration body closed => cases hdemoted
    | text body => cases hdemoted

theorem classWords_repaired {P : Text → Prop} {html : Text} (hseparable : SeparableTags html)
    (h : ClassWords P html) : ClassWords P (check .repair html).html := by
  intro t ht v hv
  obtain ⟨u, hu, hclass⟩ := startTag_of_mem_repaired hseparable ht
  rw [hclass] at hv
  exact h u hu v hv

end Nesting

end ResponsiveMarkup
