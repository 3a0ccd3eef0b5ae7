import ResponsiveMarkup.Markup.Scanner
import ResponsiveMarkup.Proofs.Text.Cutting

/-!
The grammar of pieces. A piece fits the text that follows it when nothing in that text changes where the piece
ends; how far ahead that depends is stated part by part. The pieces of a text are the one way of cutting it
into pieces that all fit.
-/

namespace ResponsiveMarkup

open Text Scanner

def Blanks (s : Text) : Prop := ∀ c ∈ s, isSyntaxBlank c = true

theorem not_syntaxBlank_of_quote {c : Char} (h : isQuote c = true) : isSyntaxBlank c = false := by
  simp only [isQuote, Bool.or_eq_true, beq_iff_eq] at h
  rcases h with rfl | rfl <;> decide

/-- A value is read back when `f` follows it: what is left open ends the text, and what has no quotes ends at
a blank or a bracket. -/
def AttributeValue.Fits : AttributeValue → Text → Prop
  | quoted q body closed, f => isQuote q = true ∧ q ∉ body ∧ (closed = false → f = [])
  | bare body, f => (∀ c ∈ body, endsBare c = false) ∧ (∀ c ∈ f.head?, endsBare c = true) ∧
      ∃ c, (body ++ f).head? = some c ∧ isQuote c = false ∧ isSyntaxBlank c = false
  | missing, f => f = []

theorem readValue_source {v : AttributeValue} {f : Text} (h : v.Fits f) : readValue (v.source ++ f) = (v, f) := by
  cases v with
  | quoted q body closed =>
    obtain ⟨hq, hbody, hend⟩ := h
    have hstops : ∀ c ∈ body, (c != q) = true := by
      intro c hc
      simp only [bne_iff_ne]
      rintro rfl
      exact hbody hc
    cases closed with
    | true =>
      obtain ⟨htake, hdrop⟩ := cut_append (f := q :: f) hstops (by simp)
      simp [AttributeValue.source, readValue, hq, htake, hdrop]
    | false =>
      obtain ⟨htake, hdrop⟩ := cut_append (f := []) hstops (by simp)
      rw [List.append_nil] at htake hdrop
      simp [AttributeValue.source, readValue, hq, htake, hdrop, hend rfl]
  | bare body =>
    obtain ⟨hbody, hf, c, hc, hquote, -⟩ := h
    obtain ⟨htake, hdrop⟩ := cut_append (p := (!endsBare ·)) (l := body) (f := f)
      (by intro c hc; simp [hbody c hc]) (by intro c hc; simp [hf c hc])
    simp only [AttributeValue.source]
    cases hs : body ++ f with
    | nil => simp [hs] at hc
    | cons d s =>
      rw [hs] at hc htake hdrop
      cases hc
      simp [readValue, hquote, htake, hdrop]
  | missing =>
    obtain rfl := h
    rfl

theorem fits_readValue {s : Text} (h : ∀ c ∈ s.head?, isSyntaxBlank c = false) :
    (readValue s).1.Fits (readValue s).2 := by
  cases s with
  | nil => rfl
  | cons c s =>
    simp only [readValue]
    split
    · rename_i hq
      have hbody : c ∉ s.takeWhile (· != c) := by
        intro hmem
        have := takeWhile_true c hmem
        simp at this
      split
      · exact ⟨hq, hbody, fun _ => rfl⟩
      · exact ⟨hq, hbody, fun hc => by cases hc⟩
    · rename_i hq
      refine ⟨?_, ?_, c, ?_, ?_, h c rfl⟩
      · intro d hd
        have := takeWhile_true d hd
        simpa using this
      · intro d hd
        have := head_dropWhile_false d hd
        simpa using this
      · rw [List.takeWhile_append_dropWhile]
        rfl
      · simpa using hq

theorem head_source_of_fits {v : AttributeValue} {f : Text} (h : v.Fits f) :
    ∀ c ∈ (v.source ++ f).head?, isSyntaxBlank c = false := by
  intro c hc
  cases v with
  | quoted q body closed =>
    cases hc
    exact not_syntaxBlank_of_quote h.1
  | bare body =>
    obtain ⟨-, -, d, hd, -, hblank⟩ := h
    simp only [AttributeValue.source] at hc
    rw [Option.mem_def, hd] at hc
    cases hc
    exact hblank
  | missing =>
    obtain rfl : f = [] := h
    cases hc

def Assigned.Fits (a : Assigned) (f : Text) : Prop := Blanks a.gap ∧ Blanks a.indent ∧ a.value.Fits f

theorem readAssigned_source {a : Assigned} {f : Text} (h : a.Fits f) :
    readAssigned (a.source ++ f) = (some a, f) := by
  obtain ⟨hgap, hindent, hvalue⟩ := h
  obtain ⟨htake, hdrop⟩ := cut_append (f := '=' :: a.indent ++ a.value.source ++ f) hgap
    (by simp [isSyntaxBlank])
  obtain ⟨htake', hdrop'⟩ := cut_append (f := a.value.source ++ f) hindent (head_source_of_fits hvalue)
  have hsource : a.source ++ f = a.gap ++ ('=' :: a.indent ++ a.value.source ++ f) := by
    simp [Assigned.source]
  rw [hsource, readAssigned, hdrop, htake]
  simp only [List.cons_append, List.append_assoc, htake', hdrop', readValue_source hvalue]

theorem readAssigned_none {f : Text} (h : (f.dropWhile isSyntaxBlank).head? ≠ some '=') :
    readAssigned f = (none, f) := by
  simp only [readAssigned]
  split
  · rename_i r hr
    simp [hr] at h
  · rfl

theorem fits_readAssigned {s f : Text} {a : Assigned} (h : readAssigned s = (some a, f)) : a.Fits f := by
  simp only [readAssigned] at h
  split at h
  · rename_i r hr
    cases h
    exact ⟨takeWhile_true, takeWhile_true, fits_readValue head_dropWhile_false⟩
  · cases h

theorem head_of_readAssigned_none {s f : Text} (h : readAssigned s = (none, f)) :
    f = s ∧ (s.dropWhile isSyntaxBlank).head? ≠ some '=' := by
  simp only [readAssigned] at h
  split at h
  · cases h
  · rename_i hne
    cases h
    refine ⟨rfl, fun hhead => ?_⟩
    obtain ⟨r, hr⟩ := List.head?_eq_some_iff.mp hhead
    exact hne r hr

def IsAttributeName (name : Text) : Prop := name ≠ [] ∧ ∀ c ∈ name, endsName c = false

instance : DecidablePred IsAttributeName := fun name =>
  decidable_of_iff (name.isEmpty = false ∧ name.all (!endsName ·) = true) (by simp [IsAttributeName])

def TagPart.Fits : TagPart → Text → Prop
  | slash lead, f => Blanks lead ∧ f.head? ≠ some '>'
  | named lead name none, f => Blanks lead ∧ IsAttributeName name ∧ (∀ c ∈ f.head?, endsName c = true) ∧
      (f.dropWhile isSyntaxBlank).head? ≠ some '='
  | named lead name (some a), f => Blanks lead ∧ IsAttributeName name ∧ a.Fits f
  | nameless lead indent value, f => Blanks lead ∧ Blanks indent ∧ value.Fits f

def PartsFit : List TagPart → Text → Prop
  | [], _ => True
  | part :: parts, f => part.Fits (parts.flatMap TagPart.source ++ f) ∧ PartsFit parts f

theorem endsName_of_syntaxBlank {c : Char} (h : isSyntaxBlank c = true) : endsName c = true := by
  simp [endsName, h]

theorem Assigned.head_source (a : Assigned) (h : Blanks a.gap) (f : Text) :
    ∀ c ∈ (a.source ++ f).head?, endsName c = true := by
  intro c hc
  cases hgap : a.gap with
  | nil =>
    simp only [Assigned.source, hgap, List.nil_append, List.cons_append, List.head?_cons, Option.mem_def,
      Option.some.injEq] at hc
    subst hc
    decide
  | cons d gap =>
    simp only [Assigned.source, hgap, List.cons_append, List.head?_cons, Option.mem_def,
      Option.some.injEq] at hc
    subst hc
    exact endsName_of_syntaxBlank (h d (by simp [hgap]))

/-- The inside of a tag once the blanks in front are taken off. -/
def bodyAfter (lead : Text) : Text → TagBody
  | [] => ⟨[], lead, .cutOff, []⟩
  | '>' :: r => ⟨[], lead, .close, r⟩
  | '/' :: '>' :: r => ⟨[], lead, .selfClose, r⟩
  | '/' :: r => (readBody r).cons (.slash lead)
  | '=' :: r =>
    let value := readValue (r.dropWhile isSyntaxBlank)
    (readBody value.2).cons (.nameless lead (r.takeWhile isSyntaxBlank) value.1)
  | c :: r =>
    let assigned := readAssigned (r.dropWhile (!endsName ·))
    (readBody assigned.2).cons (.named lead (c :: r.takeWhile (!endsName ·)) assigned.1)

theorem readBody_eq (s : Text) :
    readBody s = bodyAfter (s.takeWhile isSyntaxBlank) (s.dropWhile isSyntaxBlank) := by
  rw [readBody]
  split
  all_goals rename_i h; rw [h, bodyAfter]
  all_goals assumption

theorem readBody_blanks {lead f : Text} (hlead : Blanks lead) (hf : ∀ c ∈ f.head?, isSyntaxBlank c = false) :
    readBody (lead ++ f) = bodyAfter lead f := by
  obtain ⟨htake, hdrop⟩ := cut_append hlead hf
  rw [readBody_eq, htake, hdrop]

theorem readBody_named {lead name f f' : Text} {assigned : Option Assigned} (hlead : Blanks lead)
    (hname : IsAttributeName name) (hf : ∀ c ∈ f.head?, endsName c = true)
    (hread : readAssigned f = (assigned, f')) :
    readBody (lead ++ (name ++ f)) = (readBody f').cons (.named lead name assigned) := by
  obtain ⟨hne, hchars⟩ := hname
  cases name with
  | nil => exact absurd rfl hne
  | cons c name =>
    have hc := hchars c List.mem_cons_self
    simp only [endsName, Bool.or_eq_false_iff, beq_eq_false_iff_ne] at hc
    obtain ⟨⟨⟨hblank, heq⟩, hclose⟩, hslash⟩ := hc
    obtain ⟨htake, hdrop⟩ := cut_append (p := (!endsName ·)) (l := name) (f := f)
      (by intro d hd; simp [hchars d (List.mem_cons_of_mem c hd)]) (by intro d hd; simp [hf d hd])
    rw [readBody_blanks hlead (by intro d hd; cases hd; exact hblank), List.cons_append, bodyAfter]
    · simp only [htake, hdrop, hread]
    · exact hclose
    · exact fun r h _ => hslash h
    · exact hslash
    · exact heq

theorem readBody_source {part : TagPart} {f : Text} (h : part.Fits f) :
    readBody (part.source ++ f) = (readBody f).cons part := by
  cases part with
  | slash lead =>
    obtain ⟨hlead, hf⟩ := h
    rw [TagPart.source, List.append_assoc, readBody_blanks hlead (by simp [isSyntaxBlank]),
      List.cons_append, List.nil_append, bodyAfter]
    rintro r rfl
    exact hf rfl
  | named lead name assigned =>
    cases assigned with
    | none =>
      obtain ⟨hlead, hname, hf, hnext⟩ := h
      rw [TagPart.source, List.append_assoc]
      exact readBody_named hlead hname hf (readAssigned_none hnext)
    | some a =>
      obtain ⟨hlead, hname, ha⟩ := h
      rw [TagPart.source, List.append_assoc, List.append_assoc]
      exact readBody_named hlead hname (a.head_source ha.1 f) (readAssigned_source ha)
  | nameless lead indent value =>
    obtain ⟨hlead, hindent, hvalue⟩ := h
    obtain ⟨htake, hdrop⟩ := cut_append (f := value.source ++ f) hindent (head_source_of_fits hvalue)
    have hsource : (TagPart.nameless lead indent value).source ++ f =
        lead ++ '=' :: (indent ++ (value.source ++ f)) := by
      simp [TagPart.source]
    rw [hsource, readBody_blanks hlead (by simp [isSyntaxBlank]), bodyAfter]
    simp only [htake, hdrop, readValue_source hvalue]

theorem readBody_stop {lead f : Text} {stop : TagStop} (hlead : Blanks lead)
    (hstop : stop = .cutOff → f = []) : readBody (lead ++ (stop.source ++ f)) = ⟨[], lead, stop, f⟩ := by
  cases stop with
  | close =>
    rw [readBody_blanks hlead (by simp [TagStop.source, isSyntaxBlank])]
    rfl
  | selfClose =>
    rw [readBody_blanks hlead (by simp [TagStop.source, isSyntaxBlank])]
    rfl
  | cutOff =>
    obtain rfl := hstop rfl
    rw [readBody_blanks hlead (by simp [TagStop.source])]
    rfl

theorem readBody_parts {parts : List TagPart} {lead f : Text} {stop : TagStop}
    (hparts : PartsFit parts (lead ++ (stop.source ++ f))) (hlead : Blanks lead)
    (hstop : stop = .cutOff → f = []) :
    readBody (parts.flatMap TagPart.source ++ (lead ++ (stop.source ++ f))) = ⟨parts, lead, stop, f⟩ := by
  induction parts with
  | nil => exact readBody_stop hlead hstop
  | cons part parts ih =>
    rw [List.flatMap_cons, List.append_assoc, readBody_source hparts.1, ih hparts.2]
    rfl

/-- What is read inside a tag fits, part by part, what is read after it. -/
theorem fits_readBody (s : Text) :
    PartsFit (readBody s).parts ((readBody s).lead ++ ((readBody s).stop.source ++ (readBody s).rest)) ∧
      Blanks (readBody s).lead ∧ ((readBody s).stop = .cutOff → (readBody s).rest = []) := by
  have following (t : Text) : (readBody t).parts.flatMap TagPart.source ++
      ((readBody t).lead ++ ((readBody t).stop.source ++ (readBody t).rest)) = t := by
    simpa using source_readBody t
  fun_induction readBody s with
  | case1 s lead h => exact ⟨trivial, takeWhile_true, fun _ => rfl⟩
  | case2 s lead r h => exact ⟨trivial, takeWhile_true, fun hc => by cases hc⟩
  | case3 s lead r h => exact ⟨trivial, takeWhile_true, fun hc => by cases hc⟩
  | case4 s lead r hne h ih =>
    obtain ⟨hparts, hlead, hstop⟩ := ih
    refine ⟨⟨⟨takeWhile_true, ?_⟩, hparts⟩, hlead, hstop⟩
    simp only [TagBody.cons]
    rw [following]
    intro hhead
    obtain ⟨r', rfl⟩ := List.head?_eq_some_iff.mp hhead
    exact hne r' rfl
  | case5 s lead r h value ih =>
    obtain ⟨hparts, hlead, hstop⟩ := ih
    refine ⟨⟨⟨takeWhile_true, takeWhile_true, ?_⟩, hparts⟩, hlead, hstop⟩
    simp only [TagBody.cons]
    rw [following]
    exact fits_readValue head_dropWhile_false
  | case6 s lead c r hclose _ hslash heq h assigned ih =>
    obtain ⟨hparts, hlead, hstop⟩ := ih
    refine ⟨⟨?_, hparts⟩, hlead, hstop⟩
    simp only [TagBody.cons]
    rw [following]
    have hblank : isSyntaxBlank c = false := by
      have := head_dropWhile_false (p := isSyntaxBlank) (s := s)
      rw [h] at this
      exact this c rfl
    have hname : IsAttributeName (c :: r.takeWhile (!endsName ·)) := by
      refine ⟨by simp, fun d hd => ?_⟩
      rcases List.mem_cons.mp hd with rfl | hd
      · simp only [endsName, Bool.or_eq_false_iff, beq_eq_false_iff_ne]
        exact ⟨⟨⟨hblank, heq⟩, hclose⟩, hslash⟩
      · have := takeWhile_true d hd
        simpa using this
    cases hread : readAssigned (r.dropWhile (!endsName ·)) with
    | mk a f =>
      have hassigned : assigned = (a, f) := hread
      rw [hassigned]
      cases a with
      | none =>
        obtain ⟨rfl, hnext⟩ := head_of_readAssigned_none hread
        refine ⟨takeWhile_true, hname, fun d hd => ?_, hnext⟩
        have := head_dropWhile_false d hd
        simpa using this
      | some a => exact ⟨takeWhile_true, hname, fits_readAssigned hread⟩

/-- The rest of a name: the letters, digits, hyphens and colons behind its first letter. -/
def IsTagName (name : Text) : Prop := ∃ a r, name = a :: r ∧ a.isAlpha = true ∧ ∀ c ∈ r, isNameChar c = true

instance : DecidablePred IsTagName
  | [] => isFalse fun ⟨_, _, h, _⟩ => nomatch h
  | a :: r => decidable_of_iff (a.isAlpha = true ∧ r.all isNameChar = true)
    ⟨fun ⟨ha, hr⟩ => ⟨a, r, rfl, ha, List.all_eq_true.mp hr⟩,
      fun ⟨_, _, h, ha, hr⟩ => by cases h; exact ⟨ha, List.all_eq_true.mpr hr⟩⟩

/-- The text cannot prolong a name that it follows. -/
def EndsTagName (f : Text) : Prop := ∀ c ∈ f.head?, isNameChar c = false

/-- A bracket followed by this opens a tag, a comment or a declaration. -/
def opensMarkup : Text → Bool
  | [] => false
  | a :: r => a == '!' || a.isAlpha || (a == '/' && r.head?.any (·.isAlpha))

structure TagText.Fits (t : TagText) (f : Text) : Prop where
  name : IsTagName t.name
  nameEnds : EndsTagName (t.parts.flatMap TagPart.source ++ (t.lead ++ (t.stop.source ++ f)))
  parts : PartsFit t.parts (t.lead ++ (t.stop.source ++ f))
  lead : Blanks t.lead
  stop : t.stop = .cutOff → f = []

def Piece.Fits : Piece → Text → Prop
  | startTag t, f => t.Fits f
  | endTag name tail, f => IsTagName name ∧ EndsTagName tail ∧
      ((∃ inside, tail = inside ++ ['>'] ∧ '>' ∉ inside) ∨ '>' ∉ tail ∧ f = [])
  | comment body closed, f => hasInside "-->".toList body = false ∧ (closed = false → f = [])
  | declaration body closed, f => '>' ∉ body ∧ (∀ r, body ≠ '-' :: '-' :: r) ∧ (closed = false → f = [])
  | text body, f => ∃ c r, body = c :: r ∧
      if c.utf8Size = 1 then '<' ∉ r ∧ (∀ d ∈ f.head?, d = '<') ∧ (c = '<' → opensMarkup r = false)
      else f = []

/-- Every piece fits what follows it, `f` being what follows the last. -/
def Scanned : List Piece → Text → Prop
  | [], _ => True
  | p :: ps, f => p.Fits (ps.flatMap Piece.source ++ f) ∧ Scanned ps f

theorem toList_closing : "-->".toList = ['-', '-', '>'] := rfl

/-- A comment's end cannot begin inside a body that holds none: its bracket would have to be a dash. -/
theorem breakOn_closing {s after : Text} (h : hasInside "-->".toList s = false) :
    breakOn "-->".toList (s ++ ("-->".toList ++ after)) = some (s, after) := by
  rw [toList_closing] at h ⊢
  simp only [hasInside, Option.isSome_eq_false_iff, Option.isNone_iff_eq_none] at h
  induction s with
  | nil => rfl
  | cons c s ih =>
    simp only [breakOn] at h
    split at h
    · cases h
    · rename_i hstart
      have hskip : stripStart? ['-', '-', '>'] (c :: (s ++ '-' :: '-' :: '>' :: after)) = none := by
        rcases s with _ | ⟨d, _ | ⟨e, s⟩⟩
        · simp [stripStart?]
        · simp [stripStart?]
        · simpa [stripStart?] using hstart
      simp only [List.cons_append, List.nil_append] at ih ⊢
      rw [breakOn, hskip, ih (Option.map_eq_none_iff.mp h)]
      rfl

theorem hasInside_of_breakOn {s before after : Text} (h : breakOn "-->".toList s = some (before, after)) :
    hasInside "-->".toList before = false := by
  induction s generalizing before with
  | nil => cases h
  | cons c s ih =>
    simp only [breakOn] at h
    split at h
    · cases h
      rfl
    · rename_i hstart
      obtain ⟨⟨b, a⟩, hb, hab⟩ := Option.map_eq_some_iff.mp h
      cases hab
      have hrest := ih hb
      simp only [hasInside, Option.isSome_eq_false_iff, Option.isNone_iff_eq_none] at hrest ⊢
      have hskip : stripStart? "-->".toList (c :: b) = none := by
        rw [Option.eq_none_iff_forall_ne_some] at hstart ⊢
        intro rest hr
        apply hstart (rest ++ "-->".toList ++ a)
        rw [stripStart?_eq_some] at hr ⊢
        rw [eq_of_breakOn hb, List.append_assoc, ← List.cons_append, hr]
        simp
      rw [breakOn, hskip, hrest]
      rfl

theorem not_mem_takeWhile_bne {d : Char} {s : Text} : d ∉ s.takeWhile (· != d) := by
  intro h
  have := takeWhile_true d h
  simp at this

theorem cut_bne {d : Char} {s f : Text} (h : d ∉ s) (hf : ∀ c ∈ f.head?, c = d) :
    (s ++ f).takeWhile (· != d) = s ∧ (s ++ f).dropWhile (· != d) = f := by
  apply cut_append
  · intro c hc
    simp only [bne_iff_ne]
    rintro rfl
    exact h hc
  · intro c hc
    simp [hf c hc]

theorem readText_source {c : Char} {r f : Text} (h : (Piece.text (c :: r)).Fits f) :
    readText c (r ++ f) = (.text (c :: r), f) := by
  obtain ⟨c', r', heq, h⟩ := h
  cases heq
  simp only [readText]
  split
  · rename_i hc
    rw [if_pos hc] at h
    obtain ⟨htake, hdrop⟩ := cut_bne h.1 h.2.1
    rw [htake, hdrop]
  · rename_i hc
    rw [if_neg hc] at h
    simp [h]

/-- A name character is none of the characters that open something else behind a bracket. -/
theorem alpha_ne {a : Char} (h : a.isAlpha = true) : a ≠ '!' ∧ a ≠ '/' ∧ a ≠ '<' ∧ a ≠ '-' := by
  refine ⟨?_, ?_, ?_, ?_⟩ <;> rintro rfl <;> exact absurd h (by decide)

theorem readPiece_startTag {a : Char} {r : Text} (h : a.isAlpha = true) :
    readPiece '<' (a :: r) = readStartTag a r := by
  obtain ⟨hbang, hslash, -, -⟩ := alpha_ne h
  simp only [readPiece, if_true]
  split
  · rename_i heq; cases heq; exact absurd rfl hbang
  · rename_i heq; cases heq; exact absurd rfl hbang
  · rename_i heq; cases heq; exact absurd rfl hslash
  · rename_i heq; cases heq; rw [if_pos h]
  · rename_i heq; cases heq

theorem readPiece_endTag {a : Char} {r : Text} (h : a.isAlpha = true) :
    readPiece '<' ('/' :: a :: r) = readEndTag a r := by
  simp [readPiece, h]

theorem readPiece_text {r : Text} (h : opensMarkup r = false) : readPiece '<' r = readText '<' r := by
  simp only [readPiece, if_true]
  split
  · cases h
  · cases h
  · rename_i a s
    have ha : a.isAlpha = false := by simpa [opensMarkup] using h
    simp [ha]
  · rename_i a s _ _ _
    simp only [opensMarkup, Bool.or_eq_false_iff] at h
    simp [h.1.2]
  · rfl

theorem opensMarkup_append {r f : Text} (hf : ∀ d ∈ f.head?, d = '<') (h : opensMarkup r = false) :
    opensMarkup (r ++ f) = false := by
  cases f with
  | nil => simpa using h
  | cons d f =>
    obtain rfl := hf d rfl
    cases r with
    | nil => rfl
    | cons a r =>
      cases r with
      | nil =>
        have hlt : '<'.isAlpha = false := by decide
        simpa [opensMarkup, hlt] using h
      | cons b r => exact h

theorem readPiece_declaration {r : Text} (h : ∀ s, r ≠ '-' :: '-' :: s) :
    readPiece '<' ('!' :: r) = readDeclaration r := by
  simp only [readPiece, if_true]

/-- A piece that fits is read back. -/
theorem readPiece_source {p : Piece} {f : Text} (h : p.Fits f) :
    ∃ c r, p.source ++ f = c :: r ∧ readPiece c r = (p, f) := by
  cases p with
  | startTag t =>
    obtain ⟨⟨a, r, hname, ha, hr⟩, hends, hparts, hlead, hstop⟩ := h
    obtain ⟨htake, hdrop⟩ := cut_append (p := isNameChar) hr hends
    refine ⟨'<', a :: (r ++ (t.parts.flatMap TagPart.source ++ (t.lead ++ (t.stop.source ++ f)))), ?_, ?_⟩
    · simp [Piece.source, TagText.source, hname]
    · rw [readPiece_startTag ha, readStartTag, htake, hdrop, readBody_parts hparts hlead hstop, ← hname]
  | endTag name tail =>
    obtain ⟨⟨a, r, rfl, ha, hr⟩, hends, htail⟩ := h
    refine ⟨'<', '/' :: a :: (r ++ (tail ++ f)), by simp [Piece.source], ?_⟩
    rw [readPiece_endTag ha]
    rcases htail with ⟨inside, rfl, hinside⟩ | ⟨hno, rfl⟩
    · have hend : EndsTagName (inside ++ ['>'] ++ f) := by
        cases inside <;> exact hends
      obtain ⟨htake, hdrop⟩ := cut_append (p := isNameChar) hr hend
      obtain ⟨htake', hdrop'⟩ := cut_bne (f := '>' :: f) hinside (by simp)
      simp only [List.append_assoc, List.cons_append, List.nil_append] at htake hdrop ⊢
      simp only [readEndTag, htake, hdrop, htake', hdrop']
    · obtain ⟨htake, hdrop⟩ := cut_append (p := isNameChar) hr hends
      obtain ⟨htake', hdrop'⟩ := cut_bne (f := []) hno (by simp)
      rw [List.append_nil] at hdrop' ⊢
      simp only [readEndTag, htake, hdrop, hdrop']
  | comment body closed =>
    obtain ⟨hbody, hend⟩ := h
    refine ⟨'<', '!' :: '-' :: '-' :: (body ++ ((if closed then "-->".toList else []) ++ f)), ?_, ?_⟩
    · simp [Piece.source]
    · show readComment _ = _
      cases closed with
      | true => simp only [readComment, if_true, breakOn_closing hbody]
      | false =>
        obtain rfl := hend rfl
        have hnone : breakOn "-->".toList body = none := by simpa [hasInside] using hbody
        simp only [readComment, Bool.false_eq_true, if_false, List.append_nil, hnone]
  | declaration body closed =>
    obtain ⟨hbody, hdash, hend⟩ := h
    refine ⟨'<', '!' :: (body ++ ((if closed then ['>'] else []) ++ f)), by simp [Piece.source], ?_⟩
    have hread : ∀ s, body ++ ((if closed then ['>'] else []) ++ f) ≠ '-' :: '-' :: s := by
      intro s heq
      rcases body with _ | ⟨c, _ | ⟨d, r⟩⟩
      · cases closed <;> simp_all
      · cases closed <;> simp_all
      · simp only [List.cons_append, List.cons.injEq] at heq
        exact hdash r (by rw [heq.1, heq.2.1])
    rw [readPiece_declaration hread, readDeclaration]
    cases closed with
    | true =>
      obtain ⟨htake, hdrop⟩ := cut_bne (f := '>' :: f) hbody (by simp)
      simp [htake, hdrop]
    | false =>
      obtain rfl := hend rfl
      obtain ⟨-, hdrop⟩ := cut_bne (f := []) hbody (by simp)
      simp only [List.append_nil] at hdrop
      simp [hdrop]
  | text body =>
    obtain ⟨c, r, rfl, hcase⟩ := h
    refine ⟨c, r ++ f, rfl, ?_⟩
    have hread := readText_source (f := f) ⟨c, r, rfl, hcase⟩
    by_cases hc : c = '<'
    · subst hc
      rw [if_pos (by decide)] at hcase
      rw [readPiece_text (opensMarkup_append hcase.2.1 (hcase.2.2 rfl)), hread]
    · simp only [readPiece, if_neg hc, hread]

theorem isTagName_read {a : Char} {r : Text} (h : a.isAlpha = true) :
    IsTagName (a :: r.takeWhile isNameChar) := ⟨a, _, rfl, h, takeWhile_true⟩

theorem fits_readText {c : Char} {r : Text} (h : c = '<' → opensMarkup r = false) :
    (readText c r).1.Fits (readText c r).2 := by
  simp only [readText]
  split
  · rename_i hc
    refine ⟨c, r.takeWhile (· != '<'), rfl, ?_⟩
    rw [if_pos hc]
    refine ⟨not_mem_takeWhile_bne, ?_, ?_⟩
    · intro d hd
      have := head_dropWhile_false d hd
      simpa using this
    · intro hlt
      have hr := h hlt
      cases r with
      | nil => rfl
      | cons a r =>
        by_cases ha : a = '<'
        · subst ha; rfl
        · rw [List.takeWhile_cons_of_pos (by simpa using ha)]
          cases r with
          | nil => exact hr
          | cons b r =>
            by_cases hb : b = '<'
            · subst hb
              simp only [opensMarkup, Bool.or_eq_false_iff] at hr ⊢
              simp [hr.1.1, hr.1.2]
            · rw [List.takeWhile_cons_of_pos (by simpa using hb)]
              exact hr
  · rename_i hc
    exact ⟨c, r, rfl, by rw [if_neg hc]⟩

theorem fits_readEndTag {a : Char} {r : Text} (h : a.isAlpha = true) :
    (readEndTag a r).1.Fits (readEndTag a r).2 := by
  have hends : EndsTagName (r.dropWhile isNameChar) := head_dropWhile_false
  have hwhole := List.takeWhile_append_dropWhile (p := (· != '>')) (l := r.dropWhile isNameChar)
  simp only [readEndTag]
  split
  · rename_i hcut
    rw [hcut, List.append_nil] at hwhole
    refine ⟨isTagName_read h, hends, Or.inr ⟨?_, rfl⟩⟩
    rw [← hwhole]
    exact not_mem_takeWhile_bne
  · rename_i d rest hcut
    have hd : d = '>' := by
      have := head_dropWhile_false (p := (· != '>')) (s := r.dropWhile isNameChar) d (by rw [hcut]; rfl)
      simpa using this
    subst hd
    refine ⟨isTagName_read h, ?_, Or.inl ⟨_, rfl, not_mem_takeWhile_bne⟩⟩
    rw [← hwhole, hcut] at hends
    cases hinside : (r.dropWhile isNameChar).takeWhile (· != '>') with
    | nil => rw [hinside] at hends; exact hends
    | cons b s => rw [hinside] at hends; exact hends

theorem fits_readComment (s : Text) : (readComment s).1.Fits (readComment s).2 := by
  simp only [readComment]
  split
  · rename_i body rest hb
    exact ⟨hasInside_of_breakOn hb, fun hc => by cases hc⟩
  · rename_i hb
    exact ⟨by rw [hasInside, hb]; rfl, fun _ => rfl⟩

theorem fits_readDeclaration {s : Text} (h : ∀ r, s ≠ '-' :: '-' :: r) :
    (readDeclaration s).1.Fits (readDeclaration s).2 := by
  have hwhole := List.takeWhile_append_dropWhile (p := (· != '>')) (l := s)
  simp only [readDeclaration]
  split
  · rename_i hcut
    rw [hcut, List.append_nil] at hwhole
    refine ⟨?_, h, fun _ => rfl⟩
    rw [← hwhole]
    exact not_mem_takeWhile_bne
  · rename_i d rest hcut
    refine ⟨not_mem_takeWhile_bne, fun r hr => ?_, fun hc => by cases hc⟩
    rw [hr] at hwhole
    exact h _ hwhole.symm

theorem fits_readStartTag {a : Char} {r : Text} (h : a.isAlpha = true) :
    (readStartTag a r).1.Fits (readStartTag a r).2 := by
  obtain ⟨hparts, hlead, hstop⟩ := fits_readBody (r.dropWhile isNameChar)
  refine ⟨isTagName_read h, ?_, hparts, hlead, hstop⟩
  have hsource := source_readBody (r.dropWhile isNameChar)
  simp only [List.append_assoc] at hsource
  simp only [readStartTag]
  rw [hsource]
  exact head_dropWhile_false

/-- What is read fits what is left. -/
theorem fits_readPiece (c : Char) (r : Text) : (readPiece c r).1.Fits (readPiece c r).2 := by
  by_cases hc : c = '<'
  · subst hc
    simp only [readPiece, if_true]
    split
    · exact fits_readComment _
    · rename_i hne
      exact fits_readDeclaration hne
    · rename_i a s
      split
      · rename_i ha
        exact fits_readEndTag ha
      · rename_i ha
        exact fits_readText fun _ => by simp [opensMarkup, ha]
    · rename_i a s _ hbang hslash
      split
      · rename_i ha
        exact fits_readStartTag ha
      · rename_i ha
        refine fits_readText fun _ => ?_
        have hne : a ≠ '!' := fun h => hbang h
        by_cases ha' : a = '/'
        · subst ha'
          cases s with
          | nil => rfl
          | cons b s => exact absurd rfl (hslash b s rfl)
        · simp [opensMarkup, ha, ha', hne]
    · exact fits_readText fun _ => rfl
  · simp only [readPiece, if_neg hc]
    exact fits_readText fun h => absurd h hc

theorem scanned_pieces (s : Text) : Scanned (pieces s) [] := by
  fun_induction pieces s with
  | case1 => trivial
  | case2 c r ih =>
    refine ⟨?_, ih⟩
    rw [List.append_nil, flatMap_source_pieces]
    exact fits_readPiece c r

/-- Pieces that fit are read back from the text they make up, whatever text follows them. -/
theorem pieces_append {ps : List Piece} {f : Text} (h : Scanned ps f) :
    pieces (ps.flatMap Piece.source ++ f) = ps ++ pieces f := by
  induction ps with
  | nil => rfl
  | cons p ps ih =>
    obtain ⟨hp, hps⟩ := h
    obtain ⟨c, r, hsource, hread⟩ := readPiece_source hp
    rw [List.flatMap_cons, List.append_assoc, hsource, pieces, hread, ih hps]
    rfl

theorem pieces_of_scanned {ps : List Piece} (h : Scanned ps []) : pieces (ps.flatMap Piece.source) = ps := by
  have := pieces_append h
  simpa [pieces] using this

theorem scanned_append {ps qs : List Piece} {f : Text} :
    Scanned (ps ++ qs) f ↔ Scanned ps (qs.flatMap Piece.source ++ f) ∧ Scanned qs f := by
  induction ps with
  | nil => simp [Scanned]
  | cons p ps ih => simp [Scanned, ih, and_assoc]

end ResponsiveMarkup
