import Mathlib.Data.List.Basic
import ResponsiveMarkup.Proofs.Markup.Contents
import ResponsiveMarkup.Proofs.Markup.Escape
import ResponsiveMarkup.Proofs.Markup.TextEnd
import ResponsiveMarkup.Render.Markup

/-!
Tags, comments and lines as they are written, taken as pieces. Each is read back as the one piece it was written
as, whatever text stands in it and behind it; only a line has to be followed by a tag, and runs on if it begins
beyond ASCII.
-/

namespace ResponsiveMarkup.Render

open Text Scanner

def writtenPart (a : Text × Text) : TagPart := .named [' '] a.1 (some ⟨[], [], .quoted '"' (escapeAttr a.2) true⟩)

def openPiece (tag : Text) (attributes : List (Text × Text)) (selfClosing : Bool) : Piece :=
  .startTag
    { name := tag
      parts := attributes.map writtenPart
      lead := if selfClosing then [' '] else []
      stop := if selfClosing then .selfClose else .close }

def closePiece (tag : Text) : Piece := .endTag tag ['>']

def commentPiece (body : Text) : Piece := .comment (collapseDashes body) true

theorem source_writtenPart (a : Text × Text) : (writtenPart a).source = writeAttribute a.1 a.2 := by
  simp [writtenPart, TagPart.source, Assigned.source, AttributeValue.source, writeAttribute]

theorem source_openPiece (tag : Text) (attributes : List (Text × Text)) (selfClosing : Bool) :
    (openPiece tag attributes selfClosing).source = openTag tag attributes selfClosing := by
  have hparts : (attributes.map writtenPart).flatMap TagPart.source =
      attributes.flatMap fun a => writeAttribute a.1 a.2 := by
    rw [List.flatMap_map]
    exact List.flatMap_congr fun a _ => source_writtenPart a
  rw [openPiece, Piece.source, TagText.source, openTag, hparts]
  cases selfClosing <;> simp [TagStop.source]

theorem source_closePiece (tag : Text) : (closePiece tag).source = closeTag tag := rfl

theorem source_commentPiece (body : Text) : (commentPiece body).source = comment body := rfl

theorem partsFit_written {attributes : List (Text × Text)} (h : ∀ a ∈ attributes, IsAttributeName a.1)
    (f : Text) : PartsFit (attributes.map writtenPart) f := by
  induction attributes with
  | nil => trivial
  | cons a as ih =>
    refine ⟨⟨?_, h a List.mem_cons_self, ?_, ?_, ?_⟩, ih fun b hb => h b (List.mem_cons_of_mem a hb)⟩
    · simp [Blanks, isSyntaxBlank]
    · simp [Blanks]
    · simp [Blanks]
    · exact ⟨by decide, no_quote_escapeAttr a.2, fun hc => by cases hc⟩

theorem fits_openPiece {tag : Text} {attributes : List (Text × Text)} (htag : IsTagName tag)
    (h : ∀ a ∈ attributes, IsAttributeName a.1) (selfClosing : Bool) (f : Text) :
    (openPiece tag attributes selfClosing).Fits f := by
  refine ⟨htag, ?_, partsFit_written h _, ?_, ?_⟩
  · intro c hc
    cases attributes with
    | nil =>
      cases selfClosing with
      | true => cases hc; decide
      | false => cases hc; decide
    | cons a as =>
      cases hc
      decide
  · cases selfClosing <;> simp [Blanks, isSyntaxBlank]
  · cases selfClosing <;> simp

theorem fits_closePiece {tag : Text} (htag : IsTagName tag) (f : Text) : (closePiece tag).Fits f :=
  ⟨htag, by intro c hc; cases hc; decide, Or.inl ⟨[], rfl, List.not_mem_nil⟩⟩

theorem fits_commentPiece (body f : Text) : (commentPiece body).Fits f :=
  ⟨hasInside_closing_collapseDashes body, fun hc => by cases hc⟩

/-! ### Lines -/

/-- A line without characters is no piece. -/
def linePieces (line : Text) : List Piece := if line.isEmpty then [] else [.text (escapeText line)]

def breakPiece : Piece := openPiece "br".toList [] true

/-- Lines with a break between each two. -/
def linesPieces : List Text → List Piece
  | [] => []
  | [l] => linePieces l
  | l :: k :: ls => linePieces l ++ breakPiece :: linesPieces (k :: ls)

theorem source_linePieces (line : Text) : (linePieces line).flatMap Piece.source = escapeText line := by
  cases line with
  | nil => rfl
  | cons c s => simp [linePieces, Piece.source]

theorem source_linesPieces (ls : List Text) :
    (linesPieces ls).flatMap Piece.source = joinWith "<br />".toList (ls.map escapeText) := by
  induction ls with
  | nil => rfl
  | cons l ls ih =>
    cases ls with
    | nil => exact source_linePieces l
    | cons k ls =>
      have hbreak : breakPiece.source = "<br />".toList := source_openPiece _ _ _
      rw [linesPieces, List.flatMap_append, List.flatMap_cons, source_linePieces, hbreak, ih]
      simp [joinWith]

/-- A line ends at the next tag unless it runs on. -/
theorem overruns_linePieces {line f : Text} (hf : ∀ d ∈ f.head?, d = '<') : Overruns (linePieces line) f := by
  cases line with
  | nil => trivial
  | cons c s =>
    obtain ⟨d, r, hbody, -⟩ := escapeText_cons c s
    have hbracket := no_bracket_escapeText (Or.inl rfl) (c :: s)
    rw [hbody, List.mem_cons, not_or] at hbracket
    refine ⟨?_, trivial⟩
    rw [hbody]
    by_cases hd : d.utf8Size = 1
    · refine Or.inr ⟨d, r, rfl, ?_⟩
      rw [if_pos hd]
      exact ⟨hbracket.2, hf, fun h => absurd h.symm hbracket.1⟩
    · exact Or.inl (by simpa [Piece.runsOn] using hd)

theorem mem_linePieces {line : Text} {p : Piece} (h : p ∈ linePieces line) :
    line ≠ [] ∧ p = .text (escapeText line) := by
  rw [linePieces] at h
  split at h
  · cases h
  · rename_i hne
    exact ⟨by simpa using hne, List.mem_singleton.mp h⟩

/-- The line begins beyond ASCII. -/
def lineRunsOn (line : Text) : Bool := line.head?.any (·.utf8Size != 1)

theorem lineRunsOn_eq_false_iff {line : Text} : lineRunsOn line = false ↔ ∀ ch ∈ line.head?, ch.val ≤ 127 := by
  cases line with
  | nil => simp [lineRunsOn]
  | cons ch line => simp [lineRunsOn, Char.utf8Size_eq_one_iff]

theorem runsOn_linePieces {line : Text} {p : Piece} (h : p ∈ linePieces line) : p.runsOn = lineRunsOn line := by
  obtain ⟨hne, rfl⟩ := mem_linePieces h
  cases line with
  | nil => exact absurd rfl hne
  | cons c s =>
    obtain ⟨d, r, hbody, hsize⟩ := escapeText_cons c s
    rw [hbody, Piece.runsOn, hsize]
    rfl

theorem fits_breakPiece (f : Text) : breakPiece.Fits f :=
  fits_openPiece (by decide) (by simp) true f

theorem overruns_linesPieces (ls : List Text) {f : Text} (hf : ∀ d ∈ f.head?, d = '<') :
    Overruns (linesPieces ls) f := by
  induction ls with
  | nil => trivial
  | cons l ls ih =>
    cases ls with
    | nil => exact overruns_linePieces hf
    | cons k ls =>
      rw [linesPieces, overruns_append]
      refine ⟨overruns_linePieces fun d hd => ?_, Or.inr (fits_breakPiece _), ih⟩
      rw [List.flatMap_cons, breakPiece, source_openPiece] at hd
      cases hd
      rfl

theorem mem_linesPieces {ls : List Text} {p : Piece} (h : p ∈ linesPieces ls) :
    p = breakPiece ∨ ∃ l ∈ ls, p ∈ linePieces l := by
  induction ls with
  | nil => cases h
  | cons l ls ih =>
    cases ls with
    | nil => exact Or.inr ⟨l, List.mem_cons_self, h⟩
    | cons k ls =>
      rw [linesPieces, List.mem_append, List.mem_cons] at h
      rcases h with h | rfl | h
      · exact Or.inr ⟨l, List.mem_cons_self, h⟩
      · exact Or.inl rfl
      · rcases ih h with rfl | ⟨m, hm, hp⟩
        · exact Or.inl rfl
        · exact Or.inr ⟨m, List.mem_cons_of_mem l hm, hp⟩

end ResponsiveMarkup.Render
