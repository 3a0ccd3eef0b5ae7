import ResponsiveMarkup.Proofs.Markup.Contents
import ResponsiveMarkup.Proofs.Markup.Grammar
import ResponsiveMarkup.Proofs.Text.Slices

/-!
Where text ends. A text that begins in ASCII ends right before the next opening bracket behind its first character.
One that begins beyond ASCII runs on to the end of the markup, over all tags on its way.
-/

namespace ResponsiveMarkup

open Text Scanner

theorem Piece.eq_text_of_kind {p : Piece} {start : Nat} {body : Text} (h : p.kind start = .text body) :
    p = .text body := by
  cases p with
  | text b => cases h; rfl
  | startTag tag => cases h
  | endTag name tail => cases h
  | comment b closed => cases h
  | declaration b closed => cases h

/-- A text token stands in the markup from its first character on. Beginning in ASCII it has no bracket behind that
character and ends at the next one or at the end; beginning beyond ASCII it ends at the end only. -/
theorem text_token_ends (src : Text) : ∀ t ∈ tokenize src, ∀ body, t.kind = .text body →
    ∃ before c r after, src = before ++ body ++ after ∧ body = c :: r ∧
      t.span = Span.of (byteLength before) body ∧
      (c.val ≤ 127 ∧ '<' ∉ r ∧ (∀ d ∈ after.head?, d = '<') ∨ 127 < c.val ∧ after = []) := by
  intro t ht body hkind
  obtain ⟨before, p, after, hsplit, rfl⟩ := mem_tokensFrom ht
  obtain rfl := Piece.eq_text_of_kind hkind
  have hscanned := scanned_pieces src
  rw [hsplit, scanned_append] at hscanned
  obtain ⟨c, r, rfl, hfits⟩ := hscanned.2.1
  have hsource := flatMap_source_pieces src
  rw [hsplit, List.flatMap_append, List.flatMap_cons, ← List.append_assoc] at hsource
  refine ⟨before.flatMap Piece.source, c, r, after.flatMap Piece.source, hsource.symm, rfl, ?_, ?_⟩
  · rw [Nat.zero_add]
    rfl
  · rw [List.append_nil] at hfits
    -- The bracket is looked for from one byte on, and that is inside of a longer first character.
    by_cases hc : c.utf8Size = 1
    · rw [if_pos hc] at hfits
      exact Or.inl ⟨Char.utf8Size_eq_one_iff.mp hc, hfits.1, hfits.2.1⟩
    · rw [if_neg hc] at hfits
      rw [Char.utf8Size_eq_one_iff, UInt32.not_le] at hc
      exact Or.inr ⟨hc, hfits⟩

theorem pieces_accented : pieces "é<b>".toList = [.text "é<b>".toList] := by
  have hscanned : Scanned [.text "é<b>".toList] [] := ⟨⟨'é', "<b>".toList, rfl, by decide⟩, trivial⟩
  have hpieces := pieces_of_scanned hscanned
  rwa [List.flatMap_singleton] at hpieces

theorem tokenize_accented : tokenize "é<b>".toList = [⟨.text "é<b>".toList, ⟨0, 5⟩⟩] := by
  rw [tokenize, pieces_accented]
  rfl

/-- The tag behind the letter is in the text, and nothing is behind the text. -/
theorem text_token_ends_accented :
    (⟨.text "é<b>".toList, ⟨0, 5⟩⟩ : Token) ∈ tokenize "é<b>".toList ∧
    ∃ before after, "é<b>".toList = before ++ "é<b>".toList ++ after ∧ after = [] := by
  have hmem : (⟨.text "é<b>".toList, ⟨0, 5⟩⟩ : Token) ∈ tokenize "é<b>".toList := by
    rw [tokenize_accented]
    exact List.mem_singleton_self _
  refine ⟨hmem, ?_⟩
  obtain ⟨before, c, r, after, hsrc, hbody, -, hends⟩ := text_token_ends _ _ hmem _ rfl
  cases hbody
  rcases hends with ⟨hascii, -⟩ | ⟨-, hend⟩
  · exact absurd hascii (by decide)
  · exact ⟨before, after, hsrc, hend⟩

/-- Text can hide a tag: that of a letter beyond ASCII in front of it. -/
theorem text_token_hides_tag :
    ¬ ∀ src, ∀ t ∈ tokenize src, ∀ c r, t.kind = .text (c :: r) → '<' ∉ r := by
  intro h
  have hmem : (⟨.text "é<b>".toList, ⟨0, 5⟩⟩ : Token) ∈ tokenize "é<b>".toList := by
    rw [tokenize_accented]
    exact List.mem_singleton_self _
  exact h _ _ hmem 'é' "<b>".toList rfl (by decide)

/-! ### Running on -/

/-- The piece is text that begins beyond ASCII. -/
def Piece.runsOn : Piece → Bool
  | text (c :: _) => c.utf8Size != 1
  | _ => false

/-- The pieces as they are read back: one that runs on takes in all those behind it. -/
def overrun : List Piece → List Piece
  | [] => []
  | p :: ps => if p.runsOn then [.text (p.source ++ ps.flatMap Piece.source)] else p :: overrun ps

/-- Every piece fits what follows it or runs on. -/
def Overruns : List Piece → Text → Prop
  | [], _ => True
  | p :: ps, f => (p.runsOn = true ∨ p.Fits (ps.flatMap Piece.source ++ f)) ∧ Overruns ps f

theorem overruns_append {ps qs : List Piece} {f : Text} :
    Overruns (ps ++ qs) f ↔ Overruns ps (qs.flatMap Piece.source ++ f) ∧ Overruns qs f := by
  induction ps with
  | nil => simp [Overruns]
  | cons p ps ih => simp [Overruns, ih, and_assoc]

theorem Piece.runsOn_eq_true {p : Piece} (h : p.runsOn = true) :
    ∃ c r, p = .text (c :: r) ∧ c.utf8Size ≠ 1 := by
  cases p with
  | text body =>
    cases body with
    | nil => cases h
    | cons c r => exact ⟨c, r, rfl, by simpa [runsOn] using h⟩
  | startTag tag => cases h
  | endTag name tail => cases h
  | comment body closed => cases h
  | declaration body closed => cases h

theorem pieces_of_overruns {ps : List Piece} (h : Overruns ps []) :
    pieces (ps.flatMap Piece.source) = overrun ps := by
  induction ps with
  | nil => simp [pieces, overrun]
  | cons p ps ih =>
    obtain ⟨hp, hps⟩ := h
    rw [overrun, List.flatMap_cons]
    split
    · rename_i hruns
      obtain ⟨c, r, rfl, hc⟩ := Piece.runsOn_eq_true hruns
      have hone : Scanned [.text (c :: (r ++ ps.flatMap Piece.source))] [] :=
        ⟨⟨c, _, rfl, by rw [if_neg hc]; rfl⟩, trivial⟩
      have hpieces := pieces_of_scanned hone
      rwa [List.flatMap_singleton] at hpieces
    · rename_i hruns
      have hfits := hp.resolve_left hruns
      obtain ⟨c, r, hsource, hread⟩ := readPiece_source hfits
      rw [List.append_nil] at hsource hread
      rw [hsource, pieces, hread, ih hps]

theorem overrun_eq (ps : List Piece) :
    ∃ before after, ps = before ++ after ∧ (overrun ps = before ∨ ∃ body, overrun ps = before ++ [.text body]) := by
  induction ps with
  | nil => exact ⟨[], [], rfl, Or.inl rfl⟩
  | cons p ps ih =>
    rw [overrun]
    split
    · exact ⟨[], p :: ps, rfl, Or.inr ⟨_, rfl⟩⟩
    · obtain ⟨before, after, hsplit, hread⟩ := ih
      refine ⟨p :: before, after, by rw [hsplit]; rfl, ?_⟩
      rcases hread with hread | ⟨body, hread⟩
      · exact Or.inl (by rw [hread])
      · exact Or.inr ⟨body, by rw [hread]; rfl⟩

theorem overrun_eq_self {ps : List Piece} (h : ∀ p ∈ ps, p.runsOn = false) : overrun ps = ps := by
  induction ps with
  | nil => rfl
  | cons p ps ih =>
    have hp := h p List.mem_cons_self
    rw [overrun, hp, if_neg (by simp), ih fun q hq => h q (List.mem_cons_of_mem p hq)]

end ResponsiveMarkup
