import ResponsiveMarkup.Proofs.Text.Slices

/-!
Scanning loses nothing. The ranges of the tokens tile the text, so that cutting them out one after another
gives the text back, and whatever a token says stands in the text within the token's range.
-/

namespace ResponsiveMarkup

open Text

/-- Non-empty ranges that lead from one offset to another without a gap. -/
inductive Tiles : Nat → Nat → List Span → Prop where
  | nil (n) : Tiles n n []
  | cons {start mid stop spans} : start < mid → Tiles mid stop spans →
      Tiles start stop (⟨start, mid⟩ :: spans)

theorem Tiles.length_le {start stop : Nat} {spans : List Span} (h : Tiles start stop spans) :
    start + spans.length ≤ stop := by
  induction h with
  | nil => exact Nat.le_refl _
  | cons hlt _ ih =>
    simp only [List.length_cons]
    omega

/-- A part of the text that stands somewhere within a range. -/
def StandsWithin (src : Text) (outer : Span) (part : Text) : Prop :=
  ∃ r : Span, r.Within outer ∧ r.slice? src = some part

/-- An attribute lies in the range of its tag, and its name and value stand in the attribute's own range. -/
structure Attribute.Faithful (src : Text) (outer : Span) (a : Attribute) : Prop where
  outer_within : a.outerSpan.Within outer
  name : StandsWithin src a.outerSpan a.name
  value : (a.value = none ∧ a.valueSpan = none) ∨
    ∃ v r, a.value = some v ∧ a.valueSpan = some r ∧ r.Within a.outerSpan ∧ r.slice? src = some v

/-- What a token says stands in the text within the token's range. -/
def Token.Faithful (src : Text) (t : Token) : Prop :=
  match t.kind with
  | .startTag tag => tag.nameSpan.Within t.span ∧ tag.nameSpan.slice? src = some tag.name ∧
      ∀ a ∈ tag.attributes, a.Faithful src t.span
  | .endTag name nameSpan => nameSpan.Within t.span ∧ nameSpan.slice? src = some name
  | .comment body => StandsWithin src t.span body
  | .text body => StandsWithin src t.span body

theorem StandsAt.standsWithin {src a b c : Text} {start : Nat} (h : StandsAt src start (a ++ b ++ c)) :
    StandsWithin src (Span.of start (a ++ b ++ c)) b :=
  ⟨Span.of (start + byteLength a) b, Span.of_within start a b c, h.inner⟩

theorem Scanner.source_ne_nil_of_mem_pieces {s : Text} {p : Piece} (h : p ∈ Scanner.pieces s) :
    p.source ≠ [] := by
  fun_induction Scanner.pieces s with
  | case1 => cases h
  | case2 c r ih =>
    rcases List.mem_cons.mp h with rfl | h
    · intro hnil
      have hs := congrArg List.length (Scanner.source_readPiece c r)
      have hr := Scanner.length_readPiece c r
      simp only [hnil, List.nil_append, List.length_cons] at hs
      omega
    · exact ih h

theorem tiles_tokensFrom (start : Nat) {ps : List Piece} (h : ∀ p ∈ ps, p.source ≠ []) :
    Tiles start (start + byteLength (ps.flatMap Piece.source)) ((tokensFrom start ps).map (·.span)) := by
  induction ps generalizing start with
  | nil => exact .nil start
  | cons p ps ih =>
    have hp := byteLength_pos (h p List.mem_cons_self)
    have hrest := ih (start + byteLength p.source) fun q hq => h q (List.mem_cons_of_mem p hq)
    rw [List.flatMap_cons, byteLength_append, ← Nat.add_assoc]
    exact .cons (by omega) hrest

theorem slices_tokensFrom {src : Text} {start : Nat} {ps : List Piece}
    (h : StandsAt src start (ps.flatMap Piece.source)) :
    (tokensFrom start ps).mapM (fun t => t.span.slice? src) = some (ps.map Piece.source) := by
  induction ps generalizing start with
  | nil => rfl
  | cons p ps ih =>
    rw [List.flatMap_cons] at h
    have hp : (Span.of start p.source).slice? src = some p.source := h.left
    simp only [tokensFrom, List.mapM_cons, hp, ih h.right]
    rfl

/-- Cutting an assigned part of a tag in front of its value and behind it. -/
theorem TagPart.source_named (lead name : Text) (a : Assigned) {v : Text} (hv : a.value.text? = some v) :
    ∃ opening tail, (TagPart.named lead name (some a)).source =
        (lead ++ name ++ a.gap ++ '=' :: a.indent ++ opening) ++ v ++ tail ∧
      byteLength opening = a.value.opening := by
  cases hval : a.value with
  | quoted q body closed =>
    rw [hval] at hv
    cases hv
    refine ⟨[q], if closed then [q] else [], ?_, by simp [byteLength, AttributeValue.opening]⟩
    simp [TagPart.source, Assigned.source, hval, AttributeValue.source]
  | bare body =>
    rw [hval] at hv
    cases hv
    refine ⟨[], [], ?_, rfl⟩
    simp [TagPart.source, Assigned.source, hval, AttributeValue.source]
  | missing =>
    rw [hval] at hv
    cases hv

theorem TagPart.faithful_attribute {src : Text} {start : Nat} {part : TagPart} {a : Attribute}
    (h : StandsAt src start part.source) (ha : part.attribute? start = some a) :
    a.outerSpan = Span.of start part.source ∧ StandsWithin src a.outerSpan a.name ∧
      ((a.value = none ∧ a.valueSpan = none) ∨
        ∃ v r, a.value = some v ∧ a.valueSpan = some r ∧ r.Within a.outerSpan ∧ r.slice? src = some v) := by
  cases part with
  | slash lead => cases ha
  | nameless lead indent value => cases ha
  | named lead name assigned =>
    cases assigned with
    | none =>
      cases ha
      have hsource : (TagPart.named lead name none).source = lead ++ name ++ [] := by
        simp [TagPart.source]
      refine ⟨rfl, ?_, Or.inl ⟨rfl, rfl⟩⟩
      rw [hsource] at h ⊢
      exact h.standsWithin
    | some b =>
      cases ha
      refine ⟨rfl, ?_, ?_⟩
      · simp only [TagPart.source] at h ⊢
        exact h.standsWithin
      · cases hv : b.value.text? with
        | none => exact Or.inl ⟨rfl, rfl⟩
        | some v =>
          obtain ⟨opening, tail, hsource, hlen⟩ := TagPart.source_named lead name b hv
          rw [hsource] at h
          obtain ⟨hwithin, hstands⟩ := h.middle (by rw [byteLength_append, hlen])
          rw [← Nat.add_assoc] at hwithin hstands
          refine Or.inr ⟨v, _, rfl, rfl, ?_, hstands⟩
          rw [hsource]
          exact hwithin

theorem faithful_attributesFrom {src : Text} {start : Nat} {parts : List TagPart}
    (h : StandsAt src start (parts.flatMap TagPart.source)) :
    ∀ a ∈ attributesFrom start parts,
      a.Faithful src (Span.of start (parts.flatMap TagPart.source)) := by
  induction parts generalizing start with
  | nil => exact fun a ha => nomatch ha
  | cons part parts ih =>
    intro a ha
    rw [List.flatMap_cons] at h ⊢
    rcases List.mem_append.mp ha with ha | ha
    · obtain ⟨hspan, hname, hvalue⟩ := TagPart.faithful_attribute h.left (Option.mem_toList.mp ha)
      refine ⟨?_, hname, hvalue⟩
      rw [hspan]
      constructor <;> simp only [Span.of, byteLength_append] <;> omega
    · obtain ⟨houter, hname, hvalue⟩ := ih h.right a ha
      refine ⟨houter.trans ?_, hname, hvalue⟩
      constructor <;> simp only [Span.of, byteLength_append] <;> omega

theorem Piece.faithful_token {src : Text} {start : Nat} {p : Piece} (h : StandsAt src start p.source) :
    Token.Faithful src ⟨p.kind start, Span.of start p.source⟩ := by
  cases p with
  | startTag tag =>
    have hname : tag.source = ['<'] ++ tag.name ++
        (tag.parts.flatMap TagPart.source ++ (tag.lead ++ tag.stop.source)) := by
      simp [TagText.source]
    have hparts : tag.source = ('<' :: tag.name) ++ tag.parts.flatMap TagPart.source ++
        (tag.lead ++ tag.stop.source) := by
      simp [TagText.source]
    have hlt : '<'.utf8Size = 1 := by decide
    rw [Piece.source] at h ⊢
    refine ⟨?_, ?_, fun a ha => ?_⟩
    · rw [hname] at h ⊢
      exact (h.middle (by decide)).1
    · rw [hname] at h
      exact (h.middle (by decide)).2
    · rw [hparts] at h ⊢
      obtain ⟨hwithin, hstands⟩ := h.middle (by rw [byteLength, hlt])
      rw [← Nat.add_assoc] at hwithin hstands
      obtain ⟨houter, hattr, hvalue⟩ := faithful_attributesFrom hstands a ha
      exact ⟨houter.trans hwithin, hattr, hvalue⟩
  | endTag name tail =>
    have hsource : (Piece.endTag name tail).source = ['<', '/'] ++ name ++ tail := rfl
    rw [hsource] at h ⊢
    exact h.middle (by decide)
  | comment body closed => exact h.standsWithin
  | declaration body closed => exact h.standsWithin
  | text body =>
    have hsource : (Piece.text body).source = [] ++ body ++ [] := by simp [Piece.source]
    rw [hsource] at h ⊢
    exact h.standsWithin

theorem faithful_tokensFrom {src : Text} {start : Nat} {ps : List Piece}
    (h : StandsAt src start (ps.flatMap Piece.source)) : ∀ t ∈ tokensFrom start ps, t.Faithful src := by
  induction ps generalizing start with
  | nil => exact fun t ht => nomatch ht
  | cons p ps ih =>
    intro t ht
    rw [List.flatMap_cons] at h
    rcases List.mem_cons.mp ht with rfl | ht
    · exact Piece.faithful_token h.left
    · exact ih h.right t ht

/-- Every text has tokens, no more of them than bytes. Their ranges tile the text, what the ranges cut out makes
up the text, and names, values and bodies stand within the ranges they belong to. -/
theorem tokenize_lossless (src : Text) :
    (tokenize src).length ≤ byteLength src ∧
    Tiles 0 (byteLength src) ((tokenize src).map (·.span)) ∧
    (∃ parts, (tokenize src).mapM (fun t => t.span.slice? src) = some parts ∧ parts.flatten = src) ∧
    ∀ t ∈ tokenize src, t.Faithful src := by
  have hsource := Scanner.flatMap_source_pieces src
  have hstands : StandsAt src 0 ((Scanner.pieces src).flatMap Piece.source) := by
    rw [hsource]
    exact standsAt_self src
  have htiles : Tiles 0 (byteLength src) ((tokenize src).map (·.span)) := by
    have := tiles_tokensFrom 0 fun p hp => Scanner.source_ne_nil_of_mem_pieces (s := src) hp
    rwa [hsource, Nat.zero_add] at this
  refine ⟨?_, htiles, ⟨_, slices_tokensFrom hstands, ?_⟩, faithful_tokensFrom hstands⟩
  · have := htiles.length_le
    simpa using this
  · rw [← List.flatMap_def, hsource]

end ResponsiveMarkup
