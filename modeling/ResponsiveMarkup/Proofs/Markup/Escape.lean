import Mathlib.Data.List.Basic
import ResponsiveMarkup.Markup.Escape
import ResponsiveMarkup.Proofs.Text.Words

/-!
Escaped texts cannot leave the place they are written to. An attribute value holds no double quote, an element
body no opening bracket and a comment no two dashes in a row.
-/

namespace ResponsiveMarkup

open Text

/-- What stands for a character in an attribute value. -/
def quotedChar (c : Char) : Text :=
  if c = '&' then "&amp;".toList else if c = '"' then "&quot;".toList else [c]

theorem escapeQuoted_eq (s : Text) : escapeQuoted s = s.flatMap quotedChar := rfl

theorem no_quote_quotedChar (c : Char) : '"' ∉ quotedChar c := by
  rw [quotedChar]
  split
  · decide
  · split
    · decide
    · rename_i h
      simpa using Ne.symm h

/-- An entity begins and ends with what is no blank, and any other character stands for itself. -/
theorem trimmed_quotedChar {c : Char} (h : isBlank c = false) : Trimmed (quotedChar c) ∧ quotedChar c ≠ [] := by
  rw [quotedChar]
  split
  · exact ⟨trimmed_ends (by decide) (by decide) "amp".toList, by decide⟩
  · split
    · exact ⟨trimmed_ends (by decide) (by decide) "quot".toList, by decide⟩
    · exact ⟨⟨by simpa using h, by simpa using h⟩, by simp⟩

theorem quotedChar_ne_nil (c : Char) : quotedChar c ≠ [] := by
  rw [quotedChar]
  split
  · decide
  · split
    · decide
    · simp

theorem no_quote_escapeAttr (s : Text) : '"' ∉ escapeAttr s := by
  intro h
  obtain ⟨c, -, hc⟩ := List.mem_flatMap.mp h
  exact no_quote_quotedChar c hc

theorem trimmed_escapeQuoted {s : Text} (h : Trimmed s) : Trimmed (escapeQuoted s) := by
  constructor
  · intro c hc
    cases s with
    | nil => cases hc
    | cons d s =>
      obtain ⟨htrimmed, hne⟩ := trimmed_quotedChar (h.head d rfl)
      rw [escapeQuoted_eq, List.flatMap_cons, List.head?_append_of_ne_nil _ hne] at hc
      exact htrimmed.head c hc
  · intro c hc
    rcases List.eq_nil_or_concat s with rfl | ⟨s, d, rfl⟩
    · cases hc
    · obtain ⟨htrimmed, hne⟩ := trimmed_quotedChar (h.last d (by simp))
      rw [escapeQuoted_eq, List.concat_eq_append, List.flatMap_append, List.flatMap_singleton,
        List.getLast?_append_of_ne_nil _ hne] at hc
      exact htrimmed.last c hc

theorem trimmed_escapeAttr (s : Text) : Trimmed (escapeAttr s) := trimmed_escapeQuoted (trimmed_collapse s)

theorem escapeAttr_eq_nil_iff {s : Text} : escapeAttr s = [] ↔ isBlankText s = true := by
  rw [escapeAttr, escapeQuoted_eq, List.flatMap_eq_nil_iff, ← collapse_eq_nil_iff]
  constructor
  · intro h
    exact List.eq_nil_iff_forall_not_mem.mpr fun c hc => quotedChar_ne_nil c (h c hc)
  · intro h
    rw [h]
    simp

theorem isBlankText_escapeAttr (s : Text) : isBlankText (escapeAttr s) = isBlankText s := by
  rw [(trimmed_escapeAttr s).isBlankText_eq, Bool.eq_iff_iff, List.isEmpty_iff, escapeAttr_eq_nil_iff]

/-! ### Words and reading back -/

theorem isWord_escapeQuoted {w : Text} (h : IsWord w) : IsWord (escapeQuoted w) := by
  obtain ⟨hne, hchars⟩ := h
  refine ⟨?_, fun d hd => ?_⟩
  · cases w with
    | nil => exact absurd rfl hne
    | cons c w =>
      rw [escapeQuoted_eq, List.flatMap_cons]
      exact List.append_ne_nil_of_left_ne_nil (quotedChar_ne_nil c) _
  · obtain ⟨c, hc, hd⟩ := List.mem_flatMap.mp hd
    have hblank := hchars c hc
    have hamp : "&amp;".toList.all (fun x => !isBlank x) = true := by decide
    have hquot : "&quot;".toList.all (fun x => !isBlank x) = true := by decide
    by_cases hcamp : c = '&'
    · rw [if_pos hcamp] at hd
      simpa using List.all_eq_true.mp hamp d hd
    · rw [if_neg hcamp] at hd
      by_cases hcquot : c = '"'
      · rw [if_pos hcquot] at hd
        simpa using List.all_eq_true.mp hquot d hd
      · rw [if_neg hcquot, List.mem_singleton] at hd
        rw [hd]
        exact hblank

theorem escapeQuoted_joinWith (ws : List Text) :
    escapeQuoted (joinWith [' '] ws) = joinWith [' '] (ws.map escapeQuoted) := by
  induction ws with
  | nil => rfl
  | cons w ws ih =>
    cases ws with
    | nil => rfl
    | cons v vs =>
      rw [List.map_cons, List.map_cons, joinWith, joinWith, ← List.map_cons, ← ih, escapeQuoted_eq, escapeQuoted_eq,
        escapeQuoted_eq, List.flatMap_append, List.flatMap_append]
      rfl

theorem words_escapeAttr (s : Text) : words (escapeAttr s) = (words s).map escapeQuoted := by
  rw [escapeAttr, collapse, escapeQuoted_joinWith, words_joinWith]
  intro w hw
  obtain ⟨v, hv, rfl⟩ := List.mem_map.mp hw
  exact isWord_escapeQuoted (isWord_of_mem_words hv).1

theorem replaceAll_flatMap {needle other : Text} {f g : Char → Text}
    (h : ∀ c rest, replaceAll needle other (f c ++ rest) = g c ++ replaceAll needle other rest) (s : Text) :
    replaceAll needle other (s.flatMap f) = s.flatMap g := by
  induction s with
  | nil => rfl
  | cons c s ih => rw [List.flatMap_cons, h, ih, List.flatMap_cons]

/-- No entity begins at a character that is no ampersand. -/
theorem replaceAll_skip {c : Char} (h : c ≠ '&') (entity other rest : Text) :
    replaceAll ('&' :: entity) other ([c] ++ rest) = [c] ++ replaceAll ('&' :: entity) other rest := by
  simp [replaceAll, replaceAll.go, stripStart?, Ne.symm h]

/-- What stands for a character while only the ampersands are still to be read back. -/
def ampersandChar (c : Char) : Text := if c = '&' then "&amp;".toList else [c]

theorem flatMap_ampersandChar_of_skipped {entity other : Text}
    (h : ∀ rest, replaceAll ('&' :: entity) other ("&amp;".toList ++ rest) =
      "&amp;".toList ++ replaceAll ('&' :: entity) other rest) (s : Text) :
    replaceAll ('&' :: entity) other (s.flatMap ampersandChar) = s.flatMap ampersandChar := by
  apply replaceAll_flatMap
  intro c rest
  rw [ampersandChar]
  by_cases hc : c = '&'
  · rw [if_pos hc]
    exact h rest
  · rw [if_neg hc]
    exact replaceAll_skip hc _ _ _

/-- The ampersands are the last to be read back. -/
theorem replaceAll_ampersands (s : Text) : replaceAll "&amp;".toList ['&'] (s.flatMap ampersandChar) = s := by
  have hamps : replaceAll "&amp;".toList ['&'] (s.flatMap ampersandChar) = s.flatMap fun c => [c] := by
    apply replaceAll_flatMap
    intro c rest
    rw [ampersandChar]
    by_cases hamp : c = '&'
    · rw [if_pos hamp, hamp]
      rfl
    · rw [if_neg hamp]
      exact replaceAll_skip hamp _ _ _
  rw [hamps, List.flatMap_singleton']

theorem unescapeAttr_escapeQuoted (s : Text) : unescapeAttr (escapeQuoted s) = s := by
  have hquotes : replaceAll "&quot;".toList ['"'] (s.flatMap quotedChar) = s.flatMap ampersandChar := by
    apply replaceAll_flatMap
    intro c rest
    rw [quotedChar, ampersandChar]
    by_cases hamp : c = '&'
    · rw [if_pos hamp, if_pos hamp]
      rfl
    · rw [if_neg hamp, if_neg hamp]
      by_cases hquot : c = '"'
      · rw [if_pos hquot, hquot]
        rfl
      · rw [if_neg hquot]
        exact replaceAll_skip hamp _ _ _
  have happ : replaceAll "&#39;".toList ['\x27'] (s.flatMap ampersandChar) = s.flatMap ampersandChar :=
    flatMap_ampersandChar_of_skipped (fun _ => rfl) s
  have hlt : replaceAll "&lt;".toList ['<'] (s.flatMap ampersandChar) = s.flatMap ampersandChar :=
    flatMap_ampersandChar_of_skipped (fun _ => rfl) s
  have hgt : replaceAll "&gt;".toList ['>'] (s.flatMap ampersandChar) = s.flatMap ampersandChar :=
    flatMap_ampersandChar_of_skipped (fun _ => rfl) s
  simp only [unescapeAttr, entities, List.foldl_cons, List.foldl_nil]
  rw [escapeQuoted_eq, hquotes, happ, hlt, hgt, replaceAll_ampersands]

/-- A character stands for itself, or an ampersand stands in its place. -/
theorem quotedChar_cases (c : Char) :
    quotedChar c = [c] ∨ (c = '&' ∨ c = '"') ∧ ∃ r, quotedChar c = '&' :: r := by
  rw [quotedChar]
  by_cases hamp : c = '&'
  · rw [if_pos hamp]
    exact Or.inr ⟨Or.inl hamp, _, rfl⟩
  · rw [if_neg hamp]
    by_cases hquot : c = '"'
    · rw [if_pos hquot]
      exact Or.inr ⟨Or.inr hquot, _, rfl⟩
    · rw [if_neg hquot]
      exact Or.inl rfl

theorem cut_escapeQuoted {p : Char → Bool} (hamp : p '&' = false) (hquot : p '"' = false) (s : Text) :
    (escapeQuoted s).takeWhile p = s.takeWhile p ∧ (escapeQuoted s).dropWhile p = escapeQuoted (s.dropWhile p) := by
  induction s with
  | nil => exact ⟨rfl, rfl⟩
  | cons c s ih =>
    rw [escapeQuoted_eq, List.flatMap_cons]
    rcases quotedChar_cases c with hself | ⟨hc, r, hentity⟩
    · rw [hself, List.singleton_append]
      by_cases hp : p c = true
      · rw [List.takeWhile_cons_of_pos hp, List.takeWhile_cons_of_pos hp, List.dropWhile_cons_of_pos hp,
          List.dropWhile_cons_of_pos hp]
        exact ⟨congrArg (c :: ·) ih.1, ih.2⟩
      · rw [List.takeWhile_cons_of_neg hp, List.takeWhile_cons_of_neg hp, List.dropWhile_cons_of_neg hp,
          List.dropWhile_cons_of_neg hp, escapeQuoted_eq, List.flatMap_cons, hself]
        exact ⟨rfl, rfl⟩
    · have hp : ¬ p c = true := by
        rcases hc with rfl | rfl
        · simp [hamp]
        · simp [hquot]
      rw [List.takeWhile_cons_of_neg hp, List.dropWhile_cons_of_neg hp, escapeQuoted_eq, List.flatMap_cons, hentity,
        List.cons_append, List.takeWhile_cons_of_neg (by simp [hamp]), List.dropWhile_cons_of_neg (by simp [hamp])]
      exact ⟨rfl, rfl⟩

theorem bracket_mem_escapeQuoted {s : Text} : ']' ∈ escapeQuoted s ↔ ']' ∈ s := by
  rw [escapeQuoted_eq, List.mem_flatMap]
  constructor
  · rintro ⟨c, hc, hbracket⟩
    rw [quotedChar] at hbracket
    split at hbracket
    · exact absurd hbracket (by decide)
    · split at hbracket
      · exact absurd hbracket (by decide)
      · rw [List.mem_singleton.mp hbracket]
        exact hc
  · intro h
    exact ⟨']', h, by decide⟩

theorem stripStart?_escapeQuoted {p : Text} (hamp : '&' ∉ p) (hquot : '"' ∉ p) (s : Text) :
    stripStart? p (escapeQuoted s) = (stripStart? p s).map escapeQuoted := by
  induction p generalizing s with
  | nil => rfl
  | cons a p ih =>
    simp only [List.mem_cons, not_or] at hamp hquot
    cases s with
    | nil => rfl
    | cons c s =>
      rw [escapeQuoted_eq, List.flatMap_cons]
      rcases quotedChar_cases c with hself | ⟨hc, r, hentity⟩
      · rw [hself, List.singleton_append, stripStart?, stripStart?]
        split
        · exact ih hamp.2 hquot.2 s
        · rfl
      · have hne : a ≠ c := by
          rcases hc with rfl | rfl
          · exact Ne.symm hamp.1
          · exact Ne.symm hquot.1
        rw [hentity, List.cons_append, stripStart?, stripStart?, if_neg hne, if_neg (Ne.symm hamp.1)]
        rfl

/-! ### Element bodies -/

/-- What stands for a character in an element's body. -/
def bodyChar (c : Char) : Text :=
  if c = '&' then "&amp;".toList
  else if c = '<' then "&lt;".toList
  else if c = '>' then "&gt;".toList
  else [c]

theorem escapeText_eq (s : Text) : escapeText s = s.flatMap bodyChar := rfl

theorem no_bracket_bodyChar {b : Char} (hb : b = '<' ∨ b = '>') (c : Char) : b ∉ bodyChar c := by
  rw [bodyChar]
  split
  · rcases hb with rfl | rfl <;> decide
  · split
    · rcases hb with rfl | rfl <;> decide
    · split
      · rcases hb with rfl | rfl <;> decide
      · rename_i hopening hclosing
        rcases hb with rfl | rfl
        · simpa using Ne.symm hopening
        · simpa using Ne.symm hclosing

/-- An entity begins in ASCII, and any other character stands for itself. -/
theorem head_bodyChar (c : Char) : ∃ d r, bodyChar c = d :: r ∧ d.utf8Size = c.utf8Size := by
  rw [bodyChar]
  split
  · rename_i hc
    exact ⟨_, _, rfl, by rw [hc]; decide⟩
  · split
    · rename_i hc
      exact ⟨_, _, rfl, by rw [hc]; decide⟩
    · split
      · rename_i hc
        exact ⟨_, _, rfl, by rw [hc]; decide⟩
      · exact ⟨c, [], rfl, rfl⟩

theorem no_bracket_escapeText {b : Char} (hb : b = '<' ∨ b = '>') (s : Text) : b ∉ escapeText s := by
  intro h
  obtain ⟨c, -, hc⟩ := List.mem_flatMap.mp h
  exact no_bracket_bodyChar hb c hc

theorem escapeText_cons (c : Char) (s : Text) :
    ∃ d r, escapeText (c :: s) = d :: r ∧ d.utf8Size = c.utf8Size := by
  obtain ⟨d, r, hbody, hsize⟩ := head_bodyChar c
  exact ⟨d, r ++ escapeText s, by rw [escapeText_eq, List.flatMap_cons, hbody]; rfl, hsize⟩

/-! ### Comments -/

theorem hasInside_iff {needle s : Text} : hasInside needle s = true ↔ needle <:+: s := by
  induction s with
  | nil =>
    rw [hasInside, breakOn, Option.isSome_map, Option.isSome_iff_exists]
    simp [stripStart?_eq_some]
  | cons c s ih =>
    rw [hasInside, breakOn, List.infix_cons_iff]
    cases hstart : stripStart? needle (c :: s) with
    | some rest =>
      have hstarts : needle <+: c :: s := ⟨rest, (stripStart?_eq_some.mp hstart).symm⟩
      simp [hstarts]
    | none =>
      have hstarts : ¬ needle <+: c :: s := by
        rintro ⟨rest, hrest⟩
        rw [stripStart?_eq_some.mpr hrest.symm] at hstart
        cases hstart
      simp only [Option.isSome_map, hstarts, false_or]
      exact ih

theorem head_collapseDashes (s : Text) : (collapseDashes s).head? = s.head? := by
  induction s with
  | nil => rfl
  | cons c s ih =>
    rw [collapseDashes]
    split
    · rename_i h
      rw [ih, h.2, h.1]
      rfl
    · rfl

theorem getLast_collapseDashes (s : Text) : (collapseDashes s).getLast? = s.getLast? := by
  induction s with
  | nil => rfl
  | cons c s ih =>
    rw [collapseDashes]
    split
    · rename_i h
      cases s with
      | nil => cases h.2
      | cons d s => rw [ih, List.getLast?_cons_cons]
    · rw [List.getLast?_cons, List.getLast?_cons, ih]

theorem trimmed_collapseDashes {s : Text} (h : Trimmed s) : Trimmed (collapseDashes s) := by
  constructor
  · rw [head_collapseDashes]
    exact h.head
  · rw [getLast_collapseDashes]
    exact h.last

theorem collapseDashes_append {p : Text} (h : '-' ∉ p) (s : Text) :
    collapseDashes (p ++ s) = p ++ collapseDashes s := by
  induction p with
  | nil => rfl
  | cons c p ih =>
    rw [List.mem_cons, not_or] at h
    rw [List.cons_append, collapseDashes, if_neg fun hc => h.1 hc.1.symm, ih h.2]
    rfl

theorem hasInside_dashes_collapseDashes (s : Text) : hasInside "--".toList (collapseDashes s) = false := by
  rw [← Bool.not_eq_true, hasInside_iff]
  induction s with
  | nil => decide
  | cons c s ih =>
    rw [collapseDashes]
    split
    · exact ih
    · rename_i hne
      rw [List.infix_cons_iff, not_or]
      refine ⟨?_, ih⟩
      rintro ⟨rest, hrest⟩
      have hdash : c = '-' := by simpa using (congrArg List.head? hrest).symm
      have hnext : (collapseDashes s).head? = some '-' := by
        have := congrArg (fun l => l.tail.head?) hrest
        simpa using this.symm
      rw [head_collapseDashes] at hnext
      exact hne ⟨hdash, hnext⟩

/-- Only a text with two dashes in a row is changed. -/
theorem collapseDashes_eq_self_iff {s : Text} : collapseDashes s = s ↔ hasInside "--".toList s = false := by
  constructor
  · intro h
    rw [← h]
    exact hasInside_dashes_collapseDashes s
  · intro h
    rw [← Bool.not_eq_true, hasInside_iff] at h
    induction s with
    | nil => rfl
    | cons c s ih =>
      rw [List.infix_cons_iff, not_or] at h
      have hdashes : ¬ (c = '-' ∧ s.head? = some '-') := by
        rintro ⟨rfl, hnext⟩
        obtain ⟨rest, rfl⟩ := List.head?_eq_some_iff.mp hnext
        exact h.1 ⟨rest, rfl⟩
      rw [collapseDashes, if_neg hdashes, ih h.2]

/-- A body without two dashes in a row cannot end its comment. -/
theorem hasInside_closing_collapseDashes (s : Text) : hasInside "-->".toList (collapseDashes s) = false := by
  rw [← Bool.not_eq_true]
  intro h
  have hclosing : "--".toList <:+: "-->".toList := ⟨[], ['>'], rfl⟩
  have hdashes := hasInside_iff.mpr (hclosing.trans (hasInside_iff.mp h))
  rw [hasInside_dashes_collapseDashes] at hdashes
  cases hdashes

end ResponsiveMarkup
