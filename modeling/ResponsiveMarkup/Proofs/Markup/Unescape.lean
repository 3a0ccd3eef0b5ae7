import ResponsiveMarkup.Proofs.Markup.Escape
import ResponsiveMarkup.Proofs.Text.Collapse

/-!
Reading escaped texts back. Every ampersand that escaping leaves opens an entity, and as the entity of the ampersand is
read back last, texts that hold what looks like an entity come back as they were.
-/

namespace ResponsiveMarkup

open Text

/-! ### Attribute values -/

theorem singlySpaced_escapeAttr (s : Text) : SinglySpaced (escapeAttr s) := by
  rw [escapeAttr, collapse, escapeQuoted_joinWith]
  apply singlySpaced_joinWith
  intro w hw
  obtain ⟨v, hv, rfl⟩ := List.mem_map.mp hw
  exact isWord_escapeQuoted (isWord_of_mem_words hv).1

/-- A character that is not in what stands in front is found in what stands behind. -/
theorem exists_of_append_eq {p s before after : Text} {c : Char} (hc : c ∉ p) (h : p ++ s = before ++ c :: after) :
    ∃ m, s = m ++ c :: after := by
  rcases List.append_eq_append_iff.mp h with ⟨m, -, hs⟩ | ⟨m, rfl, hs⟩
  · exact ⟨m, hs⟩
  · cases m with
    | nil => exact ⟨[], hs.symm⟩
    | cons d m =>
      cases hs
      exact absurd (List.mem_append_right before List.mem_cons_self) hc

/-- An ampersand in front of an entity's name opens that entity; any other stands further behind. -/
theorem opens_or_behind {name s before after : Text} (hname : '&' ∉ name)
    (h : '&' :: (name ++ s) = before ++ '&' :: after) : name <+: after ∨ ∃ m, s = m ++ '&' :: after := by
  cases before with
  | nil =>
    cases h
    exact Or.inl (List.prefix_append name s)
  | cons d before =>
    rw [List.cons_append, List.cons.injEq] at h
    exact Or.inr (exists_of_append_eq hname h.2)

/-- Every ampersand in an escaped text opens one of its two entities. -/
theorem entity_of_ampersand {s before after : Text} (h : escapeQuoted s = before ++ '&' :: after) :
    "amp;".toList <+: after ∨ "quot;".toList <+: after := by
  induction s generalizing before with
  | nil =>
    have hnil : [] = before ++ '&' :: after := h
    simp at hnil
  | cons c s ih =>
    rw [escapeQuoted_eq, List.flatMap_cons, ← escapeQuoted_eq] at h
    have hbehind : (∃ m, escapeQuoted s = m ++ '&' :: after) → "amp;".toList <+: after ∨ "quot;".toList <+: after :=
      fun ⟨_, hm⟩ => ih hm
    by_cases hamp : c = '&'
    · have hchar : quotedChar c = '&' :: "amp;".toList := if_pos hamp
      rw [hchar, List.cons_append] at h
      exact (opens_or_behind (by decide) h).elim Or.inl hbehind
    · by_cases hquot : c = '"'
      · have hchar : quotedChar c = '&' :: "quot;".toList := by rw [hquot]; rfl
        rw [hchar, List.cons_append] at h
        exact (opens_or_behind (by decide) h).elim Or.inr hbehind
      · have hchar : quotedChar c = [c] := by rw [quotedChar, if_neg hamp, if_neg hquot]
        rw [hchar] at h
        exact hbehind (exists_of_append_eq (by simpa using Ne.symm hamp) h)

theorem unescapeAttr_escapeAttr (s : Text) : unescapeAttr (escapeAttr s) = trim (squeeze s) := by
  rw [escapeAttr, unescapeAttr_escapeQuoted, collapse_eq]

/-! ### Element bodies -/

/-- What stands for a character once the opening brackets are read back. -/
def closingChar (c : Char) : Text :=
  if c = '&' then "&amp;".toList else if c = '>' then "&gt;".toList else [c]

/-- An entity that no body holds is not found in one. -/
theorem flatMap_bodyChar_of_skipped {entity other : Text}
    (h : ∀ body ∈ ["&amp;", "&lt;", "&gt;"].map String.toList, ∀ rest,
      replaceAll ('&' :: entity) other (body ++ rest) = body ++ replaceAll ('&' :: entity) other rest) (s : Text) :
    replaceAll ('&' :: entity) other (s.flatMap bodyChar) = s.flatMap bodyChar := by
  apply replaceAll_flatMap
  intro c rest
  rw [bodyChar]
  by_cases hamp : c = '&'
  · rw [if_pos hamp]
    exact h _ (by decide) rest
  · rw [if_neg hamp]
    by_cases hopening : c = '<'
    · rw [if_pos hopening]
      exact h _ (by decide) rest
    · rw [if_neg hopening]
      by_cases hclosing : c = '>'
      · rw [if_pos hclosing]
        exact h _ (by decide) rest
      · rw [if_neg hclosing]
        exact replaceAll_skip hamp _ _ _

theorem replaceAll_openings (s : Text) :
    replaceAll "&lt;".toList ['<'] (s.flatMap bodyChar) = s.flatMap closingChar := by
  apply replaceAll_flatMap
  intro c rest
  rw [bodyChar, closingChar]
  by_cases hamp : c = '&'
  · rw [if_pos hamp, if_pos hamp]
    rfl
  · rw [if_neg hamp, if_neg hamp]
    by_cases hopening : c = '<'
    · rw [if_pos hopening, hopening]
      rfl
    · rw [if_neg hopening]
      by_cases hclosing : c = '>'
      · rw [if_pos hclosing]
        rfl
      · rw [if_neg hclosing]
        exact replaceAll_skip hamp _ _ _

theorem replaceAll_closings (s : Text) :
    replaceAll "&gt;".toList ['>'] (s.flatMap closingChar) = s.flatMap ampersandChar := by
  apply replaceAll_flatMap
  intro c rest
  rw [closingChar, ampersandChar]
  by_cases hamp : c = '&'
  · rw [if_pos hamp, if_pos hamp]
    rfl
  · rw [if_neg hamp, if_neg hamp]
    by_cases hclosing : c = '>'
    · rw [if_pos hclosing, hclosing]
      rfl
    · rw [if_neg hclosing]
      exact replaceAll_skip hamp _ _ _

theorem unescapeAttr_escapeText (s : Text) : unescapeAttr (escapeText s) = s := by
  have hquot : replaceAll "&quot;".toList ['"'] (s.flatMap bodyChar) = s.flatMap bodyChar := by
    refine flatMap_bodyChar_of_skipped (fun body hbody rest => ?_) s
    simp only [List.map_cons, List.map_nil, List.mem_cons, List.not_mem_nil, or_false] at hbody
    rcases hbody with rfl | rfl | rfl <;> rfl
  have happ : replaceAll "&#39;".toList ['\x27'] (s.flatMap bodyChar) = s.flatMap bodyChar := by
    refine flatMap_bodyChar_of_skipped (fun body hbody rest => ?_) s
    simp only [List.map_cons, List.map_nil, List.mem_cons, List.not_mem_nil, or_false] at hbody
    rcases hbody with rfl | rfl | rfl <;> rfl
  simp only [unescapeAttr, entities, List.foldl_cons, List.foldl_nil]
  rw [escapeText_eq, hquot, happ, replaceAll_openings, replaceAll_closings, replaceAll_ampersands]

/-- An escaped value has no double quote, no blank but single spaces between other characters and no ampersand that does
not open an entity, and an escaped body no bracket. Read back, the value is the text with each run of blanks as one
space and none at the ends, and the body is the text. -/
theorem escaping_read_back (s : Text) :
    ('"' ∉ escapeAttr s ∧ SinglySpaced (escapeAttr s) ∧
      (∀ before after, escapeAttr s = before ++ '&' :: after →
        "amp;".toList <+: after ∨ "quot;".toList <+: after) ∧
      unescapeAttr (escapeAttr s) = trim (squeeze s)) ∧
    '<' ∉ escapeText s ∧ '>' ∉ escapeText s ∧ unescapeAttr (escapeText s) = s :=
  ⟨⟨no_quote_escapeAttr s, singlySpaced_escapeAttr s, fun _ _ h => entity_of_ampersand h, unescapeAttr_escapeAttr s⟩,
    no_bracket_escapeText (Or.inl rfl) s, no_bracket_escapeText (Or.inr rfl) s, unescapeAttr_escapeText s⟩

/-- A text with entities in it, and with a line break between them. -/
theorem escaping_read_back_entityLike :
    escapeAttr " \"&amp;lt;\n&quot;".toList = "&quot;&amp;amp;lt; ".toList ++ '&' :: "amp;quot;".toList ∧
    ("amp;".toList <+: "amp;quot;".toList ∨ "quot;".toList <+: "amp;quot;".toList) ∧
    unescapeAttr (escapeAttr " \"&amp;lt;\n&quot;".toList) = "\"&amp;lt; &quot;".toList ∧
    unescapeAttr "&lt;&amp;gt;".toList = "<&gt;".toList := by
  have hvalue : escapeAttr " \"&amp;lt;\n&quot;".toList = "&quot;&amp;amp;lt; ".toList ++ '&' :: "amp;quot;".toList := by
    decide
  have hsqueezed : trim (squeeze " \"&amp;lt;\n&quot;".toList) = "\"&amp;lt; &quot;".toList := by decide
  obtain ⟨⟨-, -, hopens, hread⟩, -⟩ := escaping_read_back " \"&amp;lt;\n&quot;".toList
  obtain ⟨-, -, -, hbody⟩ := escaping_read_back "<&gt;".toList
  rw [hsqueezed] at hread
  exact ⟨hvalue, hopens _ _ hvalue, hread, hbody⟩

end ResponsiveMarkup
