import ResponsiveMarkup.Finalize
import ResponsiveMarkup.Proofs.Markup.Escape
import ResponsiveMarkup.Proofs.Style.Tokens
import ResponsiveMarkup.Proofs.Text.Stretches
import ResponsiveMarkup.Render.Markup

/-!
Texts in which no word stands for a number that is none. What is written of a double is such a text whatever the
double, and a style token is one if the texts of the design that it takes over are.
-/

namespace ResponsiveMarkup

open Text

namespace Finalize

/-- The word for infinity begins like its abbreviation. -/
def shortWords : List Text := ["NaN", "inf"].map String.toList

def Harmless (s : Text) : Prop := ∀ w ∈ shortWords, ¬ w <:+: s

instance (s : Text) : Decidable (Harmless s) := inferInstanceAs (Decidable (∀ w ∈ shortWords, ¬ w <:+: s))

/-- A character that is in neither of the words. -/
def Neutral (c : Char) : Prop := ∀ w ∈ shortWords, c ∉ w

instance (c : Char) : Decidable (Neutral c) := inferInstanceAs (Decidable (∀ w ∈ shortWords, c ∉ w))

theorem neutral_of_isDigit {c : Char} (h : c.isDigit = true) : Neutral c := by
  have hletters : ∀ w ∈ shortWords, w.all (!·.isDigit) = true := by decide
  intro w hw hc
  have hletter := List.all_eq_true.mp (hletters w hw) c hc
  rw [h] at hletter
  cases hletter

theorem shortWords_ne_nil : ∀ w ∈ shortWords, w ≠ [] := by decide

theorem short_of_nonFiniteWords : ∀ w ∈ nonFiniteWords, ∃ v ∈ shortWords, v <:+: w := by decide

namespace Harmless

variable {s t : Text}

theorem nil : Harmless [] := by decide

theorem of_infix (h : Harmless t) (hst : s <:+: t) : Harmless s := fun w hw hin => h w hw (hin.trans hst)

theorem append_cons_iff {c : Char} (hc : Neutral c) : Harmless (s ++ c :: t) ↔ Harmless s ∧ Harmless t := by
  simp only [Harmless, ← forall₂_and, ← not_or]
  exact forall₂_congr fun w hw => not_congr (infix_append_cons (hc w hw) s t)

theorem cons_iff {c : Char} (hc : Neutral c) : Harmless (c :: t) ↔ Harmless t := by
  rw [← List.nil_append (c :: t), append_cons_iff hc]
  exact and_iff_right nil

theorem of_neutral (h : ∀ c ∈ s, Neutral c) : Harmless s := by
  induction s with
  | nil => exact nil
  | cons c s ih =>
    rw [cons_iff (h c List.mem_cons_self)]
    exact ih fun d hd => h d (List.mem_cons_of_mem c hd)

theorem joinWith {c : Char} (hc : Neutral c) {ts : List Text} (h : ∀ t ∈ ts, Harmless t) :
    Harmless (Text.joinWith [c] ts) := by
  intro w hw hin
  obtain ⟨t, ht, hin⟩ := (infix_joinWith (hc w hw) (shortWords_ne_nil w hw)).mp hin
  exact h t ht w hw hin

theorem of_mem_words (h : Harmless s) {w : Text} (hw : w ∈ words s) : Harmless w := h.of_infix (infix_of_mem_words hw)

/-- The entities hold neither word and part what they stand between. -/
theorem escaped (h : Harmless s) : Harmless (escapeQuoted s) := by
  -- Behind any text, since a word may begin in front of the characters that are still to be escaped.
  have hbehind : ∀ front, Harmless (front ++ s) → Harmless (front ++ escapeQuoted s) := by
    clear h
    induction s with
    | nil => exact fun _ h => h
    | cons c s ih =>
      intro front h
      have hentity (hc : Neutral c) (name : Text) (hname : Harmless name) :
          Harmless (front ++ '&' :: (name ++ ';' :: escapeQuoted s)) := by
        obtain ⟨hfront, hrest⟩ := (append_cons_iff hc).mp h
        rw [append_cons_iff (by decide), append_cons_iff (by decide)]
        exact ⟨hfront, hname, ih [] hrest⟩
      rw [escapeQuoted_eq, List.flatMap_cons, ← escapeQuoted_eq, quotedChar]
      split
      · rename_i hamp
        exact hentity (hamp ▸ by decide) "amp".toList (by decide)
      · split
        · rename_i hquot
          exact hentity (hquot ▸ by decide) "quot".toList (by decide)
        · rw [← List.append_assoc]
          exact ih (front ++ [c]) (by rwa [List.append_assoc, List.singleton_append])
  exact hbehind [] h

theorem nonFiniteHere_eq_false (h : Harmless s) : nonFiniteHere s = false := by
  rw [nonFiniteHere, List.any_eq_false]
  intro w hw hfound
  obtain ⟨v, hv, hin⟩ := short_of_nonFiniteWords w hw
  cases hrest : stripStart? w s with
  | none =>
    rw [hrest] at hfound
    cases hfound
  | some rest =>
    rw [stripStart?_eq_some.mp hrest] at h
    exact h v hv (hin.trans (List.prefix_append w rest).isInfix)

theorem isNonFinite_eq_false (h : Harmless s) : isNonFinite s = false := by
  have hinside : nonFiniteInside s = false := by
    induction s with
    | nil => rfl
    | cons c s ih =>
      have htail : Harmless s := h.of_infix (List.suffix_cons c s).isInfix
      rw [nonFiniteInside, htail.nonFiniteHere_eq_false, Bool.and_false, Bool.false_or, ih htail]
  rw [isNonFinite, h.nonFiniteHere_eq_false, hinside, Bool.or_self]

end Harmless

/-! ### Lower case -/

/-- Neither word stands in the text, in whatever case its letters are. -/
def NumberFree (s : Text) : Prop := ∀ w ∈ ["nan", "inf"].map String.toList, hasInside w (lowercase s) = false

instance (s : Text) : Decidable (NumberFree s) :=
  inferInstanceAs (Decidable (∀ w ∈ ["nan", "inf"].map String.toList, hasInside w (lowercase s) = false))

namespace NumberFree

variable {s t : Text}

theorem not_infix (h : NumberFree t) {w : Text} (hw : w ∈ ["nan", "inf"].map String.toList) : ¬ w <:+: lowercase t := by
  intro hin
  have hfound := h w hw
  rw [hasInside_iff.mpr hin] at hfound
  cases hfound

theorem of_infix (h : NumberFree t) (hst : s <:+: t) : NumberFree s := by
  have hsigma : ∀ w ∈ ["nan", "inf"].map String.toList, NoSigma w := by
    unfold NoSigma
    decide
  intro w hw
  rw [← Bool.not_eq_true, hasInside_iff]
  exact fun hin => h.not_infix hw ((hsigma w hw).infix_lowercase hst hin)

theorem harmless (h : NumberFree s) : Harmless s := by
  have hlow : ∀ w ∈ shortWords, (w.flatMap fun c => (lowercase [c]).map usualSigma) ∈ ["nan", "inf"].map String.toList ∧
      NoSigma (w.flatMap fun c => (lowercase [c]).map usualSigma) := by
    unfold NoSigma
    decide
  intro w hw hin
  obtain ⟨hmem, hsigma⟩ := hlow w hw
  exact h.not_infix hmem (hsigma.infix_lowercase_iff.mpr (hin.flatMap _))

/-- In lower case nothing is left that begins like the one word, and the other is the same. -/
theorem harmless_lowercase (h : NumberFree s) : Harmless (lowercase s) := by
  have hcases : ∀ w ∈ shortWords, 'N' ∈ w ∨ w ∈ ["nan", "inf"].map String.toList := by decide
  intro w hw hin
  rcases hcases w hw with hcapital | hmem
  · have hupper := isUpper_lowercase (hin.subset hcapital)
    cases hupper
  · exact h.not_infix hmem hin

end NumberFree

theorem Harmless.map {f : Char → Char} (hf : ∀ c, f c ≠ c → Neutral (f c)) {s : Text} (h : Harmless s) :
    Harmless (s.map f) := by
  intro w hw hin
  refine h w hw (infix_of_infix_map (fun c hc => ?_) hin)
  by_contra hne
  exact hf c hne w hw hc

end Finalize

/-! ### Numbers -/

namespace Style

open Finalize Design

theorem neutral_number (x : Float) : ∀ c ∈ number x, Neutral c := by
  intro c hc
  rcases isNumberChar_number x c hc with h | rfl | rfl
  · exact neutral_of_isDigit h
  · decide
  · decide

theorem harmless_number (x : Float) : Harmless (number x) := .of_neutral (neutral_number x)

theorem harmless_px (x : Float) : Harmless (px x) := by
  have hunit : Harmless "x".toList := by decide
  have hsplit : px x = number x ++ 'p' :: "x".toList := rfl
  rw [hsplit, Harmless.append_cons_iff (by decide)]
  exact ⟨harmless_number x, hunit⟩

/-! ### Tokens -/

theorem harmless_arbitrary {s : Text} (h : Harmless s) : Harmless (arbitrary s) :=
  .joinWith (by decide) fun _ hw => h.of_mem_words hw

theorem harmless_bracketed {name : String} {payload : Text} (hname : Harmless name.toList) (h : Harmless payload) :
    Harmless (bracketed name payload) := by
  have hsplit : bracketed name payload = name.toList ++ '-' :: ([] ++ '[' :: (payload ++ ']' :: [])) := by
    simp [bracketed]
  rw [hsplit, Harmless.append_cons_iff (by decide), Harmless.append_cons_iff (by decide),
    Harmless.append_cons_iff (by decide)]
  exact ⟨hname, .nil, h, .nil⟩

theorem harmless_gradientStops? {stops : List GradientStop} (h : ∀ s ∈ stops, Harmless s.color.toList) :
    ∀ g ∈ gradientStops? stops, Harmless g := by
  intro g hg
  rw [gradientStops?] at hg
  split at hg
  · cases hg
  · cases hg
    refine .joinWith (by decide) fun t ht => ?_
    obtain ⟨s, hs, rfl⟩ := List.mem_map.mp ht
    have hsplit : Style.arbitrary s.color.toList ++ ['_'] ++ number (s.position * 100) ++ ['%'] =
        Style.arbitrary s.color.toList ++ '_' :: (number (s.position * 100) ++ '%' :: []) := by simp
    rw [hsplit, Harmless.append_cons_iff (by decide), Harmless.append_cons_iff (by decide)]
    exact ⟨harmless_arbitrary (h s hs), harmless_number _, .nil⟩

theorem harmless_payload {p : Text} (h : Payload Harmless p) : Harmless p := by
  cases h with
  | number x => exact harmless_number x
  | length x => exact harmless_px x
  | words h => exact harmless_arbitrary h
  | quoted h =>
    have hquote : Neutral '\x27' := by decide
    rw [List.cons_append, Harmless.cons_iff hquote, Harmless.append_cons_iff hquote]
    exact ⟨harmless_arbitrary h, .nil⟩
  | @address s h =>
    have hurl : Harmless "url".toList := by decide
    have hsplit : "url(".toList ++ arbitrary s ++ [')'] = "url".toList ++ '(' :: (arbitrary s ++ ')' :: []) := rfl
    rw [hsplit, Harmless.append_cons_iff (by decide), Harmless.append_cons_iff (by decide)]
    exact ⟨hurl, harmless_arbitrary h, .nil⟩
  | @linear angle stops g h hg =>
    have hwords : Harmless "linear-gradient".toList ∧ Harmless "eg".toList := by decide
    have hsplit : "linear-gradient(".toList ++ number angle ++ "deg,".toList ++ g ++ [')'] =
        "linear-gradient".toList ++ '(' :: (number angle ++ 'd' :: ("eg".toList ++ ',' :: (g ++ ')' :: []))) := by
      simp
    rw [hsplit, Harmless.append_cons_iff (by decide), Harmless.append_cons_iff (by decide),
      Harmless.append_cons_iff (by decide), Harmless.append_cons_iff (by decide)]
    exact ⟨hwords.1, harmless_number angle, hwords.2, harmless_gradientStops? h g hg, .nil⟩
  | @radial stops g h hg =>
    have hword : Harmless "radial-gradient".toList := by decide
    have hsplit : "radial-gradient(".toList ++ g ++ [')'] = "radial-gradient".toList ++ '(' :: (g ++ ')' :: []) := by
      simp
    rw [hsplit, Harmless.append_cons_iff (by decide), Harmless.append_cons_iff (by decide)]
    exact ⟨hword, harmless_gradientStops? h g hg, .nil⟩

theorem harmless_radiusToken {name : String} (hname : Harmless name.toList) (r : Float) :
    Harmless (radiusToken name r) := by
  have hbands : ∀ band ∈ radiusBands, Harmless band.2.toList := by decide
  have hfull : Harmless "full".toList := by decide
  rw [radiusToken]
  split
  · have hsplit : name.toList ++ "-full".toList = name.toList ++ '-' :: "full".toList := rfl
    rw [hsplit, Harmless.append_cons_iff (by decide)]
    exact ⟨hname, hfull⟩
  · split
    · exact hname
    · rename_i greatest band hband
      rw [Harmless.append_cons_iff (by decide)]
      exact ⟨hname, hbands _ (List.mem_of_find?_eq_some hband)⟩
    · exact harmless_bracketed hname (harmless_px r)

theorem harmless_blendToken? {mode : String} (h : NumberFree mode.toList) : ∀ t ∈ blendToken? mode, Harmless t := by
  intro t ht
  have hname : Harmless ((lowercase (trim mode.toList)).map fun c => if c = '_' then '-' else c) := by
    refine (h.of_infix (infix_trim _)).harmless_lowercase.map fun c hc => ?_
    split
    · decide
    · rename_i hother
      rw [if_neg hother] at hc
      exact absurd rfl hc
  have hmix : Harmless "mix-blend".toList := by decide
  simp only [blendToken?] at ht
  split at ht
  · cases ht
  · cases ht
    have hsplit (name : Text) : "mix-blend-".toList ++ name = "mix-blend".toList ++ '-' :: name := rfl
    rw [hsplit, Harmless.append_cons_iff (by decide)]
    exact ⟨hmix, hname⟩

theorem harmless_styleToken {t : Text} (h : StyleToken Harmless t) : Harmless t := by
  have hplain : ∀ t ∈ plainTokens, Harmless t := by decide
  have hcorners : ∀ name ∈ cornerNames, Harmless name.toList := by decide
  have hnames : ∀ name ∈ payloadNames, Harmless name.toList := by decide
  cases h with
  | plain h => exact hplain _ h
  | corner h r => exact harmless_radiusToken (hcorners _ h) r
  | filled hname h => exact harmless_bracketed (hnames _ hname) (harmless_payload h)

end Style

end ResponsiveMarkup
