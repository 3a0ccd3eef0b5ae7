import ResponsiveMarkup.Proofs.Style.Tokens
import ResponsiveMarkup.Proofs.Text.Stretches

/-!
Tokens of one word. All tokens of the grammar are, as payloads keep no blanks; a blend mode is only trimmed and
lowered, so its token is one word just when the mode is.
-/

namespace ResponsiveMarkup.Style

open Design Text

/-! ### Payloads -/

theorem isBlank_of_isNumberChar {c : Char} (h : IsNumberChar c) : isBlank c = false := by
  rcases h with h | rfl | rfl
  · have hdigit := Char.isDigit_iff_toNat.mp h
    have hapart : ∀ b ∈ blankRanges, b.2 < '0'.toNat ∨ '9'.toNat < b.1 := by decide
    rw [isBlank_eq_false_iff]
    intro b hb
    exact (hapart b hb).symm.imp (Nat.lt_of_le_of_lt hdigit.2) fun hbehind => Nat.lt_of_lt_of_le hbehind hdigit.1
  · decide
  · decide

theorem unbroken_number (x : Float) : Unbroken (number x) :=
  fun c hc => isBlank_of_isNumberChar (isNumberChar_number x c hc)

theorem unbroken_px (x : Float) : Unbroken (px x) := by
  have hunit : Unbroken "px".toList := by decide
  exact (unbroken_number x).append hunit

theorem unbroken_gradientStops? {stops : List GradientStop} {g : Text} (h : gradientStops? stops = some g) :
    Unbroken g := by
  have hmarks : Unbroken ['_'] ∧ Unbroken ['%'] := by decide
  rw [gradientStops?] at h
  split at h
  · cases h
  · cases h
    refine unbroken_joinWith (by decide) fun t ht => ?_
    obtain ⟨s, -, rfl⟩ := List.mem_map.mp ht
    exact (((unbroken_arbitrary _).append hmarks.1).append (unbroken_number _)).append hmarks.2

theorem unbroken_payload {Taken : Text → Prop} {p : Text} (h : Payload Taken p) : Unbroken p := by
  have hclosing : Unbroken [')'] := by decide
  cases h with
  | number x => exact unbroken_number x
  | length x => exact unbroken_px x
  | words h => exact unbroken_arbitrary _
  | quoted h =>
    have hquote : Unbroken ['\x27'] := by decide
    exact (hquote.append (unbroken_arbitrary _)).append hquote
  | address h =>
    have hopening : Unbroken "url(".toList := by decide
    exact (hopening.append (unbroken_arbitrary _)).append hclosing
  | linear angle h hg =>
    have hwords : Unbroken "linear-gradient(".toList ∧ Unbroken "deg,".toList := by decide
    exact (((hwords.1.append (unbroken_number angle)).append hwords.2).append (unbroken_gradientStops? hg)).append
      hclosing
  | radial h hg =>
    have hopening : Unbroken "radial-gradient(".toList := by decide
    exact (hopening.append (unbroken_gradientStops? hg)).append hclosing

/-! ### Tokens -/

theorem isWord_bracketed {name : String} {payload : Text} (hname : IsWord name.toList) (h : Unbroken payload) :
    IsWord (bracketed name payload) := by
  have hbrackets : Unbroken "-[".toList ∧ Unbroken [']'] := by decide
  exact ((hname.append hbrackets.1).append h).append hbrackets.2

theorem isWord_radiusToken {name : String} (hname : IsWord name.toList) (r : Float) : IsWord (radiusToken name r) := by
  have hfull : Unbroken "-full".toList := by decide
  have hhyphen : Unbroken ['-'] := by decide
  have hbands : ∀ band ∈ radiusBands, Unbroken band.2.toList := by decide
  rw [radiusToken]
  split
  · exact hname.append hfull
  · split
    · exact hname
    · rename_i greatest band hband
      exact hname.append (hhyphen.append (hbands _ (List.mem_of_find?_eq_some hband)))
    · exact isWord_bracketed hname (unbroken_px r)

theorem isWord_styleToken {Taken : Text → Prop} {t : Text} (h : StyleToken Taken t) : IsWord t := by
  have hplain : ∀ t ∈ plainTokens, IsWord t := by decide
  have hcorners : ∀ name ∈ cornerNames, IsWord name.toList := by decide
  have hnames : ∀ name ∈ payloadNames, IsWord name.toList := by decide
  cases h with
  | plain h => exact hplain _ h
  | corner h r => exact isWord_radiusToken (hcorners _ h) r
  | filled hname h => exact isWord_bracketed (hnames _ hname) (unbroken_payload h)

/-- No condition on the texts that tokens take over. -/
def AnyText (_ : Text) : Prop := True

theorem anyText (s : Text) : AnyText s := trivial

theorem isWord_boxTokens (l : Layer) (f : Frame) : ∀ t ∈ boxTokens l f, IsWord t :=
  fun t ht => isWord_styleToken (styleToken_boxTokens AnyText l f t ht)

theorem isWord_frameTokens (f : Frame) : ∀ t ∈ frameTokens f, IsWord t :=
  fun t ht => isWord_styleToken (styleToken_frameTokens AnyText f t ht)

theorem isWord_textTokens (content : TextContent) : ∀ t ∈ textTokens content, IsWord t :=
  fun t ht => isWord_styleToken (styleToken_textTokens (fun c _ => anyText c.toList) (fun f _ => anyText f.toList) t ht)

theorem decorationTokens_cases {l : Layer} {t : Text} (ht : t ∈ decorationTokens l) :
    IsWord t ∨ ∃ mode ∈ l.blendMode, blendToken? mode = some t :=
  (styleToken_decorationTokens (fun s _ => anyText s.toList) t ht).imp_left isWord_styleToken

/-! ### Blend modes -/

/-- The blend mode, if there is one, has no blank but at its ends. -/
def OneWordMode (l : Layer) : Prop := ∀ mode ∈ l.blendMode, Unbroken (trim mode.toList)

/-- The name of a mode has the blanks that the mode has. -/
theorem unbroken_modeName_iff {s : Text} :
    Unbroken ((lowercase s).map fun c => if c = '_' then '-' else c) ↔ Unbroken s := by
  have hhyphen : ∀ c, isBlank (if c = '_' then '-' else c) = isBlank c := by
    intro c
    split
    · rename_i hunderscore
      rw [hunderscore]
      decide
    · rfl
  rw [← unbroken_lowercase_iff (s := s), Unbroken, List.forall_mem_map, Unbroken]
  exact forall₂_congr fun c _ => by rw [hhyphen]

theorem isWord_blendToken?_iff {mode : String} {t : Text} (h : blendToken? mode = some t) :
    IsWord t ↔ Unbroken (trim mode.toList) := by
  simp only [blendToken?] at h
  split at h
  · cases h
  · cases h
    have hmix : IsWord "mix-blend-".toList := by decide
    rw [← unbroken_modeName_iff]
    constructor
    · intro hword c hc
      exact hword.2 c (List.mem_append_right _ hc)
    · exact hmix.append

/-- The modes without a token are single words. -/
theorem unbroken_of_no_blendToken {mode : String} (h : blendToken? mode = none) : Unbroken (trim mode.toList) := by
  simp only [blendToken?] at h
  split at h
  · rename_i hname
    rw [← unbroken_modeName_iff]
    rcases hname with hname | hname | hname <;> rw [hname] <;> decide
  · cases h

theorem ne_nil_blendToken? {mode : String} {t : Text} (h : blendToken? mode = some t) : t ≠ [] := by
  simp only [blendToken?] at h
  split at h
  · cases h
  · cases h
    exact List.append_ne_nil_of_left_ne_nil (by decide) _

theorem ne_nil_decorationTokens {l : Layer} : ∀ t ∈ decorationTokens l, t ≠ [] := by
  intro t ht
  rcases decorationTokens_cases ht with h | ⟨mode, -, h⟩
  · exact h.1
  · exact ne_nil_blendToken? h

/-- The tokens of a decoration are words unless the blend mode is more than one. -/
theorem isWord_decorationTokens_iff {l : Layer} : (∀ t ∈ decorationTokens l, IsWord t) ↔ OneWordMode l := by
  constructor
  · intro h mode hmode
    cases hblend : blendToken? mode with
    | none => exact unbroken_of_no_blendToken hblend
    | some t =>
      have ht : t ∈ decorationTokens l := by
        rw [decorationTokens, Option.mem_def.mp hmode, Option.bind_some, hblend]
        exact List.mem_append_right _ List.mem_cons_self
      exact (isWord_blendToken?_iff hblend).mp (h t ht)
  · intro h t ht
    rcases decorationTokens_cases ht with ht | ⟨mode, hmode, ht⟩
    · exact ht
    · exact (isWord_blendToken?_iff ht).mpr (h mode hmode)

end ResponsiveMarkup.Style
