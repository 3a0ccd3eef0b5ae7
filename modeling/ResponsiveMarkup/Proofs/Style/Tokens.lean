import Mathlib.Data.List.Basic
import ResponsiveMarkup.Proofs.Text.Words
import ResponsiveMarkup.Style.Box
import ResponsiveMarkup.Style.Typeface

/-!
The grammar of style tokens. Whatever a layer says, each of its tokens is one of a few plain ones, one for rounded
corners, or a name with a payload in brackets; only a blend mode makes a token of its own. What holds of all tokens
follows from the few ways they are built.
-/

namespace ResponsiveMarkup

open Text

namespace Design

def Fill.texts : Fill → List String
  | .solid color _ => [color]
  | .image src => src.toList
  | .linearGradient _ stops => stops.map (·.color)
  | .radialGradient stops => stops.map (·.color)
  | .none => []
  | .unsupported => []

/-- The colours, addresses, fonts and blend modes of a layer. -/
def Layer.styleTexts (l : Layer) : List String :=
  l.fills.flatMap Fill.texts ++ (l.stroke.bind (·.color)).toList ++ l.blendMode.toList ++
    (l.text.bind (·.color)).toList ++ (l.text.bind (·.fontFamily)).toList ++ (l.image.bind (·.src)).toList

end Design

namespace Style

open Design

/-- The tokens that say all by themselves. -/
def plainTokens : List Text :=
  ["absolute", "relative", "overflow-hidden", "bg-cover", "bg-center", "shadow-md", "text-left", "text-center",
   "text-right", "text-justify", "italic", "underline", "line-through", "uppercase"].map String.toList

/-- The names of tokens with a payload. -/
def payloadNames : List String :=
  ["left", "top", "w", "h", "bg", "border", "opacity", "text", "font", "leading", "tracking"]

/-- The names of tokens for all corners at once and for single ones. -/
def cornerNames : List String := ["rounded", "rounded-tl", "rounded-tr", "rounded-br", "rounded-bl"]

/-- What stands between the brackets of a token. The texts that it takes over from the design are all `Taken`. -/
inductive Payload (Taken : Text → Prop) : Text → Prop where
  | number (x : Float) : Payload Taken (Style.number x)
  | length (x : Float) : Payload Taken (px x)
  | words {s : Text} (h : Taken s) : Payload Taken (arbitrary s)
  | quoted {s : Text} (h : Taken s) : Payload Taken ('\x27' :: arbitrary s ++ ['\x27'])
  | address {s : Text} (h : Taken s) : Payload Taken ("url(".toList ++ arbitrary s ++ [')'])
  | linear (angle : Float) {stops : List GradientStop} {g : Text} (h : ∀ s ∈ stops, Taken s.color.toList)
      (hg : gradientStops? stops = some g) :
      Payload Taken ("linear-gradient(".toList ++ Style.number angle ++ "deg,".toList ++ g ++ [')'])
  | radial {stops : List GradientStop} {g : Text} (h : ∀ s ∈ stops, Taken s.color.toList)
      (hg : gradientStops? stops = some g) : Payload Taken ("radial-gradient(".toList ++ g ++ [')'])

/-- A token of a style, but for those of blend modes. -/
inductive StyleToken (Taken : Text → Prop) : Text → Prop where
  | plain {t : Text} (h : t ∈ plainTokens) : StyleToken Taken t
  | corner {name : String} (h : name ∈ cornerNames) (r : Float) : StyleToken Taken (radiusToken name r)
  | filled {name : String} {payload : Text} (hname : name ∈ payloadNames) (h : Payload Taken payload) :
      StyleToken Taken (bracketed name payload)

/-! ### Numbers -/

/-- A digit, the point or the minus sign. -/
def IsNumberChar (c : Char) : Prop := c.isDigit = true ∨ c = '.' ∨ c = '-'

theorem isNumberChar_zero : IsNumberChar '0' := Or.inl rfl

theorem isNumberChar_toDigits {n : Nat} {c : Char} (h : c ∈ Nat.toDigits 10 n) : IsNumberChar c :=
  Or.inl (Nat.isDigit_of_mem_toDigits (by decide) (by decide) h)

theorem isNumberChar_thousandths {n : Nat} {c : Char} (h : c ∈ thousandths n) : IsNumberChar c := by
  rw [thousandths] at h
  rcases List.mem_append.mp h with h | h
  · exact isNumberChar_toDigits h
  · split at h
    · cases h
    · rcases List.mem_cons.mp h with rfl | h
      · exact Or.inr (Or.inl rfl)
      · have hplaces := (List.dropWhile_sublist _).subset (List.mem_reverse.mp h)
        rcases List.mem_append.mp (List.mem_reverse.mp hplaces) with h | h
        · rw [List.eq_of_mem_replicate h]
          exact isNumberChar_zero
        · exact isNumberChar_toDigits h

theorem isNumberChar_signed {negative : Bool} {s : Text} (hs : ∀ c ∈ s, IsNumberChar c) :
    ∀ c ∈ signed negative s, IsNumberChar c := by
  rw [signed]
  split
  · exact List.forall_mem_cons.mpr ⟨Or.inr (Or.inr rfl), hs⟩
  · exact hs

/-- Whatever the double. -/
theorem isNumberChar_number (x : Float) : ∀ c ∈ number x, IsNumberChar c := by
  have hzero : ∀ c ∈ ['0'], IsNumberChar c := List.forall_mem_singleton.mpr isNumberChar_zero
  cases hx : Binary64.ofFloat x with
  | nan => simpa only [number, hx] using hzero
  | infinite negative => simpa only [number, hx] using hzero
  | finite negative m q =>
    simp only [number, hx]
    split
    · exact isNumberChar_signed fun c hc => isNumberChar_toDigits hc
    · split
      · exact isNumberChar_signed fun c hc => isNumberChar_thousandths hc
      · exact hzero

/-! ### Payloads from texts -/

variable {Taken : Text → Prop}

/-- What is left of a text between brackets has no blanks. -/
theorem unbroken_arbitrary (s : Text) : Unbroken (arbitrary s) :=
  unbroken_joinWith (by decide) fun _ hw => (isWord_of_mem_words hw).1.2

theorem arbitrary_arbitrary (s : Text) : arbitrary (arbitrary s) = arbitrary s := by
  by_cases hnil : arbitrary s = []
  · rw [hnil]
    rfl
  · have hword : IsWord (arbitrary s) := ⟨hnil, unbroken_arbitrary s⟩
    rw [arbitrary, hword.words_eq]
    rfl

theorem eq_arbitrary_of_payload {s : String} {p : Text} (h : payload? s = some p) : p = arbitrary s.toList := by
  rw [payload?] at h
  split at h
  · cases h
  · cases h
    rfl

theorem styleToken_payload {s : Option String} (h : ∀ c ∈ s, Taken c.toList) {name : String}
    (hname : name ∈ payloadNames) : ∀ t ∈ ((s.bind payload?).map (bracketed name)).toList, StyleToken Taken t := by
  intro t ht
  obtain ⟨p, hp, rfl⟩ := Option.map_eq_some_iff.mp (Option.mem_toList.mp ht)
  obtain ⟨c, hc, hp⟩ := Option.bind_eq_some_iff.mp hp
  rw [eq_arbitrary_of_payload hp]
  exact .filled hname (.words (h c hc))

/-! ### Boxes -/

theorem styleToken_boxTokens (Taken : Text → Prop) (l : Layer) (f : Frame) :
    ∀ t ∈ boxTokens l f, StyleToken Taken t := by
  simp only [boxTokens, List.forall_mem_cons]
  exact ⟨.plain (by decide), .filled (by decide) (.length _), .filled (by decide) (.length _),
    .filled (by decide) (.length _), .filled (by decide) (.length _), List.forall_mem_nil _⟩

theorem styleToken_frameTokens (Taken : Text → Prop) (f : Frame) : ∀ t ∈ frameTokens f, StyleToken Taken t := by
  simp only [frameTokens, List.forall_mem_cons]
  exact ⟨.plain (by decide), .filled (by decide) (.length _), .filled (by decide) (.length _), .plain (by decide),
    List.forall_mem_nil _⟩

/-! ### Decoration -/

theorem styleToken_pictureTokens {src : Text} (h : Taken src) : ∀ t ∈ pictureTokens src, StyleToken Taken t := by
  simp only [pictureTokens, List.forall_mem_cons]
  exact ⟨.filled (by decide) (.address h), .plain (by decide), .plain (by decide), List.forall_mem_nil _⟩

theorem styleToken_fillTokens? {f : Fill} (h : ∀ s ∈ f.texts, Taken s.toList) :
    ∀ ts ∈ fillTokens? f, ∀ t ∈ ts, StyleToken Taken t := by
  intro ts hts
  cases f with
  | solid color opacity =>
    obtain ⟨p, hp, rfl⟩ := Option.map_eq_some_iff.mp hts
    rw [eq_arbitrary_of_payload hp]
    exact List.forall_mem_singleton.mpr (.filled (by decide) (.words (h color List.mem_cons_self)))
  | image src =>
    obtain ⟨p, hp, rfl⟩ := Option.map_eq_some_iff.mp hts
    obtain ⟨s, rfl, hp⟩ := Option.bind_eq_some_iff.mp hp
    -- The address is a payload already, and making it one again changes nothing.
    have hpicture : pictureTokens p = pictureTokens s.toList := by
      rw [eq_arbitrary_of_payload hp, pictureTokens, arbitrary_arbitrary, pictureTokens]
    rw [hpicture]
    exact styleToken_pictureTokens (h s List.mem_cons_self)
  | linearGradient angle stops =>
    obtain ⟨g, hg, rfl⟩ := Option.map_eq_some_iff.mp hts
    have hstops : ∀ s ∈ stops, Taken s.color.toList := fun s hs => h s.color (List.mem_map_of_mem hs)
    exact List.forall_mem_singleton.mpr (.filled (by decide) (.linear angle hstops hg))
  | radialGradient stops =>
    obtain ⟨g, hg, rfl⟩ := Option.map_eq_some_iff.mp hts
    have hstops : ∀ s ∈ stops, Taken s.color.toList := fun s hs => h s.color (List.mem_map_of_mem hs)
    exact List.forall_mem_singleton.mpr (.filled (by decide) (.radial hstops hg))
  | none => cases hts
  | unsupported => cases hts

theorem styleToken_radiusTokens (Taken : Text → Prop) (r : Radius) : ∀ t ∈ radiusTokens r, StyleToken Taken t := by
  intro t ht
  simp only [radiusTokens] at ht
  split at ht
  · split at ht
    · rw [List.mem_singleton.mp ht]
      exact .corner (by decide) _
    · cases ht
  · obtain ⟨⟨name, v⟩, hcorner, rfl⟩ := List.mem_map.mp ht
    have hname := (List.of_mem_zip (List.mem_of_mem_filter hcorner)).1
    exact .corner (List.mem_cons_of_mem _ hname) v

theorem styleToken_strokeTokens {s : Stroke} (h : ∀ c ∈ s.color, Taken c.toList) :
    ∀ t ∈ strokeTokens s, StyleToken Taken t := by
  intro t ht
  rw [strokeTokens] at ht
  split at ht
  · rcases List.mem_cons.mp ht with rfl | ht
    · exact .filled (by decide) (.length _)
    · exact styleToken_payload h (by decide) t ht
  · cases ht

theorem styleToken_opacityTokens (Taken : Text → Prop) (x : Float) : ∀ t ∈ opacityTokens x, StyleToken Taken t := by
  intro t ht
  rw [opacityTokens] at ht
  split at ht
  · rw [List.mem_singleton.mp ht]
    exact .filled (by decide) (.number _)
  · cases ht

theorem mem_of_mem_getD {α : Type} {o : Option (List α)} {a : α} (h : a ∈ o.getD []) : ∃ as ∈ o, a ∈ as := by
  cases o with
  | none => cases h
  | some as => exact ⟨as, rfl, h⟩

/-- Each token of a decoration is one of the grammar or made of the blend mode. -/
theorem styleToken_decorationTokens {l : Layer} (h : ∀ s ∈ l.styleTexts, Taken s.toList) :
    ∀ t ∈ decorationTokens l, StyleToken Taken t ∨ ∃ mode ∈ l.blendMode, blendToken? mode = some t := by
  simp only [Layer.styleTexts, List.forall_mem_append, List.mem_flatMap, Option.mem_toList] at h
  obtain ⟨⟨⟨⟨⟨hfills, hstroke⟩, -⟩, -⟩, -⟩, -⟩ := h
  intro t ht
  simp only [decorationTokens, List.mem_append] at ht
  rcases ht with ((((ht | ht) | ht) | ht) | ht) | ht
  · obtain ⟨ts, hfirst, ht⟩ := mem_of_mem_getD ht
    obtain ⟨f, hf, hts⟩ := List.exists_of_findSome?_eq_some hfirst
    exact Or.inl (styleToken_fillTokens? (fun s hs => hfills s ⟨f, hf, hs⟩) ts hts t ht)
  · obtain ⟨ts, hradius, ht⟩ := mem_of_mem_getD ht
    obtain ⟨r, -, rfl⟩ := Option.map_eq_some_iff.mp hradius
    exact Or.inl (styleToken_radiusTokens Taken r t ht)
  · split at ht
    · cases ht
    · rw [List.mem_singleton.mp ht]
      exact Or.inl (.plain (by decide))
  · obtain ⟨ts, hts, ht⟩ := mem_of_mem_getD ht
    obtain ⟨s, hs, rfl⟩ := Option.map_eq_some_iff.mp hts
    rw [hs] at hstroke
    exact Or.inl (styleToken_strokeTokens hstroke t ht)
  · exact Or.inl (styleToken_opacityTokens Taken _ t ht)
  · exact Or.inr (Option.bind_eq_some_iff.mp (Option.mem_toList.mp ht))

/-! ### Text -/

theorem styleToken_measureTokens {x : Option Float} {test : Float → Bool} {name : String} {write : Float → Text}
    (hname : name ∈ payloadNames) (hwrite : ∀ v, Payload Taken (write v)) :
    ∀ t ∈ measureTokens x test (bracketed name ∘ write), StyleToken Taken t := by
  intro t ht
  obtain ⟨v, -, rfl⟩ := Option.map_eq_some_iff.mp (Option.mem_toList.mp ht)
  exact .filled hname (hwrite v)

theorem styleToken_textTokens {content : TextContent} (hcolor : ∀ c ∈ content.color, Taken c.toList)
    (hfont : ∀ f ∈ content.fontFamily, Taken f.toList) : ∀ t ∈ textTokens content, StyleToken Taken t := by
  have halign : ∀ a, alignToken a ∈ plainTokens := by
    intro a
    cases a <;> decide
  have hlines : ∀ d, ∀ t ∈ lineTokens d, t ∈ plainTokens := by
    intro d
    cases d <;> decide
  simp only [textTokens, List.forall_mem_append]
  refine ⟨⟨⟨⟨⟨⟨⟨⟨⟨?_, ?_⟩, ?_⟩, ?_⟩, ?_⟩, ?_⟩, ?_⟩, ?_⟩, fun t ht => .plain (hlines _ t ht)⟩, ?_⟩
  · exact List.forall_mem_singleton.mpr (.plain (halign _))
  · exact styleToken_measureTokens (by decide) .length
  · exact styleToken_measureTokens (by decide) .number
  · exact styleToken_measureTokens (by decide) .length
  · exact styleToken_measureTokens (by decide) .length
  · exact styleToken_payload hcolor (by decide)
  · intro t ht
    obtain ⟨p, hp, rfl⟩ := Option.map_eq_some_iff.mp (Option.mem_toList.mp ht)
    obtain ⟨f, hf, hp⟩ := Option.bind_eq_some_iff.mp hp
    rw [eq_arbitrary_of_payload hp]
    exact .filled (by decide) (.quoted (hfont f hf))
  · split
    · exact List.forall_mem_singleton.mpr (.plain (by decide))
    · exact List.forall_mem_nil _
  · split
    · exact List.forall_mem_singleton.mpr (.plain (by decide))
    · exact List.forall_mem_nil _

end Style

end ResponsiveMarkup
