import Mathlib.Data.List.Basic
import ResponsiveMarkup.Proofs.Merge.ClassUnion

/-!
Which value a utility has at a width. Scopes hold from a width on and the widest that applies wins. After merging,
the tablet's value is in force at tablet width; the desktop's value is in force at desktop width unless the base has
it too, for then it is not taken over, and the tablet's value goes on.
-/

namespace ResponsiveMarkup.Merge

open Text

/-- A token that gives a utility a value. -/
def styleToken (utility value : Text) : Text := utility ++ ("-[".toList ++ (value ++ [']']))

/-- The value that a token gives a utility. -/
def payload? (utility token : Text) : Option Text :=
  (stripStart? (utility ++ "-[".toList) token).bind fun rest =>
    if rest.getLast? = some ']' then some rest.dropLast else none

theorem payload?_eq_some_iff {utility token value : Text} :
    payload? utility token = some value ↔ token = styleToken utility value := by
  constructor
  · intro h
    obtain ⟨rest, hrest, h⟩ := Option.bind_eq_some_iff.mp h
    split at h
    · rename_i hlast
      cases h
      have hne : rest ≠ [] := by
        rintro rfl
        cases hlast
      rw [List.getLast?_eq_some_getLast hne, Option.some.injEq] at hlast
      have hwhole := List.dropLast_append_getLast hne
      rw [hlast] at hwhole
      rw [stripStart?_eq_some.mp hrest, styleToken, hwhole, List.append_assoc]
    · cases h
  · rintro rfl
    have hstrip : stripStart? (utility ++ "-[".toList) (styleToken utility value) = some (value ++ [']']) :=
      stripStart?_eq_some.mpr (by simp [styleToken])
    rw [payload?, hstrip, Option.bind_some, if_pos (List.getLast?_concat ..), List.dropLast_concat]

/-- The values that tokens give a utility under the scope of a viewport. -/
def valuesFor (v : Viewport) (utility : Text) (tokens : List Text) : List Text :=
  tokens.filterMap (payload? (v.scope?.getD [] ++ utility))

/-- The first list that holds anything. -/
def firstFilled : List (List Text) → List Text
  | [] => []
  | l :: ls => if l.isEmpty then firstFilled ls else l

/-- The values in force at a width: those under the widest scope that applies and gives the utility any. -/
def inForce (width : Nat) (utility : Text) (tokens : List Text) : List Text :=
  firstFilled ((Viewport.all.reverse.filter (·.minWidth ≤ width)).map (valuesFor · utility tokens))

theorem mem_valuesFor {v : Viewport} {utility value : Text} {tokens : List Text} :
    value ∈ valuesFor v utility tokens ↔ v.scope?.getD [] ++ styleToken utility value ∈ tokens := by
  have hscoped : styleToken (v.scope?.getD [] ++ utility) value =
      v.scope?.getD [] ++ styleToken utility value := List.append_assoc ..
  rw [valuesFor, List.mem_filterMap, ← hscoped]
  constructor
  · rintro ⟨t, ht, hvalue⟩
    rw [← payload?_eq_some_iff.mp hvalue]
    exact ht
  · intro h
    exact ⟨_, h, payload?_eq_some_iff.mpr rfl⟩

/-- What a wider scope gives hides what follows; a scope that gives nothing hides nothing. -/
theorem mem_firstFilled_cons {value : Text} {l : List Text} {ls : List (List Text)} :
    value ∈ firstFilled (l :: ls) ↔ value ∈ l ∨ (∀ w, w ∉ l) ∧ value ∈ firstFilled ls := by
  rw [firstFilled]
  cases l with
  | nil => simp
  | cons w ws =>
    have hfilled : ¬ ∀ u, u ∉ w :: ws := fun h => h w List.mem_cons_self
    rw [List.isEmpty_cons, if_neg (by simp)]
    constructor
    · exact Or.inl
    · rintro (h | ⟨h, -⟩)
      · exact h
      · exact absurd h hfilled

/-! ### Scoped tokens -/

theorem isScoped_append {scope token : Text} (hscope : scope ∈ knownScopes) (htoken : token ≠ []) :
    isScoped (scope ++ token) = true := by
  rw [isScoped, scopeOf?, List.find?_isSome]
  refine ⟨scope, hscope, ?_⟩
  have hstrip : stripStart? scope (scope ++ token) = some token := stripStart?_eq_some.mpr rfl
  simpa [hstrip] using htoken

theorem styleToken_ne_nil (utility value : Text) : styleToken utility value ≠ [] := by
  simp [styleToken]

/-- A scope in front of a style token belongs to its utility, so that all values of the utility have it. -/
theorem isScoped_styleToken {scope token utility value : Text} (hscope : scope ∈ knownScopes) (hdash : '-' ∉ scope)
    (h : styleToken utility value = scope ++ token) (other : Text) : isScoped (styleToken utility other) = true := by
  have hutility : ∃ rest, utility = scope ++ rest := by
    rcases List.append_eq_append_iff.mp h with ⟨rest, hsplit, htail⟩ | ⟨rest, hsplit, -⟩
    · cases rest with
      | nil => exact ⟨[], by simpa using hsplit.symm⟩
      | cons c rest =>
        have hc : c = '-' := by simpa using (congrArg List.head? htail).symm
        rw [hsplit, hc] at hdash
        simp at hdash
    · exact ⟨rest, hsplit⟩
  obtain ⟨rest, rfl⟩ := hutility
  rw [styleToken, List.append_assoc]
  exact isScoped_append hscope (styleToken_ne_nil rest other)

/-- Of tokens without a scope all are taken over but those the element has itself. -/
theorem mem_takenOver {own ts : List Text} (hts : ∀ t ∈ ts, isScoped t = false) {scope token : Text} :
    token ∈ takenOver own scope ts ↔ ∃ t ∈ ts, t ∉ own ∧ token = scope ++ t := by
  induction ts with
  | nil => simp [takenOver]
  | cons s ts ih =>
    have hrest := ih fun t ht => hts t (List.mem_cons_of_mem s ht)
    rw [takenOver, hts s List.mem_cons_self, if_neg (by simp)]
    by_cases hs : s ∈ own
    · simp [hs, hrest]
    · simp [hs, hrest]

/-- The tokens of an element together with those taken over under two scopes, where nothing had a scope before. -/
structure Union (own ts us : List Text) (scope other : Text) (merged : List Text) : Prop where
  mem : ∀ token, token ∈ merged ↔
    token ∈ own ∨ token ∈ takenOver own scope ts ∨ token ∈ takenOver own other us
  own_plain : ∀ t ∈ own, isScoped t = false
  ts_plain : ∀ t ∈ ts, isScoped t = false
  us_plain : ∀ t ∈ us, isScoped t = false
  scope_known : scope ∈ knownScopes ∧ '-' ∉ scope
  other_known : other ∈ knownScopes ∧ '-' ∉ other
  same_length : scope.length = other.length
  apart : scope ≠ other

namespace Union

variable {own ts us merged : List Text} {scope other : Text}

theorem swap (h : Union own ts us scope other merged) : Union own us ts other scope merged where
  mem token := by rw [h.mem, or_comm (a := token ∈ takenOver own scope ts)]
  own_plain := h.own_plain
  ts_plain := h.us_plain
  us_plain := h.ts_plain
  scope_known := h.other_known
  other_known := h.scope_known
  same_length := h.same_length.symm
  apart := h.apart.symm

theorem scoped_mem (h : Union own ts us scope other merged) {token : Text} (htoken : token ≠ []) :
    scope ++ token ∈ merged ↔ token ∈ ts ∧ token ∉ own := by
  rw [h.mem]
  constructor
  · rintro (hown | hts | hus)
    · have hplain := h.own_plain _ hown
      rw [isScoped_append h.scope_known.1 htoken] at hplain
      cases hplain
    · obtain ⟨t, ht, hnot, heq⟩ := (mem_takenOver h.ts_plain).mp hts
      obtain rfl := List.append_cancel_left heq
      exact ⟨ht, hnot⟩
    · obtain ⟨t, -, -, heq⟩ := (mem_takenOver h.us_plain).mp hus
      exact absurd (List.append_inj_left heq h.same_length) h.apart
  · rintro ⟨hts, hnot⟩
    exact Or.inr (Or.inl ((mem_takenOver h.ts_plain).mpr ⟨token, hts, hnot, rfl⟩))

/-- No scope makes a style token of a utility that the element has a token of without any. -/
theorem plain_mem (h : Union own ts us scope other merged) {utility own_value value : Text}
    (hown : styleToken utility own_value ∈ own) :
    styleToken utility value ∈ merged ↔ styleToken utility value ∈ own := by
  have hforeign {s : Text} {rs : List Text} (hs : s ∈ knownScopes ∧ '-' ∉ s) (hrs : ∀ r ∈ rs, isScoped r = false) :
      styleToken utility value ∉ takenOver own s rs := by
    rw [mem_takenOver hrs]
    rintro ⟨r, -, -, heq⟩
    have hplain := h.own_plain _ hown
    rw [isScoped_styleToken hs.1 hs.2 heq own_value] at hplain
    cases hplain
  rw [h.mem]
  constructor
  · rintro (hmem | hts | hus)
    · exact hmem
    · exact absurd hts (hforeign h.scope_known h.ts_plain)
    · exact absurd hus (hforeign h.other_known h.us_plain)
  · exact Or.inl

end Union

/-! ### The merged tokens at each width -/

/-- The element that belongs to an element of the base in the overlay of a viewport. -/
def partnerIn? (base : Text) (overlays : List Overlay) (v : Viewport) (e : Element) : Option Element :=
  (overlayFor? overlays v).bind fun o => partner? (elements base) (elements o.markup) e

theorem brought_eq {base : Text} {overlays : List Overlay} {v : Viewport} {e other : Element}
    (h : partnerIn? base overlays v e = some other) (scope : Text) :
    brought base overlays v scope e = takenOver e.tokens scope other.tokens := by
  rw [partnerIn?] at h
  rw [brought, h]

theorem union_mergedFor {base : Text} {overlays : List Overlay} {e tablet desktop : Element}
    (hdistinct : (overlays.map (·.viewport)).Nodup)
    (htablet : partnerIn? base overlays .tablet e = some tablet)
    (hdesktop : partnerIn? base overlays .desktop e = some desktop)
    (hplain : ∀ t ∈ e.tokens ++ tablet.tokens ++ desktop.tokens, isScoped t = false) :
    Union e.tokens tablet.tokens desktop.tokens "md:".toList "lg:".toList (mergedFor base overlays e) where
  mem token := by
    rw [mergedFor_eq_union hdistinct, union, mem_dedupe, brought_eq htablet, brought_eq hdesktop, List.mem_append,
      List.mem_append, or_assoc]
  own_plain t ht := hplain t (by simp [ht])
  ts_plain t ht := hplain t (by simp [ht])
  us_plain t ht := hplain t (by simp [ht])
  scope_known := by decide
  other_known := by decide
  same_length := rfl
  apart := by decide

/-- Of the tokens of the form `utility-[value]` there is one, up to repetition. -/
def HasValue (tokens : List Text) (utility value : Text) : Prop :=
  ∀ v, styleToken utility v ∈ tokens ↔ v = value

section

variable {own ts us merged : List Text} {utility b t d : Text}
  (h : Union own ts us "md:".toList "lg:".toList merged) (hb : HasValue own utility b)

include h hb

theorem mem_valuesFor_mobile (value : Text) : value ∈ valuesFor .mobile utility merged ↔ value = b := by
  have hscope : (Viewport.scope? .mobile).getD [] ++ styleToken utility value = styleToken utility value := rfl
  rw [mem_valuesFor, hscope, h.plain_mem ((hb b).mpr rfl), hb]

theorem mem_valuesFor_tablet (ht : HasValue ts utility t) (value : Text) :
    value ∈ valuesFor .tablet utility merged ↔ value = t ∧ value ≠ b := by
  have hscope : (Viewport.scope? .tablet).getD [] = "md:".toList := rfl
  rw [mem_valuesFor, hscope, h.scoped_mem (styleToken_ne_nil utility value), ht, hb]

theorem mem_valuesFor_desktop (hd : HasValue us utility d) (value : Text) :
    value ∈ valuesFor .desktop utility merged ↔ value = d ∧ value ≠ b := by
  have hscope : (Viewport.scope? .desktop).getD [] = "lg:".toList := rfl
  rw [mem_valuesFor, hscope, h.swap.scoped_mem (styleToken_ne_nil utility value), hd, hb]

theorem mem_inForce_tablet (ht : HasValue ts utility t) (value : Text) :
    value ∈ inForce Viewport.tablet.minWidth utility merged ↔ value = t := by
  have hscopes : inForce Viewport.tablet.minWidth utility merged =
      firstFilled [valuesFor .tablet utility merged, valuesFor .mobile utility merged] := rfl
  rw [hscopes, mem_firstFilled_cons, mem_firstFilled_cons, mem_valuesFor_mobile h hb]
  simp only [mem_valuesFor_tablet h hb ht, firstFilled, List.not_mem_nil, and_false, or_false]
  by_cases htb : t = b
  · subst htb
    simp
  · constructor
    · rintro (⟨hv, -⟩ | ⟨hnone, -⟩)
      · exact hv
      · exact absurd ⟨rfl, htb⟩ (hnone t)
    · rintro rfl
      exact Or.inl ⟨rfl, htb⟩

theorem mem_inForce_desktop (ht : HasValue ts utility t) (hd : HasValue us utility d) (value : Text) :
    value ∈ inForce Viewport.desktop.minWidth utility merged ↔ value = if d = b then t else d := by
  have hscopes : inForce Viewport.desktop.minWidth utility merged =
      firstFilled [valuesFor .desktop utility merged, valuesFor .tablet utility merged,
        valuesFor .mobile utility merged] := rfl
  have htabletscopes : inForce Viewport.tablet.minWidth utility merged =
      firstFilled [valuesFor .tablet utility merged, valuesFor .mobile utility merged] := rfl
  rw [hscopes, mem_firstFilled_cons, ← htabletscopes, mem_inForce_tablet h hb ht]
  simp only [mem_valuesFor_desktop h hb hd]
  by_cases hdb : d = b
  · subst hdb
    simp
  · rw [if_neg hdb]
    constructor
    · rintro (⟨hv, -⟩ | ⟨hnone, -⟩)
      · exact hv
      · exact absurd ⟨rfl, hdb⟩ (hnone d)
    · rintro rfl
      exact Or.inl ⟨rfl, hdb⟩

end

/-- In the merged tokens the tablet's value of a utility is in force at tablet width. So is the desktop's value at
desktop width, unless the base has the same: then the tablet's value is in force there too. -/
theorem merged_values_in_force (base : Text) (overlays : List Overlay) (e tablet desktop : Element)
    (utility b t d : Text) (hdistinct : (overlays.map (·.viewport)).Nodup)
    (htablet : partnerIn? base overlays .tablet e = some tablet)
    (hdesktop : partnerIn? base overlays .desktop e = some desktop)
    (hplain : ∀ t ∈ e.tokens ++ tablet.tokens ++ desktop.tokens, isScoped t = false)
    (hb : HasValue e.tokens utility b) (ht : HasValue tablet.tokens utility t)
    (hd : HasValue desktop.tokens utility d) :
    (∀ value, value ∈ inForce Viewport.tablet.minWidth utility (mergedFor base overlays e) ↔ value = t) ∧
    (∀ value, value ∈ inForce Viewport.desktop.minWidth utility (mergedFor base overlays e) ↔
      value = if d = b then t else d) := by
  have hunion := union_mergedFor hdistinct htablet hdesktop hplain
  exact ⟨mem_inForce_tablet hunion hb ht, mem_inForce_desktop hunion hb ht hd⟩

/-! ### Links of one width -/

theorem hasValue_singleton (utility value : Text) : HasValue [styleToken utility value] utility value := by
  intro v
  rw [List.mem_singleton]
  constructor
  · intro h
    have hpayload : payload? utility (styleToken utility v) = some v := payload?_eq_some_iff.mpr rfl
    rw [h, payload?_eq_some_iff.mpr rfl, Option.some.injEq] at hpayload
    exact hpayload.symm
  · rintro rfl
    rfl

def sizedLink (width : Text) : Text := link (styleToken ['w'] width)

def sized (width : Text) : Element :=
  ⟨0, some ['k'], none, ['a'], styleToken ['w'] width, Span.of 23 (styleToken ['w'] width)⟩

def sizedOverlays (tablet desktop : Text) : List Overlay :=
  [⟨.desktop, sizedLink desktop⟩, ⟨.tablet, sizedLink tablet⟩]

def widths : List Text := ["1px", "2px", "3px"].map String.toList

theorem elements_sizedLink : ∀ w ∈ widths, elements (sizedLink w) = [sized w] ∧
    (sized w).tokens = [styleToken ['w'] w] ∧ isScoped (styleToken ['w'] w) = false := by
  intro w hw
  rw [sizedLink, elements_link]
  simp only [widths, List.map_cons, List.map_nil, List.mem_cons, List.not_mem_nil, or_false] at hw
  rcases hw with rfl | rfl | rfl <;> exact ⟨rfl, rfl, rfl⟩

theorem partners_sized {b t d : Text} (ht : t ∈ widths) (hd : d ∈ widths) :
    partnerIn? (sizedLink b) (sizedOverlays t d) .tablet (sized b) = some (sized t) ∧
      partnerIn? (sizedLink b) (sizedOverlays t d) .desktop (sized b) = some (sized d) := by
  have hfilled (w : Text) : isBlankText (sizedLink w) = false := rfl
  have htablet : overlayFor? (sizedOverlays t d) .tablet = some ⟨.tablet, sizedLink t⟩ := by
    simp [overlayFor?, sizedOverlays, hfilled]
  have hdesktop : overlayFor? (sizedOverlays t d) .desktop = some ⟨.desktop, sizedLink d⟩ := by
    simp [overlayFor?, sizedOverlays, hfilled]
  rw [partnerIn?, partnerIn?, htablet, hdesktop, Option.bind_some, Option.bind_some,
    (elements_sizedLink t ht).1, (elements_sizedLink d hd).1]
  exact ⟨rfl, rfl⟩

theorem plain_sized {b t d : Text} (hb : b ∈ widths) (ht : t ∈ widths) (hd : d ∈ widths) :
    ∀ s ∈ (sized b).tokens ++ (sized t).tokens ++ (sized d).tokens, isScoped s = false := by
  intro s hs
  rw [(elements_sizedLink b hb).2.1, (elements_sizedLink t ht).2.1, (elements_sizedLink d hd).2.1] at hs
  simp only [List.mem_append, List.mem_singleton] at hs
  rcases hs with (rfl | rfl) | rfl
  · exact (elements_sizedLink b hb).2.2
  · exact (elements_sizedLink t ht).2.2
  · exact (elements_sizedLink d hd).2.2

theorem hasValue_sized {w : Text} (hw : w ∈ widths) : HasValue (sized w).tokens ['w'] w := by
  rw [(elements_sizedLink w hw).2.1]
  exact hasValue_singleton ['w'] w

/-- Three widths, each in force from its viewport on. -/
theorem merged_values_in_force_of_link :
    (∀ value, value ∈ inForce Viewport.tablet.minWidth ['w'] (mergedFor (sizedLink "1px".toList)
      (sizedOverlays "2px".toList "3px".toList) (sized "1px".toList)) ↔ value = "2px".toList) ∧
    (∀ value, value ∈ inForce Viewport.desktop.minWidth ['w'] (mergedFor (sizedLink "1px".toList)
      (sizedOverlays "2px".toList "3px".toList) (sized "1px".toList)) ↔ value = "3px".toList) := by
  have hone : "1px".toList ∈ widths := by decide
  have htwo : "2px".toList ∈ widths := by decide
  have hthree : "3px".toList ∈ widths := by decide
  obtain ⟨htablet, hdesktop⟩ := partners_sized (b := "1px".toList) htwo hthree
  exact merged_values_in_force _ _ _ _ _ _ _ _ _ (by decide) htablet hdesktop (plain_sized hone htwo hthree)
    (hasValue_sized hone) (hasValue_sized htwo) (hasValue_sized hthree)

/-- A desktop as wide as the base and a tablet of another width: at desktop width the tablet's is in force. -/
theorem desktop_value_lost :
    ¬ ∀ (base : Text) (overlays : List Overlay) (e tablet desktop : Element) (utility b t d : Text),
      (overlays.map (·.viewport)).Nodup → e ∈ elements base →
      partnerIn? base overlays .tablet e = some tablet → partnerIn? base overlays .desktop e = some desktop →
      (∀ s ∈ e.tokens ++ tablet.tokens ++ desktop.tokens, isScoped s = false) →
      HasValue e.tokens utility b → HasValue tablet.tokens utility t → HasValue desktop.tokens utility d →
      ∀ value, value ∈ inForce Viewport.desktop.minWidth utility (mergedFor base overlays e) ↔ value = d := by
  intro h
  have hone : "1px".toList ∈ widths := by decide
  have htwo : "2px".toList ∈ widths := by decide
  obtain ⟨htablet, hdesktop⟩ := partners_sized (b := "1px".toList) htwo hone
  have hmem : sized "1px".toList ∈ elements (sizedLink "1px".toList) := by
    rw [(elements_sizedLink _ hone).1]
    exact List.mem_singleton_self _
  have hplain := plain_sized hone htwo hone
  have hdistinct : ((sizedOverlays "2px".toList "1px".toList).map (·.viewport)).Nodup := by decide
  have hclaimed := h _ _ _ _ _ _ _ _ _ hdistinct hmem htablet hdesktop hplain (hasValue_sized hone)
    (hasValue_sized htwo) (hasValue_sized hone) "2px".toList
  have hactual := mem_inForce_desktop (union_mergedFor hdistinct htablet hdesktop hplain) (hasValue_sized hone)
    (hasValue_sized htwo) (hasValue_sized hone) "2px".toList
  rw [if_pos rfl] at hactual
  exact absurd (hclaimed.mp (hactual.mpr rfl)) (by decide)

end ResponsiveMarkup.Merge
