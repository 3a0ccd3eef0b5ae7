import Mathlib.Data.List.Chain
import ResponsiveMarkup.Proofs.Markup.Orderly

/-!
Tags with some of their parts left out. A part sees no more of what stands behind it than how that begins, so only the
part directly in front of what is left out can tell. It cannot if it ends in a quote, but a slash that comes to stand
in front of `>` closes the element, and a value without quotes takes a slash in.
-/

namespace ResponsiveMarkup

open Text Scanner

/-- The part ends where it does when `s` comes to stand behind it. -/
def TagPart.StopsAt : TagPart → Text → Prop
  | slash _, s => s.head? ≠ some '>'
  | nameless _ _ (.bare body), s => body ≠ [] ∧ ∀ c ∈ s.head?, endsBare c = true
  | part, _ => part.EndsInQuote

/-- Parts after some have been left out. Each of the others has the same part behind it or stops at what it has behind
it now; `e` is the rest of the tag. -/
inductive Omitted (e : Text) : List TagPart → List TagPart → Prop where
  | nil : Omitted e [] []
  | keep {parts parts' : List TagPart} (part : TagPart)
      (stops : parts'.head? = parts.head? ∨ part.StopsAt (parts'.flatMap TagPart.source ++ e)) :
      Omitted e parts parts' → Omitted e (part :: parts) (part :: parts')
  | drop {parts parts' : List TagPart} (part : TagPart) : Omitted e parts parts' → Omitted e (part :: parts) parts'

namespace TagPart

variable {part : TagPart} {s s' : Text}

theorem EndsInQuote.stopsAt (h : part.EndsInQuote) (s : Text) : part.StopsAt s := by
  cases part with
  | slash lead => cases h
  | nameless lead indent value =>
    obtain ⟨q, v, rfl⟩ := h
    exact ⟨q, v, rfl⟩
  | named lead name assigned => exact h

theorem StopsAt.congr (h : part.StopsAt s) (k : s.head? = s'.head?) : part.StopsAt s' := by
  cases part with
  | slash lead =>
    rw [StopsAt, k] at h
    exact h
  | nameless lead indent value =>
    cases value with
    | quoted q v closed => exact h
    | bare body =>
      rw [StopsAt, k] at h
      exact h
    | missing => exact h
  | named lead name assigned => exact h

theorem StopsAt.fits (h : part.StopsAt s) {f : Text} (hfits : part.Fits f) : part.Fits s := by
  cases part with
  | slash lead => exact ⟨hfits.1, h⟩
  | nameless lead indent value =>
    cases value with
    | quoted q v closed =>
      have hquote : (nameless lead indent (.quoted q v closed)).EndsInQuote := h
      exact hquote.fits hfits s
    | bare body =>
      obtain ⟨hlead, hindent, hbody, -, c, hc, hfilled⟩ := hfits
      obtain ⟨d, r, rfl⟩ := List.exists_cons_of_ne_nil h.1
      exact ⟨hlead, hindent, hbody, h.2, c, hc, hfilled⟩
    | missing =>
      obtain ⟨q, v, hvalue⟩ := h
      cases hvalue
  | named lead name assigned =>
    have hquote : (named lead name assigned).EndsInQuote := h
    exact hquote.fits hfits s

theorem Fits.filled {f : Text} (h : part.Fits f) : ∃ c ∈ part.source, isSyntaxBlank c = false := by
  cases part with
  | slash lead => exact ⟨'/', by simp [source], by decide⟩
  | nameless lead indent value => exact ⟨'=', by simp [source], by decide⟩
  | named lead name assigned =>
    have hname : IsAttributeName name := by cases assigned <;> exact h.2.1
    obtain ⟨c, r, rfl⟩ := List.exists_cons_of_ne_nil hname.1
    have hc := hname.2 c List.mem_cons_self
    simp only [endsName, Bool.or_eq_false_iff] at hc
    exact ⟨c, by cases assigned <;> simp [source], hc.1.1.1⟩

end TagPart

theorem AlikeAhead.of_filled {s : Text} (h : ∃ c ∈ s, isSyntaxBlank c = false) (f f' : Text) :
    AlikeAhead (s ++ f) (s ++ f') := by
  induction s with
  | nil =>
    obtain ⟨c, hc, -⟩ := h
    cases hc
  | cons d s ih =>
    cases hd : isSyntaxBlank d with
    | false => exact .cons_same hd _ _
    | true =>
      obtain ⟨c, hc, hfilled⟩ := h
      have hrest : c ∈ s := by
        rcases List.mem_cons.mp hc with rfl | hc
        · rw [hd] at hfilled
          cases hfilled
        · exact hc
      exact (ih ⟨c, hrest, hfilled⟩).append_left [d]

namespace Omitted

variable {e f : Text} {part : TagPart} {parts parts' : List TagPart} {gone : TagPart → Bool}

theorem refl (e : Text) (parts : List TagPart) : Omitted e parts parts := by
  induction parts with
  | nil => exact .nil
  | cons part parts ih => exact .keep part (.inl rfl) ih

theorem sublist (k : Omitted e parts parts') : parts'.Sublist parts := by
  induction k with
  | nil => exact .slnil
  | keep part _ _ ih => exact ih.cons_cons part
  | drop part _ ih => exact ih.cons part

/-- What is left out may go if each part in front of such parts ends in a quote. -/
theorem filter (h : parts.IsChain fun part next => gone next = true → part.EndsInQuote) (e : Text) :
    Omitted e parts (parts.filter fun part => !gone part) := by
  induction parts with
  | nil => exact .nil
  | cons part parts ih =>
    by_cases hgone : gone part = true
    · rw [List.filter_cons_of_neg (by simp [hgone])]
      exact .drop part (ih h.tail)
    · rw [List.filter_cons_of_pos (by simpa using hgone)]
      refine .keep part ?_ (ih h.tail)
      cases parts with
      | nil => exact .inl rfl
      | cons next parts =>
        by_cases hnext : gone next = true
        · exact .inr ((List.IsChain.rel h hnext).stopsAt _)
        · rw [List.filter_cons_of_pos (by simpa using hnext)]
          exact .inl rfl

theorem eraseP (h : parts.IsChain fun part next => gone next = true → part.EndsInQuote) (e : Text) :
    Omitted e parts (parts.eraseP gone) := by
  induction parts with
  | nil => exact .nil
  | cons part parts ih =>
    by_cases hgone : gone part = true
    · rw [List.eraseP_cons_of_pos hgone]
      exact .drop part (refl e parts)
    · rw [List.eraseP_cons_of_neg hgone]
      refine .keep part ?_ (ih h.tail)
      cases parts with
      | nil => exact .inl rfl
      | cons next parts =>
        by_cases hnext : gone next = true
        · exact .inr ((List.IsChain.rel h hnext).stopsAt _)
        · rw [List.eraseP_cons_of_neg hnext]
          exact .inl rfl

/-- The part in front of what is left out is read back as before. -/
theorem fits_head (stops : parts'.head? = parts.head? ∨ part.StopsAt (parts'.flatMap TagPart.source ++ e))
    (he : e = [] → f = []) (hpart : part.Fits (parts.flatMap TagPart.source ++ (e ++ f)))
    (hparts : PartsFit parts (e ++ f)) : part.Fits (parts'.flatMap TagPart.source ++ (e ++ f)) := by
  rcases stops with hsame | hstops
  · cases parts with
    | nil =>
      rw [List.head?_eq_none_iff.mp hsame]
      exact hpart
    | cons next parts =>
      obtain ⟨r, rfl⟩ := List.head?_eq_some_iff.mp hsame
      rw [List.flatMap_cons, List.append_assoc] at hpart ⊢
      exact hpart.alike (.of_filled hparts.1.filled _ _)
  · refine (hstops.congr ?_).fits hpart
    rw [← List.append_assoc, List.head?_append (l := _ ++ e)]
    cases hrest : parts'.flatMap TagPart.source ++ e with
    | nil => rw [he (List.append_eq_nil_iff.mp hrest).2]; rfl
    | cons c r => rfl

theorem partsFit (k : Omitted e parts parts') (he : e = [] → f = []) (hfits : PartsFit parts (e ++ f)) :
    PartsFit parts' (e ++ f) := by
  induction k with
  | nil => trivial
  | keep part stops _ ih => exact ⟨fits_head stops he hfits.1 hfits.2, ih hfits.2⟩
  | drop part _ ih => exact ih hfits.2

end Omitted

theorem Orderly.closed {parts : List TagPart} (h : Orderly parts) {gone : TagPart → Bool}
    (hgone : ∀ part, gone part = true → part.content? ≠ none) :
    parts.IsChain fun part next => gone next = true → part.EndsInQuote :=
  (h.strays_behind.imp fun hpart hnext => hpart.resolve_right (hgone _ hnext)).isChain

/-- A tag is read back with another name and without the parts that are left out. -/
theorem TagText.Fits.omitted {t : TagText} {f : Text} (h : t.Fits f) (hspaced : ∀ part ∈ t.parts, part.Spaced)
    {parts : List TagPart} (k : Omitted (t.lead ++ t.stop.source) t.parts parts) {name : Text}
    (hname : IsTagName name) : ({ t with name := name, parts := parts } : TagText).Fits f := by
  have hend : t.lead ++ t.stop.source = [] → f = [] := by
    intro hnil
    refine h.stop ?_
    cases hstop : t.stop with
    | close => simp [hstop, TagStop.source] at hnil
    | selfClose => simp [hstop, TagStop.source] at hnil
    | cutOff => rfl
  have hfits := h.parts
  rw [← List.append_assoc] at hfits
  have hparts := k.partsFit hend hfits
  rw [List.append_assoc] at hparts
  have hleft : ∀ part ∈ parts, part.Spaced := fun part hpart => hspaced part (k.sublist.mem hpart)
  exact ⟨hname, endsTagName_of_spaced hleft hparts h.lead h.stop, hparts, h.lead, h.stop⟩

end ResponsiveMarkup
