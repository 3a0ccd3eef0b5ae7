import Mathlib.Data.List.Pairwise
import ResponsiveMarkup.Proofs.Markup.Replacement

/-!
Which splices apply, and in what sense at once. The order of application runs from the end of the text to its
beginning, but what comes out is said from left to right: the ranges of the applied splices lie apart from each other
and each gives way to its replacement. Only a splice that fits nowhere, or that would change what an earlier one has
changed, is left out.
-/

namespace ResponsiveMarkup

open Text

namespace Span

/-- The inside of each range reaches into the other. Ranges that touch do not overlap, nor does an empty range at an
edge of another one. -/
def Overlaps (a b : Span) : Prop := a.start < b.stop ∧ b.start < a.stop

instance (a b : Span) : Decidable (a.Overlaps b) := inferInstanceAs (Decidable (_ ∧ _))

theorem Overlaps.symm {a b : Span} (h : a.Overlaps b) : b.Overlaps a := And.symm h

/-- The right way round, and in a text of this length. -/
def FitsIn (r : Span) (length : Nat) : Prop := r.start ≤ r.stop ∧ r.stop ≤ length

instance (r : Span) (length : Nat) : Decidable (r.FitsIn length) := inferInstanceAs (Decidable (_ ∧ _))

end Span

namespace Splice

variable {length : Nat} {floor : Option Nat} {splices others : List Splice} {s a b d : Splice}

/-! ### The order of application -/

theorem before_iff : before a b = true ↔
    b.range.start < a.range.start ∨ b.range.start = a.range.start ∧ b.range.stop ≤ a.range.stop := by
  simp only [before, Bool.or_eq_true, Bool.and_eq_true, decide_eq_true_eq, beq_iff_eq]

theorem before_trans (hab : before a b = true) (hbd : before b d = true) : before a d = true := by
  rw [before_iff] at *
  omega

theorem before_of_not (h : before a b = false) : before b a = true := by
  rw [← Bool.not_eq_true, before_iff] at h
  rw [before_iff]
  omega

theorem range_eq_of_before (hab : before a b = true) (hba : before b a = true) : a.range = b.range := by
  rw [before_iff] at hab hba
  have hstart : a.range.start = b.range.start := by omega
  have hstop : a.range.stop = b.range.stop := by omega
  cases ha : a.range
  cases hb : b.range
  simp_all

theorem insert_perm (s : Splice) (splices : List Splice) : (insert s splices).Perm (s :: splices) := by
  induction splices with
  | nil => exact .refl _
  | cons t ts ih =>
    rw [insert]
    split
    · exact .refl _
    · exact (ih.cons t).trans (.swap s t ts)

theorem arrange_perm (splices : List Splice) : (arrange splices).Perm splices := by
  induction splices with
  | nil => exact .refl _
  | cons s ss ih => exact (insert_perm s (arrange ss)).trans (ih.cons s)

theorem insert_sorted (h : splices.Pairwise fun a b => before a b = true) :
    (insert s splices).Pairwise fun a b => before a b = true := by
  induction splices with
  | nil => exact List.pairwise_singleton _ s
  | cons t ts ih =>
    obtain ⟨ht, hts⟩ := List.pairwise_cons.mp h
    rw [insert]
    split
    · rename_i hst
      refine List.pairwise_cons.mpr ⟨fun u hu => ?_, h⟩
      rcases List.mem_cons.mp hu with rfl | hu
      · exact hst
      · exact before_trans hst (ht u hu)
    · rename_i hst
      refine List.pairwise_cons.mpr ⟨fun u hu => ?_, ih hts⟩
      rcases List.mem_cons.mp ((insert_perm s ts).mem_iff.mp hu) with rfl | hu
      · exact before_of_not (by simpa using hst)
      · exact ht u hu

theorem arrange_sorted (splices : List Splice) : (arrange splices).Pairwise fun a b => before a b = true := by
  induction splices with
  | nil => exact .nil
  | cons s ss ih => exact insert_sorted ih

/-- Where no two splices have one range, the order they are given in does not count. -/
theorem arrange_congr (h : others.Perm splices) (hdistinct : splices.Pairwise fun a b => a.range ≠ b.range) :
    arrange others = arrange splices := by
  have hperm := (arrange_perm others).trans (h.trans (arrange_perm splices).symm)
  refine hperm.eq_of_pairwise (fun a b ha hb hab hba => ?_) (arrange_sorted others) (arrange_sorted splices)
  have : Std.Symm fun a b : Splice => a.range ≠ b.range := ⟨fun _ _ => Ne.symm⟩
  by_contra hne
  exact hdistinct.forall (h.mem_iff.mp ((arrange_perm others).mem_iff.mp ha))
    ((arrange_perm splices).mem_iff.mp hb) hne (range_eq_of_before hab hba)

/-! ### What is applied and what is left out -/

/-- The splices that do not apply, in the order in which they are passed over. -/
def leftOut (length : Nat) : Option Nat → List Splice → List Splice
  | _, [] => []
  | floor, s :: ss =>
    if floor.any (· < s.range.stop) || s.range.stop < s.range.start || length < s.range.stop then
      s :: leftOut length floor ss
    else leftOut length (some s.range.start) ss

/-- A splice is applied when it fits into the text and does not reach beyond the floor. -/
theorem applies_iff : (floor.any (· < s.range.stop) || s.range.stop < s.range.start || length < s.range.stop) = false ↔
    s.range.FitsIn length ∧ ∀ f ∈ floor, s.range.stop ≤ f := by
  cases floor <;> simp [Span.FitsIn]
  omega

theorem kept_append_leftOut (length : Nat) (floor : Option Nat) (splices : List Splice) :
    (kept length floor splices ++ leftOut length floor splices).Perm splices := by
  induction splices generalizing floor with
  | nil => exact .refl _
  | cons s ss ih =>
    rw [kept, leftOut]
    split
    · exact List.perm_middle.trans ((ih floor).cons s)
    · exact (ih (some s.range.start)).cons s

theorem fits_of_mem_kept (h : s ∈ kept length floor splices) :
    s.range.FitsIn length ∧ ∀ f ∈ floor, s.range.stop ≤ f := by
  induction splices generalizing floor with
  | nil => cases h
  | cons t ts ih =>
    rw [kept] at h
    split at h
    · exact ih h
    · rename_i happlies
      obtain ⟨hfits, hfloor⟩ := applies_iff.mp (by simpa using happlies)
      rcases List.mem_cons.mp h with rfl | h
      · exact ⟨hfits, hfloor⟩
      · obtain ⟨hfits', hbelow⟩ := ih h
        have := hbelow _ rfl
        exact ⟨hfits', fun f hf => by have := hfloor f hf; have := hfits.1; omega⟩

/-- Each applied range ends before the one applied in front of it begins. -/
theorem kept_descending (length : Nat) (floor : Option Nat) (splices : List Splice) :
    (kept length floor splices).Pairwise fun a b => b.range.stop ≤ a.range.start := by
  induction splices generalizing floor with
  | nil => exact .nil
  | cons s ss ih =>
    rw [kept]
    split
    · exact ih floor
    · exact List.pairwise_cons.mpr ⟨fun t ht => (fits_of_mem_kept ht).2 _ rfl, ih _⟩

/-- What is left out does not fit into the text, reaches beyond the floor at the beginning, or beyond the start of a
splice that was applied in front of it. -/
theorem cause_of_mem_leftOut (h : d ∈ leftOut length floor splices) :
    ¬ d.range.FitsIn length ∨ (∃ f ∈ floor, f < d.range.stop) ∨
      ∃ a ∈ kept length floor splices, [a, d].Sublist splices ∧ a.range.start < d.range.stop := by
  induction splices generalizing floor with
  | nil => cases h
  | cons s ss ih =>
    rw [leftOut] at h
    rw [kept]
    split at h
    · rename_i hout
      rw [if_pos hout]
      rcases List.mem_cons.mp h with rfl | h
      · by_cases hfits : d.range.FitsIn length
        · by_contra hnone
          have hfloor : ∀ f ∈ floor, d.range.stop ≤ f := fun f hf =>
            Nat.not_lt.mp fun hlt => hnone (.inr (.inl ⟨f, hf, hlt⟩))
          rw [applies_iff.mpr ⟨hfits, hfloor⟩] at hout
          cases hout
        · exact .inl hfits
      · rcases ih h with hfits | hfloor | ⟨a, ha, hsub, hlt⟩
        · exact .inl hfits
        · exact .inr (.inl hfloor)
        · exact .inr (.inr ⟨a, ha, hsub.cons s, hlt⟩)
    · rename_i happlies
      rw [if_neg happlies]
      have hd : d ∈ ss := (kept_append_leftOut length _ ss).mem_iff.mp (List.mem_append_right _ h)
      rcases ih h with hfits | ⟨f, hf, hlt⟩ | ⟨a, ha, hsub, hlt⟩
      · exact .inl hfits
      · cases hf
        exact .inr (.inr ⟨s, List.mem_cons_self, (List.singleton_sublist.mpr hd).cons_cons s, hlt⟩)
      · exact .inr (.inr ⟨a, List.mem_cons_of_mem s ha, hsub.cons s, hlt⟩)

/-- In the order of application, reaching beyond the start of an applied splice is overlapping it. -/
theorem overlaps_of_before (hbefore : before a d = true) (hfits : a.range.start ≤ a.range.stop)
    (hlt : a.range.start < d.range.stop) : a.range.Overlaps d.range := by
  rw [before_iff] at hbefore
  exact ⟨hlt, by omega⟩

end Splice

/-- Ranges between characters that follow each other can be replaced from left to right. -/
theorem Replaced.exists_of_ordered {src front s : Text} {splices : List Splice} (hsrc : src = front ++ s)
    (hcut : ∀ e ∈ splices, (e.range.slice? src).isSome) (hfront : ∀ e ∈ splices, byteLength front ≤ e.range.start)
    (horder : splices.Pairwise fun a b => a.range.stop ≤ b.range.start) :
    ∃ out, Replaced (byteLength front) s splices out := by
  induction splices generalizing front s with
  | nil => exact ⟨s, .nil _ s⟩
  | cons e es ih =>
    obtain ⟨hfirst, hrest⟩ := List.pairwise_cons.mp horder
    obtain ⟨old, hold⟩ := Option.isSome_iff_exists.mp (hcut e List.mem_cons_self)
    obtain ⟨before, after, hwhole, hrange⟩ := Span.slice?_eq_some_iff.mp hold
    have hstart : byteLength front ≤ byteLength before := by
      have := hfront e List.mem_cons_self
      rwa [hrange] at this
    obtain ⟨kept, rfl⟩ : ∃ kept, before = front ++ kept := by
      have heq : front ++ s = before ++ (old ++ after) := by rw [← hsrc, hwhole, List.append_assoc]
      rcases List.append_eq_append_iff.mp heq with ⟨kept, hkept, -⟩ | ⟨extra, hextra, -⟩
      · exact ⟨kept, hkept⟩
      · have hnone : extra = [] := by
          by_contra hne
          have := Text.byteLength_pos hne
          rw [hextra, byteLength_append] at hstart
          omega
        exact ⟨[], by rw [hextra, hnone, List.append_nil, List.append_nil]⟩
    have hs : s = kept ++ old ++ after := by
      have heq : front ++ s = front ++ (kept ++ old ++ after) := by
        rw [← hsrc, hwhole]
        simp only [List.append_assoc]
      exact List.append_cancel_left heq
    have hlen : byteLength (front ++ kept ++ old) = byteLength front + byteLength kept + byteLength old := by
      simp only [byteLength_append]
    obtain ⟨out, hout⟩ := ih hwhole
      (fun x hx => hcut x (List.mem_cons_of_mem e hx))
      (fun x hx => by
        have := hfirst x hx
        rw [hrange, Span.of] at this
        simpa only [byteLength_append] using this)
      hrest
    rw [hlen] at hout
    refine ⟨kept ++ e.replacement ++ out, ?_⟩
    have he : e = ⟨Span.of (byteLength front + byteLength kept) old, e.replacement⟩ := by
      rw [← byteLength_append, ← hrange]
    rw [hs, he]
    exact .cons e.replacement hout

/-- What applying splices comes to: which of them apply, why the others do not, and the text from left to right. -/
structure Simultaneous (src : Text) (splices applied dropped : List Splice) (out : Text) : Prop where
  result : applySplices src splices = some out
  order : applied = Splice.kept (byteLength src) none (Splice.arrange splices)
  parts : (applied ++ dropped).Perm splices
  fits : ∀ a ∈ applied, a.range.FitsIn (byteLength src)
  apart : applied.Pairwise fun a b => ¬ a.range.Overlaps b.range
  cause : ∀ d ∈ dropped, ¬ d.range.FitsIn (byteLength src) ∨
    ∃ a ∈ applied, Splice.before a d = true ∧ [a, d].Sublist (Splice.arrange splices) ∧ a.range.Overlaps d.range
  rebuilt : Replaced 0 src applied.reverse out

namespace Simultaneous

variable {src out : Text} {splices applied dropped others : List Splice}

theorem of_cut (hcut : ∀ s ∈ splices, s.range.FitsIn (byteLength src) → (s.range.slice? src).isSome) :
    ∃ applied dropped out, Simultaneous src splices applied dropped out := by
  let sorted := Splice.arrange splices
  let applied := Splice.kept (byteLength src) none sorted
  let dropped := Splice.leftOut (byteLength src) none sorted
  have hparts : (applied ++ dropped).Perm splices :=
    (Splice.kept_append_leftOut _ none sorted).trans (Splice.arrange_perm splices)
  have hfits : ∀ a ∈ applied, a.range.FitsIn (byteLength src) := fun a ha => (Splice.fits_of_mem_kept ha).1
  have hdescending : applied.Pairwise fun a b => b.range.stop ≤ a.range.start := Splice.kept_descending _ none sorted
  have hslices : ∀ a ∈ applied.reverse, (a.range.slice? src).isSome := fun a ha => by
    have ha := List.mem_reverse.mp ha
    exact hcut a (hparts.mem_iff.mp (List.mem_append_left _ ha)) (hfits a ha)
  have hwhole : src = [] ++ src := rfl
  obtain ⟨out, hout⟩ := Replaced.exists_of_ordered hwhole hslices (fun _ _ => Nat.zero_le _)
    (List.pairwise_reverse.mpr hdescending)
  refine ⟨applied, dropped, out, ?_, rfl, hparts, hfits, ?_, ?_, hout⟩
  · have := hout.foldlM_reverse [] rfl
    rwa [List.reverse_reverse] at this
  · refine hdescending.imp fun {a b} hle hover => ?_
    exact absurd hover.1 (Nat.not_lt.mpr hle)
  · intro d hd
    rcases Splice.cause_of_mem_leftOut hd with hnot | ⟨f, hf, -⟩ | ⟨a, ha, hsub, hlt⟩
    · exact .inl hnot
    · cases hf
    · have hbefore : Splice.before a d = true := by
        have := (Splice.arrange_sorted splices).sublist hsub
        exact (List.pairwise_cons.mp this).1 d List.mem_cons_self
      exact .inr ⟨a, ha, hbefore, hsub, Splice.overlaps_of_before hbefore (hfits a ha).1 hlt⟩

/-- Splices that lie in the text and apart from each other are all applied. -/
theorem dropped_eq_nil (h : Simultaneous src splices applied dropped out)
    (hfits : ∀ s ∈ splices, s.range.FitsIn (byteLength src))
    (hapart : splices.Pairwise fun a b => ¬ a.range.Overlaps b.range) : dropped = [] := by
  rw [List.eq_nil_iff_forall_not_mem]
  intro d hd
  have hmem : d ∈ splices := h.parts.mem_iff.mp (List.mem_append_right _ hd)
  rcases h.cause d hd with hnot | ⟨a, -, -, hsub, hover⟩
  · exact hnot (hfits d hmem)
  · have hsymm : ∀ {x y : Splice}, ¬ x.range.Overlaps y.range → ¬ y.range.Overlaps x.range :=
      fun hxy hyx => hxy hyx.symm
    have hpair := (((Splice.arrange_perm splices).pairwise_iff hsymm).mpr hapart).sublist hsub
    exact (List.pairwise_cons.mp hpair).1 d List.mem_cons_self hover

/-- Two splices apart from each other have one range only if it is empty. -/
theorem distinct (hfits : ∀ s ∈ splices, s.range.FitsIn (byteLength src))
    (hapart : splices.Pairwise fun a b => ¬ a.range.Overlaps b.range)
    (hempty : splices.Pairwise fun a b => a.range = b.range → a.range.start ≠ a.range.stop) :
    splices.Pairwise fun a b => a.range ≠ b.range := by
  refine (hapart.and hempty).imp_of_mem fun {a b} ha _ hab heq => hab.1 ?_
  have hle := (hfits a ha).1
  have hne := hab.2 heq
  rw [← heq]
  exact ⟨by omega, by omega⟩

end Simultaneous

/-- Splices are replaced all at once: those that apply lie apart, the others have no place beside them, and the order
they are given in counts only where it says which of two insertions at one place comes first. -/
theorem splices_simultaneous (src : Text) (splices : List Splice)
    (hcut : ∀ s ∈ splices, s.range.FitsIn (byteLength src) → (s.range.slice? src).isSome) :
    ∃ applied dropped out, Simultaneous src splices applied dropped out ∧
      ((∀ s ∈ splices, s.range.FitsIn (byteLength src)) →
        splices.Pairwise (fun a b => ¬ a.range.Overlaps b.range) →
        dropped = [] ∧
        (splices.Pairwise (fun a b => a.range = b.range → a.range.start ≠ a.range.stop) →
          ∀ others, others.Perm splices → applySplices src others = some out)) := by
  obtain ⟨applied, dropped, out, h⟩ := Simultaneous.of_cut hcut
  refine ⟨applied, dropped, out, h, fun hfits hapart => ⟨h.dropped_eq_nil hfits hapart, fun hempty others hperm => ?_⟩⟩
  rw [applySplices, Splice.arrange_congr hperm (Simultaneous.distinct hfits hapart hempty)]
  exact h.result

/-- Two insertions at one place, in the order they are given in. -/
example : applySplices "ab".toList [⟨⟨1, 1⟩, "1".toList⟩, ⟨⟨1, 1⟩, "2".toList⟩] = some "a21b".toList ∧
    applySplices "ab".toList [⟨⟨1, 1⟩, "2".toList⟩, ⟨⟨1, 1⟩, "1".toList⟩] = some "a12b".toList := by decide

def accentedMarkup : Text := "<p>né</p>".toList

/-- One of them reaches beyond the text, one is the wrong way round, and two overlap. -/
def tangledSplices : List Splice :=
  [⟨⟨3, 6⟩, "x".toList⟩, ⟨⟨4, 6⟩, "y".toList⟩, ⟨⟨6, 6⟩, "!".toList⟩, ⟨⟨3, 3⟩, "(".toList⟩, ⟨⟨5, 2⟩, "r".toList⟩,
    ⟨⟨8, 99⟩, "o".toList⟩]

/-- An insertion at either end of a replaced range. -/
def touchingSplices : List Splice := [⟨⟨6, 6⟩, "!".toList⟩, ⟨⟨3, 3⟩, "(".toList⟩, ⟨⟨3, 6⟩, "x".toList⟩]

theorem splices_simultaneous_accentedMarkup :
    (∀ s ∈ tangledSplices, s.range.FitsIn (byteLength accentedMarkup) → (s.range.slice? accentedMarkup).isSome) ∧
    (∃ applied dropped out, Simultaneous accentedMarkup tangledSplices applied dropped out) ∧
    (∀ s ∈ touchingSplices, s.range.FitsIn (byteLength accentedMarkup) → (s.range.slice? accentedMarkup).isSome) ∧
    (∀ s ∈ touchingSplices, s.range.FitsIn (byteLength accentedMarkup)) ∧
    touchingSplices.Pairwise (fun a b => ¬ a.range.Overlaps b.range) ∧
    touchingSplices.Pairwise (fun a b => a.range = b.range → a.range.start ≠ a.range.stop) ∧
    ∃ applied out, Simultaneous accentedMarkup touchingSplices applied [] out ∧
      ∀ others, others.Perm touchingSplices → applySplices accentedMarkup others = some out := by
  have htangled : ∀ s ∈ tangledSplices, s.range.FitsIn (byteLength accentedMarkup) →
      (s.range.slice? accentedMarkup).isSome := by decide
  have htouching : ∀ s ∈ touchingSplices, s.range.FitsIn (byteLength accentedMarkup) →
      (s.range.slice? accentedMarkup).isSome := by decide
  have hfits : ∀ s ∈ touchingSplices, s.range.FitsIn (byteLength accentedMarkup) := by decide
  have hapart : touchingSplices.Pairwise fun a b => ¬ a.range.Overlaps b.range := by decide
  have hempty : touchingSplices.Pairwise fun a b => a.range = b.range → a.range.start ≠ a.range.stop := by decide
  obtain ⟨applied, dropped, out, h, -⟩ := splices_simultaneous accentedMarkup tangledSplices htangled
  obtain ⟨applied', dropped', out', h', hall⟩ := splices_simultaneous accentedMarkup touchingSplices htouching
  obtain ⟨rfl, horder⟩ := hall hfits hapart
  exact ⟨htangled, ⟨applied, dropped, out, h⟩, htouching, hfits, hapart, hempty, applied', out', h', horder hempty⟩

end ResponsiveMarkup
