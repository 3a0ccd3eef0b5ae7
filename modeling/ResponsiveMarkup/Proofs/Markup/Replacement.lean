import Mathlib.Data.List.Basic
import ResponsiveMarkup.Markup.Splice
import ResponsiveMarkup.Proofs.Text.Slices

/-!
Splices as simultaneous replacement. What a list of splices ought to do is said from left to right, without
any order of application; splices whose ranges follow each other are all applied, and do just that.
-/

namespace ResponsiveMarkup

open Text

/-- `out` is the text `s`, which begins at byte `pos`, after the ranges of the splices, from left to right, have
given way to the replacements, with all between the ranges as it was. -/
inductive Replaced : Nat → Text → List Splice → Text → Prop where
  | nil (pos s) : Replaced pos s [] s
  | cons {pos kept old after splices out} (new : Text) :
      Replaced (pos + byteLength kept + byteLength old) after splices out →
      Replaced pos (kept ++ old ++ after) (⟨Span.of (pos + byteLength kept) old, new⟩ :: splices)
        (kept ++ new ++ out)

namespace Replaced

variable {pos : Nat} {s t out out' : Text} {splices others : List Splice}

theorem single {before old after : Text} {r : Span} (new : Text)
    (hr : r = Span.of (pos + byteLength before) old) :
    Replaced pos (before ++ old ++ after) [⟨r, new⟩] (before ++ new ++ after) := by
  subst hr
  exact .cons new (.nil _ after)

theorem whole (pos : Nat) (old new : Text) : Replaced pos old [⟨Span.of pos old, new⟩] new := by
  have h : Replaced pos ([] ++ old ++ []) [⟨Span.of pos old, new⟩] ([] ++ new ++ []) := single new rfl
  rwa [List.append_nil, List.append_nil] at h

theorem prepend (h : Replaced (pos + byteLength s) t splices out) : Replaced pos (s ++ t) splices (s ++ out) := by
  cases h with
  | nil => exact .nil pos (s ++ t)
  | @cons _ kept old after rest tail new hrest =>
    have hlen : pos + byteLength s + byteLength kept = pos + byteLength (s ++ kept) := by
      rw [byteLength_append, Nat.add_assoc]
    rw [hlen] at hrest ⊢
    have := Replaced.cons new hrest
    simpa only [List.append_assoc] using this

/-- Neighbouring texts are replaced each on its own. -/
theorem append (h : Replaced pos s splices out) (k : Replaced (pos + byteLength s) t others out') :
    Replaced pos (s ++ t) (splices ++ others) (out ++ out') := by
  induction h with
  | nil => exact k.prepend
  | @cons pos kept old after rest tail new _ ih =>
    have hlen : pos + byteLength (kept ++ old ++ after) =
        pos + byteLength kept + byteLength old + byteLength after := by
      simp only [byteLength_append]
      omega
    rw [hlen] at k
    have := Replaced.cons new (ih k)
    simpa only [List.append_assoc, List.cons_append] using this

/-- The splices determine what comes out. -/
theorem unique (h : Replaced pos s splices out) (k : Replaced pos s splices out') : out = out' := by
  induction h generalizing out' with
  | nil =>
    cases k
    rfl
  | @cons pos kept old after rest tail new _ ih =>
    generalize hs : kept ++ old ++ after = s at k
    generalize hsplices : (⟨Span.of (pos + byteLength kept) old, new⟩ : Splice) :: rest = splices at k
    cases k with
    | nil => cases hsplices
    | @cons _ kept' old' after' rest' tail' new' k =>
      simp only [List.cons.injEq, Splice.mk.injEq, Span.of, Span.mk.injEq] at hsplices
      obtain ⟨⟨⟨hstart, hstop⟩, rfl⟩, rfl⟩ := hsplices
      have hfront : byteLength (kept ++ old) = byteLength (kept' ++ old') := by
        simp only [byteLength_append]
        omega
      obtain ⟨hboth, rfl⟩ := append_inj_of_byteLength hs hfront
      obtain ⟨rfl, rfl⟩ := append_inj_of_byteLength hboth (by omega)
      rw [ih k]

theorem in_range (h : Replaced pos s splices out) : ∀ e ∈ splices,
    pos ≤ e.range.start ∧ e.range.start ≤ e.range.stop ∧ e.range.stop ≤ pos + byteLength s := by
  induction h with
  | nil => exact fun e he => nomatch he
  | cons new _ ih =>
    intro e he
    simp only [byteLength_append]
    rcases List.mem_cons.mp he with rfl | he
    · simp only [Span.of]
      omega
    · have := ih e he
      omega

theorem ordered (h : Replaced pos s splices out) :
    splices.Pairwise fun a b => a.range.stop ≤ b.range.start := by
  induction h with
  | nil => exact .nil
  | cons new hrest ih =>
    refine .cons (fun e he => ?_) ih
    have := hrest.in_range e he
    exact this.1

/-- Ranges that hold something are distinct, as they follow each other. -/
theorem distinct (h : Replaced pos s splices out) (hfilled : ∀ e ∈ splices, e.range.start < e.range.stop) :
    splices.Pairwise fun a b => a.range ≠ b.range := by
  refine h.ordered.imp_of_mem fun {a b} ha _ hle heq => ?_
  have := hfilled a ha
  rw [← heq] at hle
  omega

end Replaced

namespace Splice

theorem insert_last {s : Splice} {ts : List Splice} (h : ∀ t ∈ ts, before s t = false) :
    insert s ts = ts ++ [s] := by
  induction ts with
  | nil => rfl
  | cons t ts ih =>
    rw [insert, h t List.mem_cons_self, if_neg (by simp), ih fun u hu => h u (List.mem_cons_of_mem t hu)]
    rfl

theorem arrange_reverse {splices : List Splice} (h : splices.Pairwise fun a b => before a b = false) :
    arrange splices = splices.reverse := by
  induction h with
  | nil => rfl
  | @cons s ss hs _ ih =>
    rw [arrange, List.foldr_cons, ← arrange, ih, insert_last, List.reverse_cons]
    intro t ht
    exact hs t (List.mem_reverse.mp ht)

/-- Ranges that lie in the text and follow each other backwards are all kept. -/
theorem kept_eq_self {length : Nat} {floor : Option Nat} {splices : List Splice}
    (hrange : ∀ e ∈ splices, e.range.start ≤ e.range.stop ∧ e.range.stop ≤ length)
    (hfloor : ∀ e ∈ splices, ∀ n ∈ floor, e.range.stop ≤ n)
    (horder : splices.Pairwise fun a b => b.range.stop ≤ a.range.start) :
    kept length floor splices = splices := by
  induction splices generalizing floor with
  | nil => rfl
  | cons s ss ih =>
    obtain ⟨hs, hss⟩ := List.pairwise_cons.mp horder
    have hin := hrange s List.mem_cons_self
    have hbelow : floor.any (· < s.range.stop) = false := by
      cases floor with
      | none => rfl
      | some n => simpa using hfloor s List.mem_cons_self n rfl
    have hkeep : (floor.any (· < s.range.stop) || s.range.stop < s.range.start ||
        length < s.range.stop) = false := by
      simp only [hbelow, Bool.false_or, Bool.or_eq_false_iff, decide_eq_false_iff_not, Nat.not_lt]
      exact hin
    rw [kept, hkeep, if_neg (by simp), ih (fun e he => hrange e (List.mem_cons_of_mem s he)) ?_ hss]
    intro e he n hn
    cases hn
    exact hs e he

theorem replace?_of (before old after new : Text) :
    (⟨Span.of (byteLength before) old, new⟩ : Splice).replace? (before ++ old ++ after) =
      some (before ++ new ++ after) := by
  have hstart : cutAt? (byteLength before) (before ++ old ++ after) = some (before, old ++ after) :=
    cutAt?_eq_some_iff.mpr ⟨by simp, rfl⟩
  have hstop : cutAt? (byteLength before + byteLength old) (before ++ old ++ after) =
      some (before ++ old, after) :=
    cutAt?_eq_some_iff.mpr ⟨rfl, (byteLength_append before old).symm⟩
  simp only [replace?, Span.of, hstart, hstop, Option.bind_eq_bind, Option.bind_some]
  rfl

end Splice

/-- Applying the splices from the last to the first leaves what stands in front of them alone. -/
theorem Replaced.foldlM_reverse {pos : Nat} {s out : Text} {splices : List Splice}
    (h : Replaced pos s splices out) (front : Text) (hfront : byteLength front = pos) :
    splices.reverse.foldlM (fun s t => t.replace? s) (front ++ s) = some (front ++ out) := by
  induction h generalizing front with
  | nil => rfl
  | @cons pos kept old after rest tail new _ ih =>
    have hrest := ih (front ++ kept ++ old) (by simp only [byteLength_append]; omega)
    have hfirst := Splice.replace?_of (front ++ kept) old tail new
    rw [byteLength_append, hfront] at hfirst
    rw [List.reverse_cons, List.foldlM_append]
    have hwhole : front ++ (kept ++ old ++ after) = front ++ kept ++ old ++ after := by simp
    rw [hwhole, hrest]
    simp only [List.foldlM_cons, List.foldlM_nil, Option.bind_eq_bind, Option.bind_some, hfirst]
    simp

/-- Splices that replace ranges from left to right, no two of them the same range, are all applied, and
applying them is that replacement. -/
theorem applySplices_of_replaced {src out : Text} {splices : List Splice} (h : Replaced 0 src splices out)
    (hdistinct : splices.Pairwise fun a b => a.range ≠ b.range) :
    Splice.kept (byteLength src) none (Splice.arrange splices) = splices.reverse ∧
      applySplices src splices = some out := by
  have harrange : Splice.arrange splices = splices.reverse := by
    apply Splice.arrange_reverse
    refine (hdistinct.and h.ordered).imp_of_mem fun {a b} ha hb hab => ?_
    have hina := h.in_range a ha
    have hinb := h.in_range b hb
    obtain ⟨hne, hle⟩ := hab
    simp only [Splice.before, Bool.or_eq_false_iff, Bool.and_eq_false_iff, decide_eq_false_iff_not,
      beq_eq_false_iff_ne]
    refine ⟨by omega, ?_⟩
    by_cases hstart : a.range.start = b.range.start
    · right
      intro hstop
      apply hne
      cases ha' : a.range
      cases hb' : b.range
      simp only [ha', hb'] at *
      simp only [Span.mk.injEq]
      omega
    · exact Or.inl fun heq => hstart heq.symm
  have hkept : Splice.kept (byteLength src) none splices.reverse = splices.reverse := by
    apply Splice.kept_eq_self
    · intro e he
      have := h.in_range e (List.mem_reverse.mp he)
      omega
    · exact fun _ _ _ hn => nomatch hn
    · exact List.pairwise_reverse.mpr h.ordered
  refine ⟨by rw [harrange, hkept], ?_⟩
  rw [applySplices, harrange, hkept]
  exact h.foldlM_reverse [] rfl

end ResponsiveMarkup
