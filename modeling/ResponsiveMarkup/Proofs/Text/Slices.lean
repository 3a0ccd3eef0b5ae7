import ResponsiveMarkup.Markup.Token

/-!
The part of a text that a byte range cuts out. A range that begins or ends inside a character, beyond the
text or before its own start cuts out nothing, so a slice that exists is one between characters.
-/

namespace ResponsiveMarkup

open Text

theorem Text.cutAt?_eq_some_iff {n : Nat} {s a b : Text} :
    cutAt? n s = some (a, b) ↔ s = a ++ b ∧ n = byteLength a := by
  constructor
  · intro h
    induction s generalizing n a b with
    | nil =>
      cases n with
      | zero =>
        cases h
        exact ⟨rfl, rfl⟩
      | succ n => cases h
    | cons c s ih =>
      cases n with
      | zero =>
        cases h
        exact ⟨rfl, rfl⟩
      | succ n =>
        simp only [cutAt?] at h
        split at h
        · rename_i hc
          obtain ⟨⟨a', b'⟩, hcut, hab⟩ := Option.map_eq_some_iff.mp h
          obtain ⟨rfl, hn⟩ := ih hcut
          cases hab
          exact ⟨rfl, by simp only [byteLength]; omega⟩
        · cases h
  · rintro ⟨rfl, rfl⟩
    induction a with
    | nil => cases b <;> rfl
    | cons c a ih =>
      obtain ⟨k, hk⟩ : ∃ k, byteLength (c :: a) = k + 1 :=
        Nat.exists_eq_succ_of_ne_zero (by have := c.utf8Size_pos; simp only [byteLength]; omega)
      have hrest : k + 1 - c.utf8Size = byteLength a := by simp only [byteLength] at hk; omega
      have hfits : c.utf8Size ≤ k + 1 := by simp only [byteLength] at hk; omega
      simp only [List.cons_append, hk, cutAt?, hfits, if_true, hrest, ih, Option.map_some]

theorem Text.append_inj_of_byteLength {a b a' b' : Text} (h : a ++ b = a' ++ b')
    (hlen : byteLength a = byteLength a') : a = a' ∧ b = b' := by
  have hcut : cutAt? (byteLength a) (a ++ b) = some (a, b) := cutAt?_eq_some_iff.mpr ⟨rfl, rfl⟩
  have hcut' : cutAt? (byteLength a) (a ++ b) = some (a', b') := cutAt?_eq_some_iff.mpr ⟨h, hlen⟩
  rw [hcut, Option.some.injEq, Prod.mk.injEq] at hcut'
  exact hcut'

theorem Text.byteLength_pos {s : Text} (h : s ≠ []) : 0 < byteLength s := by
  cases s with
  | nil => exact absurd rfl h
  | cons c s =>
    have := c.utf8Size_pos
    simp only [byteLength]
    omega

namespace Span

/-- The part of a text at a range, if the range begins and ends between characters. -/
def slice? (r : Span) (src : Text) : Option Text := do
  let (upTo, _) ← cutAt? r.stop src
  let (_, part) ← cutAt? r.start upTo
  return part

theorem slice?_eq_some_iff {r : Span} {src part : Text} :
    r.slice? src = some part ↔
      ∃ before after, src = before ++ part ++ after ∧ r = Span.of (byteLength before) part := by
  constructor
  · intro h
    obtain ⟨⟨upTo, after⟩, hstop, h⟩ := Option.bind_eq_some_iff.mp h
    obtain ⟨⟨before, rest⟩, hstart, h⟩ := Option.bind_eq_some_iff.mp h
    cases h
    obtain ⟨rfl, hs⟩ := cutAt?_eq_some_iff.mp hstop
    obtain ⟨rfl, hb⟩ := cutAt?_eq_some_iff.mp hstart
    refine ⟨before, after, rfl, ?_⟩
    rw [byteLength_append] at hs
    show (⟨r.start, r.stop⟩ : Span) = ⟨_, _⟩
    rw [hb, hs]
  · rintro ⟨before, after, rfl, rfl⟩
    have hstop : cutAt? (byteLength before + byteLength part) (before ++ part ++ after) =
        some (before ++ part, after) :=
      cutAt?_eq_some_iff.mpr ⟨rfl, (byteLength_append before part).symm⟩
    have hstart : cutAt? (byteLength before) (before ++ part) = some (before, part) :=
      cutAt?_eq_some_iff.mpr ⟨rfl, rfl⟩
    simp only [slice?, Span.of, hstop, hstart, Option.bind_eq_bind, Option.bind_some]
    rfl

/-- One range lies in another. -/
structure Within (inner outer : Span) : Prop where
  start_le : outer.start ≤ inner.start
  ordered : inner.start ≤ inner.stop
  stop_le : inner.stop ≤ outer.stop

theorem of_within (start : Nat) (a b c : Text) :
    (Span.of (start + byteLength a) b).Within (Span.of start (a ++ b ++ c)) := by
  constructor <;> simp only [Span.of, byteLength_append] <;> omega

theorem Within.trans {a b c : Span} (h : a.Within b) (k : b.Within c) : a.Within c :=
  ⟨Nat.le_trans k.start_le h.start_le, h.ordered, Nat.le_trans h.stop_le k.stop_le⟩

end Span

/-- The text `part` stands in `src` from byte `start` on. -/
def StandsAt (src : Text) (start : Nat) (part : Text) : Prop := (Span.of start part).slice? src = some part

theorem standsAt_self (src : Text) : StandsAt src 0 src :=
  Span.slice?_eq_some_iff.mpr ⟨[], [], by simp, rfl⟩

/-- What stands inside of a text that stands in `src` does so itself. -/
theorem StandsAt.inner {src a b c : Text} {start : Nat} (h : StandsAt src start (a ++ b ++ c)) :
    StandsAt src (start + byteLength a) b := by
  obtain ⟨before, after, rfl, hr⟩ := Span.slice?_eq_some_iff.mp h
  have hs : start = byteLength before := congrArg Span.start hr
  refine Span.slice?_eq_some_iff.mpr ⟨before ++ a, c ++ after, by simp, ?_⟩
  rw [byteLength_append, hs]

theorem StandsAt.middle {src a b c : Text} {start n : Nat} (h : StandsAt src start (a ++ b ++ c))
    (hn : byteLength a = n) :
    (Span.of (start + n) b).Within (Span.of start (a ++ b ++ c)) ∧ StandsAt src (start + n) b := by
  subst hn
  exact ⟨Span.of_within start a b c, h.inner⟩

theorem StandsAt.left {src a b : Text} {start : Nat} (h : StandsAt src start (a ++ b)) :
    StandsAt src start a := by
  have := StandsAt.inner (a := []) (b := a) (c := b) (by simpa using h)
  simpa [byteLength] using this

theorem StandsAt.right {src a b : Text} {start : Nat} (h : StandsAt src start (a ++ b)) :
    StandsAt src (start + byteLength a) b :=
  StandsAt.inner (a := a) (b := b) (c := []) (by simpa using h)

end ResponsiveMarkup
