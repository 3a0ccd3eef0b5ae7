import ResponsiveMarkup.Text.Basic

/-!
Finding one text inside another: a stretch in front, the first occurrence, and replacement of every
occurrence from left to right.
-/

namespace ResponsiveMarkup.Text

/-- What follows `p` in a text that begins with it. -/
def stripStart? : Text → Text → Option Text
  | [], s => some s
  | _ :: _, [] => none
  | a :: p, c :: s => if a = c then stripStart? p s else none

/-- What stands before and after the first occurrence of `needle`. -/
def breakOn (needle : Text) : Text → Option (Text × Text)
  | [] => (stripStart? needle []).map ([], ·)
  | c :: s =>
    match stripStart? needle (c :: s) with
    | some rest => some ([], rest)
    | none => (breakOn needle s).map fun (before, after) => (c :: before, after)

def hasInside (needle s : Text) : Bool := (breakOn needle s).isSome

/-- Every occurrence of the non-empty `needle` gives way to `other`; what is put in is not searched again. -/
def replaceAll (needle other : Text) (s : Text) : Text :=
  go 0 s
where
  /-- The first argument counts the characters of a found needle still to be passed over. -/
  go : Nat → Text → Text
    | _, [] => []
    | k + 1, _ :: s => go k s
    | 0, c :: s =>
      if (stripStart? needle (c :: s)).isSome then other ++ go (needle.length - 1) s else c :: go 0 s

theorem stripStart?_eq_some {p s rest : Text} : stripStart? p s = some rest ↔ s = p ++ rest := by
  induction p generalizing s with
  | nil => simp [stripStart?]
  | cons a p ih =>
    cases s with
    | nil => simp [stripStart?]
    | cons c s =>
      by_cases h : a = c
      · simp [stripStart?, h, ih]
      · simp [stripStart?, h, Ne.symm h]

theorem eq_of_breakOn {needle s before after : Text} (h : breakOn needle s = some (before, after)) :
    s = before ++ needle ++ after := by
  induction s generalizing before with
  | nil =>
    simp only [breakOn, Option.map_eq_some_iff] at h
    obtain ⟨r, hr, he⟩ := h
    cases he
    simpa using stripStart?_eq_some.1 hr
  | cons c s ih =>
    simp only [breakOn] at h
    split at h
    · rename_i rest hr
      cases h
      simpa using stripStart?_eq_some.1 hr
    · simp only [Option.map_eq_some_iff] at h
      obtain ⟨⟨b, a⟩, hb, he⟩ := h
      cases he
      simp [ih hb]

end ResponsiveMarkup.Text
