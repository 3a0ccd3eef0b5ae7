import ResponsiveMarkup.Text.Basic
import ResponsiveMarkup.Text.CaseTable

/-!
Lower case by the Unicode mapping. Two letters depend on more than themselves: the dotted capital I becomes
two characters, and a capital sigma takes its final form at the end of a word.
-/

namespace ResponsiveMarkup.Text

private def inRanges (ranges : List (Nat × Nat)) (c : Char) : Bool :=
  ranges.any fun r => r.1 ≤ c.toNat && c.toNat ≤ r.2

/-- The lower-case form of a character on its own. -/
def lowerChar (c : Char) : Char :=
  if c.toNat < 0x80 then c.toLower
  else
    match lowerRuns.find? fun r => r.first ≤ c.toNat && c.toNat ≤ r.last &&
        (c.toNat - r.first) % r.step == 0 with
    | some r => Char.ofNat (c.toNat + r.shift).toNat
    | none => c

/-- Whether the first character that is not passed over is cased. -/
def opensCased (s : Text) : Bool :=
  match s.dropWhile (inRanges caseIgnorableRanges) with
  | [] => false
  | c :: _ => inRanges casedRanges c

/-- A sigma ends a word when a cased letter comes before it and none after it. -/
private def lowerFrom (before : Text) : Text → Text
  | [] => []
  | c :: s =>
    let low :=
      if c = 'Σ' then [if opensCased before && !opensCased s then 'ς' else 'σ']
      else if c = 'İ' then ['i', '\u0307']
      else [lowerChar c]
    low ++ lowerFrom (c :: before) s

def lowercase (s : Text) : Text := lowerFrom [] s

/-- A sigma in its usual form, also where it ends a word. -/
def usualSigma (c : Char) : Char := if c = 'ς' then 'σ' else c

theorem lowercase_singleton (c : Char) : lowercase [c] =
    if c = 'Σ' then ['σ'] else if c = 'İ' then ['i', '\u0307'] else [lowerChar c] := by
  rw [lowercase, lowerFrom, lowerFrom, List.append_nil]
  rfl

/-- But for the form of its sigmas a text is lowered one character after another. -/
theorem map_usualSigma_lowercase (s : Text) :
    (lowercase s).map usualSigma = s.flatMap fun c => (lowercase [c]).map usualSigma := by
  have hfrom : ∀ before, (lowerFrom before s).map usualSigma =
      s.flatMap fun c => (lowercase [c]).map usualSigma := by
    induction s with
    | nil => exact fun _ => rfl
    | cons c s ih =>
      intro before
      rw [lowerFrom, List.map_append, ih, List.flatMap_cons, lowercase_singleton]
      congr 1
      by_cases hsigma : c = 'Σ'
      · rw [if_pos hsigma, if_pos hsigma]
        split <;> rfl
      · rw [if_neg hsigma, if_neg hsigma]
  exact hfrom []

end ResponsiveMarkup.Text
