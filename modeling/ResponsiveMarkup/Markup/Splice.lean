import ResponsiveMarkup.Markup.Token

/-!
Replacing byte ranges of a text. Splices apply from the end of the text to its beginning, so that the offsets
of those still to come stay right; one that reaches into an applied one is left out.
-/

namespace ResponsiveMarkup

structure Splice where
  range : Span
  replacement : Text
  deriving DecidableEq, Repr

namespace Splice

open Text

def remove (range : Span) : Splice := ⟨range, []⟩

/-- Whether `a` is applied before `b` when they differ in their ranges: later ranges first. -/
def before (a b : Splice) : Bool :=
  b.range.start < a.range.start || b.range.start == a.range.start && b.range.stop ≤ a.range.stop

/-- Put a splice in front of the first one that it does not yield to. -/
def insert (s : Splice) : List Splice → List Splice
  | [] => [s]
  | t :: ts => if before s t then s :: t :: ts else t :: insert s ts

/-- In the order of application; equal ranges keep the order they are given in. -/
def arrange (splices : List Splice) : List Splice := splices.foldr insert []

/-- The splices that apply, `floor` being the start of the one applied last: those in the text, the right way
round, and not beyond the floor. -/
def kept (length : Nat) : Option Nat → List Splice → List Splice
  | _, [] => []
  | floor, s :: ss =>
    if floor.any (· < s.range.stop) || s.range.stop < s.range.start || length < s.range.stop then
      kept length floor ss
    else s :: kept length (some s.range.start) ss

/-- The text with one range replaced, unless an end of the range is inside a character. -/
def replace? (s : Splice) (src : Text) : Option Text := do
  let (before, _) ← cutAt? s.range.start src
  let (_, after) ← cutAt? s.range.stop src
  return before ++ s.replacement ++ after

end Splice

/-- The text after all splices that apply; none if one of them begins or ends inside a character. -/
def applySplices (src : Text) (splices : List Splice) : Option Text :=
  (Splice.kept (Text.byteLength src) none (Splice.arrange splices)).foldlM (fun s t => t.replace? s) src

/-- The text with its splices applied, or as it is when they do not fit between its characters. -/
def spliced (src : Text) (splices : List Splice) : Text := (applySplices src splices).getD src

end ResponsiveMarkup
