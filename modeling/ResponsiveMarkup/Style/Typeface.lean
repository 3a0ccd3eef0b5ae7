import ResponsiveMarkup.Style.Decoration

/-!
Tokens for how text is set.
-/

namespace ResponsiveMarkup.Style

open Design

def alignToken : TextAlign → Text
  | .left => "text-left".toList
  | .center => "text-center".toList
  | .right => "text-right".toList
  | .justify => "text-justify".toList

def lineTokens : TextDecoration → List Text
  | .underline => ["underline".toList]
  | .strikethrough => ["line-through".toList]
  | .none => []

/-- A measure is only written when it passes the test. -/
def measureTokens (x : Option Float) (test : Float → Bool) (write : Float → Text) : List Text :=
  ((x.filter test).map write).toList

def textTokens (t : TextContent) : List Text :=
  [alignToken t.align] ++
    measureTokens t.fontSize isPositive (bracketed "text" ∘ px) ++
    measureTokens t.fontWeight isPositive (bracketed "font" ∘ number) ++
    measureTokens t.lineHeight isPositive (bracketed "leading" ∘ px) ++
    measureTokens t.letterSpacing (fun x => x.isFinite && x != 0) (bracketed "tracking" ∘ px) ++
    ((t.color.bind payload?).map (bracketed "text")).toList ++
    ((t.fontFamily.bind payload?).map fun f => bracketed "font" ('\x27' :: f ++ ['\x27'])).toList ++
    (if t.italic then ["italic".toList] else []) ++
    lineTokens t.decoration ++
    (if t.uppercase then ["uppercase".toList] else [])

end ResponsiveMarkup.Style
