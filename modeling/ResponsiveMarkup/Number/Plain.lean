import ResponsiveMarkup.Number.Notation

/-!
Numbers in messages: the shortest digits, always positional, with nothing after a whole number.
-/

namespace ResponsiveMarkup

/-- No exponent and no needless point, however great or small the number. -/
def plainNumber : Notation where
  tie := .away
  pointZero := false
  plain := none
  nan := "NaN".toList
  infinite := "inf".toList

end ResponsiveMarkup
