import ResponsiveMarkup.Text.Search

/-!
Writing text into attribute values and element bodies, and reading an attribute value back.
-/

namespace ResponsiveMarkup

open Text

/-- Ampersands and double quotes become entities. -/
def escapeQuoted (s : Text) : Text :=
  s.flatMap fun c =>
    if c = '&' then "&amp;".toList else if c = '"' then "&quot;".toList else [c]

/-- A value fit for double quotes, its blanks collapsed. -/
def escapeAttr (s : Text) : Text := escapeQuoted (collapse s)

/-- Ampersands and angle brackets become entities. -/
def escapeText (s : Text) : Text :=
  s.flatMap fun c =>
    if c = '&' then "&amp;".toList
    else if c = '<' then "&lt;".toList
    else if c = '>' then "&gt;".toList
    else [c]

/-- The entities that an attribute value may hold, in the order they are read back: the ampersand comes last,
so that what it uncovers is not read again. -/
def entities : List (Text × Text) :=
  [("&quot;".toList, ['"']), ("&#39;".toList, ['\x27']), ("&lt;".toList, ['<']), ("&gt;".toList, ['>']),
   ("&amp;".toList, ['&'])]

def unescapeAttr (s : Text) : Text := entities.foldl (fun t e => replaceAll e.1 e.2 t) s

/-- A text that may stand inside a comment: no two dashes in a row. -/
def collapseDashes : Text → Text
  | [] => []
  | c :: s => if c = '-' ∧ s.head? = some '-' then collapseDashes s else c :: collapseDashes s

def comment (body : Text) : Text := "<!--".toList ++ collapseDashes body ++ "-->".toList

end ResponsiveMarkup
