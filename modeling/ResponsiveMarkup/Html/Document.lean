import ResponsiveMarkup.Html.Insertion

/-!
The tree of a whole HTML document, scripts enabled. Every text is a document: what is missing is implied and
what is malformed is mended or left out.
-/

namespace ResponsiveMarkup.Html

/-- Take the tokens of one step; a start tag among them may change how the text is read on. -/
def takeAll (mode : LexMode) (b : Builder) : List Token → LexMode × Builder
  | [] => (mode, b)
  | token :: tokens =>
    let (changed, b) := b.take token
    takeAll (changed.getD mode) b tokens

/-- A mark of the byte order in front of a text, or right behind a script, is no part of it. -/
def dropMark (s : Text) : Text := if s.head? = some '\ufeff' then s.drop 1 else s

/-- Read a text to its end, in so many steps at most. A line feed behind a fault is no longer the first thing in
its element. -/
def growSteps : Nat → LexMode → Builder → Text → Builder
  | 0, _, b, _ => b
  | _ + 1, _, b, [] => (b.take .finish).2
  | n + 1, mode, b, c :: s =>
    let foreign := b.current?.any (·.element.space != .html)
    let step := lex mode foreign c s
    let b := if step.faulty then { b with dropsNewline := false } else b
    let (next, b) := takeAll step.mode b step.tokens
    growSteps n next b (if mode.isScript && !next.isScript then dropMark step.rest else step.rest)

/-- The tree of a document. -/
def parse (s : Text) : Tree :=
  let s := normalizeLines (dropMark s)
  (growSteps (s.length + 1) .data Builder.start s).tree

end ResponsiveMarkup.Html
