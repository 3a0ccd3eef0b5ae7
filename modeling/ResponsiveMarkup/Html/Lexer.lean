import ResponsiveMarkup.Html.Reference
import ResponsiveMarkup.Html.Token

/-!
Reading HTML tokens from the front of a text. How a text is read depends on the element it stands in; the
tree decides that, so the reader takes one step at a time and is told its mode.
-/

namespace ResponsiveMarkup.Html

open Text

/-- How far a script has gone into a comment, and into a script inside it. -/
inductive ScriptDepth where
  | plain
  | comment
  | nested
  deriving DecidableEq, Repr

inductive LexMode where
  | data
  /-- Text with references, up to the end tag of a name. -/
  | escapable (name : String)
  /-- Text without references, up to the end tag of a name. -/
  | raw (name : String)
  /-- A script, with the number of dashes just read. -/
  | script (name : String) (depth : ScriptDepth) (dashes : Nat)
  /-- Nothing but text, up to the end. -/
  | plain
  deriving DecidableEq, Repr

def LexMode.isScript : LexMode → Bool
  | .script .. => true
  | _ => false

/-- Carriage returns become line feeds, alone or with the line feed after them. -/
def normalizeLines : Text → Text
  | [] => []
  | '\r' :: '\n' :: s => '\n' :: normalizeLines s
  | c :: s => (if c = '\r' then '\n' else c) :: normalizeLines s

/-- The null character has no place in names and values. -/
def withoutNull (s : Text) : Text := s.map fun c => if c = '\x00' then replacementChar else c

def isLetter (c : Char) : Bool := ('a' ≤ c && c ≤ 'z') || ('A' ≤ c && c ≤ 'Z')

/-- The characters that a tag's name stops at. -/
def endsTagName (c : Char) : Bool := isSyntaxBlank c || c == '/' || c == '>'

/-- The characters that an attribute's name stops at. -/
def endsAttributeName (c : Char) : Bool := endsTagName c || c == '='

/-- The characters that a value without quotes stops at. -/
def endsUnquoted (c : Char) : Bool := isSyntaxBlank c || c == '>'

def isQuoteMark (c : Char) : Bool := c == '"' || c == '\x27'

def nameOf (s : Text) : String := String.ofList (withoutNull (asciiLower s))

/-! ### Tags -/

/-- The value after an attribute's name, if an equals sign follows. None if a quote is never closed. -/
def attributeValue? (s : Text) : Option (Text × Text) :=
  match s.dropWhile isSyntaxBlank with
  | '=' :: t =>
    match t.dropWhile isSyntaxBlank with
    | [] => none
    | c :: r =>
      if isQuoteMark c then
        match r.dropWhile (· != c) with
        | [] => none
        | _ :: rest => some (r.takeWhile (· != c), rest)
      else some ((c :: r).takeWhile (!endsUnquoted ·), (c :: r).dropWhile (!endsUnquoted ·))
  | _ => some ([], s)

def addAttribute (attributes : List Attribute) (name : String) (value : Text) : List Attribute :=
  if attributes.any (·.name == name) then attributes
  else attributes ++ [⟨name, decodeAttribute (withoutNull value)⟩]

/-- The attributes and the end of a tag, in so many steps at most; none if the text ends before the tag. -/
def readAttributes : Nat → List Attribute → Text → Option (List Attribute × Bool × Text)
  | 0, _, _ => none
  | _ + 1, _, [] => none
  | n + 1, attributes, c :: s =>
    if isSyntaxBlank c then readAttributes n attributes s
    else if c = '>' then some (attributes, false, s)
    else if c = '/' then
      match s with
      | '>' :: rest => some (attributes, true, rest)
      | _ => readAttributes n attributes s
    else
      match attributeValue? (s.dropWhile (!endsAttributeName ·)) with
      | none => none
      | some (value, rest) =>
        let name := nameOf (c :: s.takeWhile (!endsAttributeName ·))
        readAttributes n (addAttribute attributes name value) rest

/-- A tag from its name on. -/
def readTag? (s : Text) : Option (Tag × Text) := do
  let (attributes, selfClosing, rest) ← readAttributes (s.length + 1) [] (s.dropWhile (!endsTagName ·))
  return (⟨nameOf (s.takeWhile (!endsTagName ·)), attributes, selfClosing⟩, rest)

/-- The end tag of a name, from the name on. Nothing is read when the name is another one. -/
def closes (name : String) (s : Text) : Bool :=
  nameOf (s.takeWhile isLetter) == name && (s.dropWhile isLetter).head?.any endsTagName

/-! ### Comments and declarations -/

/-- The body of a comment and what follows its end. An end that is cut off belongs to no body. -/
def commentBody : Text → Text × Text
  | [] => ([], [])
  | ['-'] => ([], [])
  | ['-', '-'] => ([], [])
  | ['-', '-', '!'] => ([], [])
  | '-' :: '-' :: '>' :: s => ([], s)
  | '-' :: '-' :: '!' :: '>' :: s => ([], s)
  | c :: s =>
    let (body, rest) := commentBody s
    (c :: body, rest)

/-- A comment after its opening dashes. -/
def readComment : Text → Text × Text
  | '>' :: s => ([], s)
  | '-' :: '>' :: s => ([], s)
  | s => commentBody s

/-- All up to a closing bracket. -/
def bogusComment (s : Text) : Token × Text :=
  (.comment (withoutNull (s.takeWhile (· != '>'))), (s.dropWhile (· != '>')).drop 1)

/-- A quoted identifier, whether it is complete, and what follows it. -/
def quotedId? (s : Text) : Option (Text × Bool × Text) :=
  match s.dropWhile isSyntaxBlank with
  | [] => none
  | c :: r =>
    if isQuoteMark c then
      let body := r.takeWhile fun d => d != c && d != '>'
      match r.dropWhile fun d => d != c && d != '>' with
      | d :: rest => some (withoutNull body, d == c, if d = c then rest else d :: rest)
      | [] => some (withoutNull body, false, [])
    else none

/-- A system identifier, if one follows, and what is left. -/
def doctypeTail (d : Doctype) (s : Text) : Doctype × Text :=
  match quotedId? s with
  | some (body, complete, rest) => ({ d with systemId := some body, broken := !complete }, rest)
  | none => ({ d with broken := true }, s)

def afterPublic (d : Doctype) (s : Text) : Doctype × Text :=
  match quotedId? s with
  | some (body, true, rest) =>
    let d := { d with publicId := some body }
    match rest.dropWhile isSyntaxBlank with
    | '>' :: _ => (d, rest)
    | _ => doctypeTail d rest
  | some (body, false, rest) => ({ d with publicId := some body, broken := true }, rest)
  | none => ({ d with broken := true }, s)

/-- What follows the name of a document type. -/
def afterDoctypeName (d : Doctype) (s : Text) : Doctype × Text :=
  let s := s.dropWhile isSyntaxBlank
  if s.head? = some '>' then (d, s)
  else if sameName (s.take 6) "public".toList then afterPublic d (s.drop 6)
  else if sameName (s.take 6) "system".toList then doctypeTail d (s.drop 6)
  else ({ d with broken := true }, s)

/-- A document type declaration after its keyword. -/
def readDoctype (s : Text) : Token × Text :=
  let s := s.dropWhile isSyntaxBlank
  let ends (c : Char) : Bool := isSyntaxBlank c || c == '>'
  let name := s.takeWhile (!ends ·)
  let named := if name.isEmpty then none else some (withoutNull (asciiLower name))
  let (d, rest) := afterDoctypeName ⟨named, none, none, false⟩ (s.dropWhile (!ends ·))
  let tail := rest.dropWhile (· != '>')
  (.doctype { d with broken := d.broken || tail.isEmpty || named.isNone }, tail.drop 1)

/-- A declaration after its exclamation mark. Sections of plain characters only exist in foreign elements. -/
def readDeclaration (foreign : Bool) (s : Text) : List Token × Text :=
  match stripStart? "--".toList s with
  | some rest =>
    let (body, rest) := readComment rest
    ([.comment (withoutNull body)], rest)
  | none =>
    if sameName (s.take 7) "doctype".toList then
      let (t, rest) := readDoctype (s.drop 7)
      ([t], rest)
    else
      match stripStart? "[CDATA[".toList s with
      | some rest =>
        if foreign then
          match breakOn "]]>".toList rest with
          | some (body, rest) => (body.map .char, rest)
          | none => (rest.map .char, [])
        else
          let (t, rest) := bogusComment s
          ([t], rest)
      | none =>
        let (t, rest) := bogusComment s
        ([t], rest)

/-! ### Steps -/

/-- What one step reads. -/
structure LexStep where
  tokens : List Token
  /-- How the text is read on. -/
  mode : LexMode
  rest : Text
  /-- Whether a fault stands in front of the tokens that they do not show. -/
  faulty : Bool

/-- A tag that the text ends in is no tag, and nothing is left. -/
def tagStep (mode : LexMode) (make : Tag → Token) (s : Text) : LexStep :=
  match readTag? s with
  | some (tag, rest) => ⟨[make tag], mode, rest, false⟩
  | none => ⟨[], mode, [], false⟩

/-- What follows an opening bracket. -/
def lexMarkup (foreign : Bool) : Text → LexStep
  | '!' :: s =>
    let (tokens, rest) := readDeclaration foreign s
    ⟨tokens, .data, rest, false⟩
  | '?' :: s =>
    let (t, rest) := bogusComment ('?' :: s)
    ⟨[t], .data, rest, false⟩
  | ['/'] => ⟨[.char '<', .char '/'], .data, [], false⟩
  | '/' :: '>' :: s => ⟨[], .data, s, true⟩
  | '/' :: c :: s =>
    if isLetter c then tagStep .data .endTag (c :: s)
    else
      let (t, rest) := bogusComment (c :: s)
      ⟨[t], .data, rest, false⟩
  | c :: s => if isLetter c then tagStep .data .startTag (c :: s) else ⟨[.char '<'], .data, c :: s, false⟩
  | [] => ⟨[.char '<'], .data, [], false⟩

/-- What follows an ampersand. -/
def lexReference (mode : LexMode) (s : Text) : LexStep :=
  match reference? false s with
  | some r => ⟨r.meaning.map .char, mode, r.rest, !r.closed⟩
  | none => ⟨[.char '&'], mode, s, false⟩

/-- The end tag of the element that the text stands in. -/
def closing? (name : String) (s : Text) : Option LexStep :=
  match s with
  | '/' :: r => if closes name r then some (tagStep .data .endTag r) else none
  | _ => none

/-- Whether a script opens or closes another one here. -/
def namesScript (s : Text) : Bool := closes "script" s

/-- One character of a script. A comment in it begins with its opening, whose dashes count as an end, and in
the comment a script may stand whose end tag is not the end of the outer one. -/
def lexScript (name : String) (depth : ScriptDepth) (dashes : Nat) (c : Char) (s : Text) : LexStep :=
  let on (depth : ScriptDepth) (dashes : Nat) (rest : Text) : LexStep :=
    ⟨[.char (if c = '\x00' then replacementChar else c)], .script name depth dashes, rest, false⟩
  if c = '<' then
    match depth with
    | .plain =>
      match closing? name s, stripStart? "!--".toList s with
      | some step, _ => step
      | none, some rest => on .comment 2 rest
      | none, none => on .plain 0 s
    | .comment =>
      match closing? name s with
      | some step => step
      | none => if namesScript s then on .nested 0 (s.drop 7) else on .comment 0 s
    | .nested =>
      if s.head? = some '/' ∧ namesScript (s.drop 1) then on .comment 0 (s.drop 8) else on .nested 0 s
  else if c = '-' then on depth (dashes + 1) s
  else if c = '>' ∧ 2 ≤ dashes then on .plain 0 s
  else on depth 0 s

/-- One step in a text that is not empty. -/
def lex (mode : LexMode) (foreign : Bool) (c : Char) (s : Text) : LexStep :=
  let shown := if c = '\x00' then replacementChar else c
  match mode with
  | .data =>
    if c = '<' then lexMarkup foreign s
    else if c = '&' then lexReference .data s
    else ⟨[.char c], .data, s, false⟩
  | .escapable name =>
    match if c = '<' then closing? name s else none with
    | some step => step
    | none => if c = '&' then lexReference mode s else ⟨[.char shown], mode, s, false⟩
  | .raw name =>
    match if c = '<' then closing? name s else none with
    | some step => step
    | none => ⟨[.char shown], mode, s, false⟩
  | .script name depth dashes => lexScript name depth dashes c s
  | .plain => ⟨[.char shown], .plain, s, false⟩

end ResponsiveMarkup.Html
