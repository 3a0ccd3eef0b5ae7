import ResponsiveMarkup.Markup.Scanner
import ResponsiveMarkup.Text.Utf8

/-!
Tokens: what the pieces of a markup mean, each with the byte range it was found at. Slashes and nameless
assignments inside a tag mean nothing and have no token of their own.
-/

namespace ResponsiveMarkup

/-- Byte offsets into a text, the end not included. -/
structure Span where
  start : Nat
  stop : Nat
  deriving DecidableEq, Repr

structure Attribute where
  name : Text
  /-- The value without quotes; none for a bare name. -/
  value : Option Text
  valueSpan : Option Span
  /-- The whole attribute with the blanks before it. -/
  outerSpan : Span
  deriving DecidableEq, Repr

structure StartTag where
  name : Text
  nameSpan : Span
  attributes : List Attribute
  selfClosing : Bool
  deriving DecidableEq, Repr

inductive TokenKind where
  | startTag (tag : StartTag)
  | endTag (name : Text) (nameSpan : Span)
  | comment (body : Text)
  | text (body : Text)
  deriving DecidableEq, Repr

structure Token where
  kind : TokenKind
  span : Span
  deriving DecidableEq, Repr

open Text

/-- The range of `s` when it begins at byte `start`. -/
def Span.of (start : Nat) (s : Text) : Span := ⟨start, start + byteLength s⟩

/-- The bytes of an attribute value in front of its text. -/
def AttributeValue.opening : AttributeValue → Nat
  | quoted q _ _ => q.utf8Size
  | bare _ => 0
  | missing => 0

/-- The attribute that a part of a tag at byte `start` writes. -/
def TagPart.attribute? (start : Nat) (part : TagPart) : Option Attribute :=
  match part with
  | slash _ => none
  | nameless _ _ _ => none
  | named _ name none => some ⟨name, none, none, .of start part.source⟩
  | named lead name (some a) =>
    let valueStart := start + byteLength (lead ++ name ++ a.gap ++ '=' :: a.indent) + a.value.opening
    some ⟨name, a.value.text?, a.value.text?.map (Span.of valueStart), .of start part.source⟩

def attributesFrom (start : Nat) : List TagPart → List Attribute
  | [] => []
  | part :: parts =>
    (part.attribute? start).toList ++ attributesFrom (start + byteLength part.source) parts

/-- The tag that stands at byte `start`. -/
def TagText.startTag (start : Nat) (t : TagText) : StartTag where
  name := t.name
  nameSpan := .of (start + 1) t.name
  attributes := attributesFrom (start + 1 + byteLength t.name) t.parts
  selfClosing := t.stop == .selfClose

def Piece.kind (start : Nat) : Piece → TokenKind
  | startTag tag => .startTag (tag.startTag start)
  | endTag name _ => .endTag name (.of (start + 2) name)
  | comment body _ => .comment body
  | declaration body _ => .comment body
  | text body => .text body

def tokensFrom (start : Nat) : List Piece → List Token
  | [] => []
  | p :: ps => ⟨p.kind start, .of start p.source⟩ :: tokensFrom (start + byteLength p.source) ps

/-- The tokens of a markup. Declarations count as comments. -/
def tokenize (markup : Text) : List Token := tokensFrom 0 (Scanner.pieces markup)

/-- The start tags of a markup, in order. -/
def startTags (markup : Text) : List StartTag :=
  (tokenize markup).filterMap fun token =>
    match token.kind with
    | .startTag tag => some tag
    | _ => none

/-- Elements that never have an end tag. -/
def voidTags : List Text :=
  ["area", "base", "br", "col", "embed", "hr", "img", "input", "link", "meta", "source", "track",
   "wbr"].map String.toList

def isVoidTag (name : Text) : Bool := voidTags.any (sameName name)

namespace StartTag

/-- The first attribute of a name, in whatever case it is written. -/
def attribute? (tag : StartTag) (name : Text) : Option Attribute :=
  tag.attributes.find? fun a => sameName a.name name

def value? (tag : StartTag) (name : Text) : Option Text := (tag.attribute? name).bind (·.value)

/-- The element has no body and no end tag. -/
def isEmptyElement (tag : StartTag) : Bool := tag.selfClosing || isVoidTag tag.name

end StartTag

end ResponsiveMarkup
