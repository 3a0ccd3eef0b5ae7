import ResponsiveMarkup.Contract.Basic
import ResponsiveMarkup.Markup.Names
import ResponsiveMarkup.Markup.Splice

/-!
Links and buttons must not stand inside other links or buttons. Repair turns the inner one into a plain box
and drops the attributes that only mean something on links and buttons.
-/

namespace ResponsiveMarkup.Nesting

open Text Contract

def interactiveTags : List Text := [['a'], "button".toList]

def isInteractiveTag (name : Text) : Bool := interactiveTags.any (sameName name)

def interactiveAttributes : List Text := ["href", "type", "target", "rel"].map String.toList

def isInteractiveAttribute (name : Text) : Bool := interactiveAttributes.any (sameName name)

structure OpenElement where
  /-- In lower case. -/
  name : Text
  interactive : Bool
  demoted : Bool

/-- A change that makes an inner link or button a plain box. -/
inductive Demotion where
  | opening (tag : StartTag)
  /-- The name in the end tag of a demoted element. -/
  | closing (nameSpan : Span)

/-- The demotions in a stretch of tokens, given the elements open before it, the innermost first. An end tag
closes the innermost element of its name and all elements left open inside; without one it means nothing. -/
def demotions : List OpenElement → List Token → List Demotion
  | _, [] => []
  | stack, token :: tokens =>
    match token.kind with
    | .startTag tag =>
      let interactive := isInteractiveTag tag.name
      let demoted := interactive && stack.any (·.interactive)
      let below := if tag.isEmptyElement then stack else ⟨asciiLower tag.name, interactive, demoted⟩ :: stack
      (if demoted then [.opening tag] else []) ++ demotions below tokens
    | .endTag name span =>
      match stack.dropWhile (·.name != asciiLower name) with
      | [] => demotions stack tokens
      | e :: outer => (if e.demoted then [.closing span] else []) ++ demotions outer tokens
    | _ => demotions stack tokens

namespace Demotion

def isOpening : Demotion → Bool
  | opening _ => true
  | closing _ => false

def warning? : Demotion → Option Text
  | opening tag =>
    some ('<' :: tag.name ++ "> (node ".toList ++ (tag.value? Names.nodeId).getD ['?'] ++
      ") is nested inside another interactive element.".toList)
  | closing _ => none

def splices : Demotion → List Splice
  | opening tag =>
    ⟨tag.nameSpan, "div".toList⟩ ::
      (tag.attributes.filter (isInteractiveAttribute ·.name)).map fun a => .remove a.outerSpan
  | closing span => [⟨span, "div".toList⟩]

end Demotion

def check (mode : Mode) (html : Text) : Result :=
  let found := demotions [] (tokenize html)
  let result : Result :=
    { Result.unchanged html with
      warnings := found.filterMap Demotion.warning?
      metrics := [("nestedInteractive", (found.filter (·.isOpening)).length)] }
  match mode with
  | .report => result
  | .repair => result.updateHtml (spliced html (found.flatMap Demotion.splices))

def contract : Contract where
  id := "a11y.interactive-nesting"
  stage := markupStage
  order := 30
  apply := fun mode d => check mode d.html

end ResponsiveMarkup.Nesting
