import ResponsiveMarkup.Html.Token

/-!
The tree of an HTML document while it grows: elements and comments, each known by its number. Elements can be
moved, which is why the tree is kept as a table of nodes and not as a nested value. Text is not kept.
-/

namespace ResponsiveMarkup.Html

abbrev NodeId := Nat

inductive Namespace where
  | html
  | svg
  | mathml
  deriving DecidableEq, Repr

structure Element where
  space : Namespace
  name : String
  attributes : List Attribute
  deriving DecidableEq, Repr

inductive NodeContent where
  | document
  | element (e : Element)
  | comment (body : Text)
  deriving DecidableEq, Repr

structure TreeNode where
  content : NodeContent
  parent : Option NodeId
  children : Array NodeId

/-- Nodes by number; the first is the document. A node without a parent is in no document. -/
structure Tree where
  nodes : Array TreeNode

namespace Tree

def root : NodeId := 0

def empty : Tree := ⟨#[⟨.document, none, #[]⟩]⟩

def node? (t : Tree) (id : NodeId) : Option TreeNode := t.nodes[id]?

/-- The number of a new node that is not in the tree yet. -/
def create (t : Tree) (content : NodeContent) : NodeId × Tree :=
  (t.nodes.size, ⟨t.nodes.push ⟨content, none, #[]⟩⟩)

def update (t : Tree) (id : NodeId) (f : TreeNode → TreeNode) : Tree := ⟨t.nodes.modify id f⟩

def parent? (t : Tree) (id : NodeId) : Option NodeId := (t.node? id).bind (·.parent)

def children (t : Tree) (id : NodeId) : Array NodeId := ((t.node? id).map (·.children)).getD #[]

/-- Make a node the last child of another. It must not have a parent. -/
def append (t : Tree) (parent child : NodeId) : Tree :=
  (t.update parent fun n => { n with children := n.children.push child }).update child fun n =>
    { n with parent := some parent }

/-- Put a node before a child of `parent`. It must not have a parent. -/
def insertBefore (t : Tree) (parent sibling child : NodeId) : Tree :=
  let place (cs : Array NodeId) : Array NodeId :=
    (cs.toList.takeWhile (· != sibling) ++ child :: cs.toList.dropWhile (· != sibling)).toArray
  (t.update parent fun n => { n with children := place n.children }).update child fun n =>
    { n with parent := some parent }

/-- Take a node out of its parent. -/
def detach (t : Tree) (id : NodeId) : Tree :=
  match t.parent? id with
  | none => t
  | some p =>
    (t.update p fun n => { n with children := n.children.filter (· != id) }).update id fun n =>
      { n with parent := none }

/-- Move all children of one node to the end of another's. -/
def moveChildren (t : Tree) (source target : NodeId) : Tree :=
  let moved := t.children source
  let t := t.update source fun n => { n with children := #[] }
  moved.foldl (fun t c => t.append target c) t

/-- The nodes below those on a stack, in the order of the document, as many as there are steps. The content of
a template is a document of its own and is left out. -/
def walkFrom (t : Tree) : Nat → List NodeId → List NodeContent
  | 0, _ => []
  | _ + 1, [] => []
  | n + 1, id :: stack =>
    match t.node? id with
    | none => walkFrom t n stack
    | some node =>
      let below := match node.content with
        | .element ⟨.html, "template", _⟩ => []
        | _ => node.children.toList
      node.content :: walkFrom t n (below ++ stack)

/-- All nodes of the document, parents before children and siblings in order. -/
def walk (t : Tree) : List NodeContent := walkFrom t (t.nodes.size + 1) [root]

end Tree

end ResponsiveMarkup.Html
