import ResponsiveMarkup.Text.Search

/-!
Viewports, narrow to wide, and the scopes that make a class token hold from a width on.
-/

namespace ResponsiveMarkup

inductive Viewport where
  | mobile
  | tablet
  | desktop
  deriving DecidableEq, Repr

namespace Viewport

def all : List Viewport := [mobile, tablet, desktop]

def name : Viewport → String
  | mobile => "mobile"
  | tablet => "tablet"
  | desktop => "desktop"

/-- The scope of what a viewport adds; the narrowest adds nothing. -/
def scope? : Viewport → Option Text
  | mobile => none
  | tablet => some "md:".toList
  | desktop => some "lg:".toList

/-- The width from which on the scope holds. -/
def minWidth : Viewport → Nat
  | mobile => 0
  | tablet => 768
  | desktop => 1024

end Viewport

open Text

/-- The scopes that a token may already carry. -/
def knownScopes : List Text :=
  ["max-2xl:", "max-xl:", "max-lg:", "max-md:", "max-sm:", "2xl:", "xl:", "lg:", "md:", "sm:"].map
    String.toList

/-- The scope in front of a token; a scope alone is none. -/
def scopeOf? (token : Text) : Option Text :=
  knownScopes.find? fun s => (stripStart? s token).any fun rest => !rest.isEmpty

def isScoped (token : Text) : Bool := (scopeOf? token).isSome

/-- A token that has a scope keeps it. -/
def scopeToken (token scope : Text) : Text := if isScoped token then token else scope ++ token

end ResponsiveMarkup
