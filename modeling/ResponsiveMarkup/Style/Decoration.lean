import ResponsiveMarkup.Style.Number
import ResponsiveMarkup.Design.Node
import ResponsiveMarkup.Text.Lowercase

/-!
Tokens for how a node is painted, in a fixed order: fill, corners, shadow, stroke, opacity and blending.
Colours and addresses are passed through as they are.
-/

namespace ResponsiveMarkup.Style

open Design Text

/-- The words of a text, if it has any. -/
def payload? (s : String) : Option Text := if isBlankText s.toList then none else some (arbitrary s.toList)

/-- A background picture that covers its box. -/
def pictureTokens (src : Text) : List Text :=
  [bracketed "bg" ("url(".toList ++ arbitrary src ++ [')']), "bg-cover".toList, "bg-center".toList]

/-- Colours and positions of a gradient, which needs two stops. -/
def gradientStops? (stops : List GradientStop) : Option Text :=
  if stops.length < 2 then none
  else some (joinWith [','] (stops.map fun s =>
    arbitrary s.color.toList ++ ['_'] ++ number (s.position * 100) ++ ['%']))

/-- The tokens of a fill that shows anything. -/
def fillTokens? : Fill → Option (List Text)
  | .solid color _ => (payload? color).map fun c => [bracketed "bg" c]
  | .image src => (src.bind payload?).map pictureTokens
  | .linearGradient angle stops => (gradientStops? stops).map fun s =>
      [bracketed "bg" ("linear-gradient(".toList ++ number angle ++ "deg,".toList ++ s ++ [')'])]
  | .radialGradient stops => (gradientStops? stops).map fun s =>
      [bracketed "bg" ("radial-gradient(".toList ++ s ++ [')'])]
  | .none => none
  | .unsupported => none

/-- Bands of corner radii by their greatest radius, ascending; the empty name is the plain token. -/
def radiusBands : List (Float × String) :=
  [(2, "sm"), (4, ""), (6, "md"), (8, "lg"), (12, "xl"), (16, "2xl"), (24, "3xl")]

def radiusToken (name : String) (r : Float) : Text :=
  if r ≥ 9999 then name.toList ++ "-full".toList
  else
    match radiusBands.find? fun band => r ≤ band.1 with
    | some (_, "") => name.toList
    | some (_, band) => name.toList ++ '-' :: band.toList
    | none => bracketed name (px r)

def isPositive (x : Float) : Bool := x.isFinite && x > 0

/-- One token when all corners agree, else one for each rounded corner. -/
def radiusTokens (r : Radius) : List Text :=
  let c := r.toCorners
  let values := [c.topLeft, c.topRight, c.bottomRight, c.bottomLeft]
  if values.all (· == c.topLeft) then
    if isPositive c.topLeft then [radiusToken "rounded" c.topLeft] else []
  else
    ((["rounded-tl", "rounded-tr", "rounded-br", "rounded-bl"].zip values).filter (isPositive ·.2)).map
      fun (name, v) => radiusToken name v

def strokeTokens (s : Stroke) : List Text :=
  if s.weight > 0 then
    bracketed "border" (px s.weight) :: ((s.color.bind payload?).map (bracketed "border")).toList
  else []

/-- Underscores become hyphens, and the modes that change nothing have no token. -/
def blendToken? (mode : String) : Option Text :=
  let name := (lowercase (trim mode.toList)).map fun c => if c = '_' then '-' else c
  if name = [] ∨ name = "normal".toList ∨ name = "pass-through".toList then none
  else some ("mix-blend-".toList ++ name)

def opacityTokens (x : Float) : List Text :=
  if x.isFinite && x < 1 then [bracketed "opacity" (number (if x > 0 then x else 0))] else []

def decorationTokens (l : Layer) : List Text :=
  (l.fills.findSome? fillTokens?).getD [] ++
    (l.radius.map radiusTokens).getD [] ++
    (if l.shadows.isEmpty then [] else ["shadow-md".toList]) ++
    (l.stroke.map strokeTokens).getD [] ++
    opacityTokens l.opacity ++
    (l.blendMode.bind blendToken?).toList

end ResponsiveMarkup.Style
