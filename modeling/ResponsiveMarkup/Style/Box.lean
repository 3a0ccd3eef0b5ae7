import ResponsiveMarkup.Style.Number
import ResponsiveMarkup.Design.Node

/-!
Tokens for the box of a node, which is placed relative to the frame's origin, and for the box of the frame.
-/

namespace ResponsiveMarkup.Style

open Design

/-- Positions and sizes stay within this many pixels. -/
def maxExtent : Float := 1000000

def position (x : Float) : Float :=
  if x.isFinite then (if x < -maxExtent then -maxExtent else if maxExtent < x then maxExtent else x) else 0

def extent (x : Float) : Float :=
  if x.isFinite && x > 0 then (if x < maxExtent then x else maxExtent) else 0

def boxTokens (l : Layer) (f : Frame) : List Text :=
  ["absolute".toList,
   bracketed "left" (px (position (l.x - f.x))),
   bracketed "top" (px (position (l.y - f.y))),
   bracketed "w" (px (extent l.w)),
   bracketed "h" (px (extent l.h))]

def frameTokens (f : Frame) : List Text :=
  ["relative".toList,
   bracketed "w" (px (extent f.w)),
   bracketed "h" (px (extent f.h)),
   "overflow-hidden".toList]

end ResponsiveMarkup.Style
