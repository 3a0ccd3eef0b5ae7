import ResponsiveMarkup.Design.Decode
import ResponsiveMarkup.Render.Markup

/-!
Render options written as JSON.
-/

namespace ResponsiveMarkup.Render.Options

open Json Json.Reader Design

def schema (room : Nat) : Schema (Reader (Options → Options)) Options where
  title := "struct RenderOptions"
  start := standard
  fields :=
    [field "frameWrapper" bool fun v o => { o with frameWrapper := v },
     field "lazyImages" bool fun v o => { o with lazyImages := v },
     field "semanticTags" (nameMap room) fun v o => { o with semanticTags := v }]

def ofJson (s : Text) : Except Fault Options :=
  Reader.parse (record "struct RenderOptions" (inside maxNesting schema)) s

end ResponsiveMarkup.Render.Options
