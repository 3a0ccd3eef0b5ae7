import ResponsiveMarkup.Contract.Basic
import ResponsiveMarkup.Failure
import ResponsiveMarkup.Merge.Viewport
import ResponsiveMarkup.Render.Decode

/-!
What a compilation is given: its options, and a design for each viewport that was drawn.
-/

namespace ResponsiveMarkup.Compile

open Json Json.Reader Design

structure Options where
  mode : Mode
  /-- The file of the rule table; without one there are no rules. -/
  ruleTablePath : Option Text
  stages : List String
  frameWrapper : Bool
  lazyImages : Bool
  semanticTags : NameMap

namespace Options

def standard : Options := ⟨.report, none, Contract.defaultStages, true, true, NameMap.empty⟩

def render (o : Options) : Render.Options := ⟨o.frameWrapper, o.lazyImages, o.semanticTags⟩

def modes : List (Variant Mode) := [⟨["report"], .report⟩, ⟨["repair"], .repair⟩]

def schema (room : Nat) : Schema (Reader (Options → Options)) Options where
  title := "struct CompileOptions"
  start := standard
  fields :=
    [field "mode" (variant room modes none) fun v o => { o with mode := v },
     field "ruleTablePath" (optional (textOf "path string")) fun v o => { o with ruleTablePath := v },
     field "stages" (list (inside room fun _ => string)) fun v o => { o with stages := v },
     field "frameWrapper" bool fun v o => { o with frameWrapper := v },
     field "lazyImages" bool fun v o => { o with lazyImages := v },
     field "semanticTags" (nameMap room) fun v o => { o with semanticTags := v }]

def ofJson (s : Text) : Except Failure Options :=
  (Reader.parse (record "struct CompileOptions" (inside maxNesting schema)) s).mapError .optionsMalformed

end Options

/-- The designs of the viewports. -/
structure Input where
  mobile : Option Artboard
  tablet : Option Artboard
  desktop : Option Artboard

namespace Input

def get? (i : Input) : Viewport → Option Artboard
  | .mobile => i.mobile
  | .tablet => i.tablet
  | .desktop => i.desktop

/-- The viewports that have a design, narrow to wide. -/
def present (i : Input) : List (Viewport × Artboard) :=
  Viewport.all.filterMap fun v => (i.get? v).map fun a => (v, a)

def schema (room : Nat) : Schema (Reader (Input → Input)) Input where
  title := "struct ResponsiveInput"
  start := ⟨none, none, none⟩
  fields :=
    [field "mobile" (optional (Artboard.reader room)) fun v i => { i with mobile := v },
     field "tablet" (optional (Artboard.reader room)) fun v i => { i with tablet := v },
     field "desktop" (optional (Artboard.reader room)) fun v i => { i with desktop := v }]

def ofJson (s : Text) : Except Failure Input :=
  (Reader.parse (record "struct ResponsiveInput" (inside maxNesting schema)) s).mapError .designMalformed

end Input

end ResponsiveMarkup.Compile
