import ResponsiveMarkup.Json.Schema
import ResponsiveMarkup.Text.Lines

/-!
Logs of accepted edits, one JSON record a line. Blank lines and lines that hold no record are passed over.
-/

namespace ResponsiveMarkup

open Json Json.Reader

/-- The class value of a node before and after an edit. -/
structure EditRecord where
  nodeId : Option Text
  before : Text
  after : Text
  deriving DecidableEq, Repr

namespace EditRecord

def schema : Schema (Reader (EditRecord → EditRecord)) EditRecord where
  title := "struct EditRecord"
  start := ⟨none, [], []⟩
  fields :=
    [field "nodeId" (optional text) fun v r => { r with nodeId := v },
     requiredField "before" text fun v r => { r with before := v },
     requiredField "after" text fun v r => { r with after := v }]

def ofJson (line : Text) : Except Fault EditRecord :=
  Reader.parse (record "struct EditRecord" (some schema)) line

/-- The record on a line of a log, if there is one. -/
def ofLine? (line : Text) : Option EditRecord :=
  if Text.isBlankText line then none
  else
    match ofJson line with
    | .ok r => some r
    | .error _ => none

def ofLog (log : Text) : List EditRecord := (Text.lines log).filterMap ofLine?

end EditRecord

end ResponsiveMarkup
