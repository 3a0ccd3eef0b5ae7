import ResponsiveMarkup.Json.Fault
import ResponsiveMarkup.Storage

/-!
What can go wrong at the edge: data that cannot be read and files that cannot be reached. Everything further
in reports what it finds and does not fail.
-/

namespace ResponsiveMarkup

inductive Failure where
  | designMalformed (fault : Json.Fault)
  | optionsMalformed (fault : Json.Fault)
  | ruleTableUnreadable (path : Text) (fault : StorageFault)
  | ruleTableMalformed (path : Text) (fault : Json.Fault)
  | editLogUnreadable (path : Text) (fault : StorageFault)
  /-- No viewport has anything to show. -/
  | noViewport

def Failure.message : Failure → String
  | designMalformed fault => "Failed to parse design AST: " ++ fault.message
  | optionsMalformed fault => "Failed to parse compile options: " ++ fault.message
  | ruleTableUnreadable path fault =>
    "Cannot read rule table '" ++ String.ofList path ++ "': " ++ fault.message
  | ruleTableMalformed path fault =>
    "Rule table '" ++ String.ofList path ++ "' is not valid JSON: " ++ fault.message
  | editLogUnreadable path fault => "Cannot read edit log '" ++ String.ofList path ++ "': " ++ fault.message
  | noViewport => "No viewport AST supplied: at least one of mobile, tablet or desktop is required"

end ResponsiveMarkup
