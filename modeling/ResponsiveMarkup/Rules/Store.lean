import ResponsiveMarkup.Failure
import ResponsiveMarkup.Rules.Fingerprint
import ResponsiveMarkup.Rules.Mining

/-!
Rule tables and edit logs in a storage: loading and saving tables, and learning a table from all logs under a
folder.
-/

namespace ResponsiveMarkup

namespace RuleTable

/-- Read a table that was written under a path. -/
def decode (path : Text) (s : Text) : Except Failure RuleTable :=
  (ofJson s).mapError (.ruleTableMalformed path)

def load (st : Storage) (path : Text) : Except Failure RuleTable := do
  decode path (← (st.readText path).mapError (.ruleTableUnreadable path))

/-- Write a table; the folders around it are created, and stay even if the table cannot be written. -/
def save (st : Storage) (path : Text) (t : RuleTable) : Storage.Changed Failure :=
  ((st.createFolders (Storage.parentOf path)).andThen fun st =>
    st.write path (Text.utf8 t.toJson.print)).mapFault (.ruleTableUnreadable path)

end RuleTable

namespace EditLogs

def logExtension : Text := "jsonl".toList

/-- Whether a file is a log, by the last of its names; a file that is looked for itself is named by `path`. -/
def isLog (path : Text) (names : Path) : Bool :=
  ((names.getLast?.or (Path.steps path).getLast?).bind Path.extension?) == some logExtension

/-- The logs under a path, ordered by their names, folder by folder. -/
def find (st : Storage) (path : Text) : List Path :=
  ((st.filesUnder path).filter (isLog path)).mergeSort fun a b => (compare a b).isLE

def pathOf (path : Text) (names : Path) : Text := Path.join path (Text.joinWith ['/'] names)

def read (st : Storage) (path : Text) (names : Path) : Except Failure Text :=
  (st.readText (pathOf path names)).mapError (.editLogUnreadable (pathOf path names))

/-- The table that all logs under a path teach; the empty table if nothing is there. -/
def compile (st : Storage) (path : Text) (o : Mining.Thresholds) : Except Failure RuleTable := do
  let logs ← (find st path).mapM (read st path)
  return RuleTable.ofRules (Mining.rules o (logs.flatMap EditRecord.ofLog)) (fingerprint logs.flatten)

end EditLogs

end ResponsiveMarkup
