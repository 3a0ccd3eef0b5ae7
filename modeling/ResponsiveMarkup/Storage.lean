import ResponsiveMarkup.Text.Utf8

/-!
Files and folders by path. A path is read from its first component on: a link on the way leads on from the
folder it stands in, and a link at the end is followed unless an operation is about the link itself. A change
of several steps that cannot be finished leaves what it has done so far.
-/

namespace ResponsiveMarkup

open Text

inductive StorageFault where
  | missing
  | taken
  | noFolder
  | isFolder
  | linkLoop
  | nameTooLong
  /-- A path with the null character in it. -/
  | nullInPath
  /-- Bytes that are no UTF-8. -/
  | noText
  deriving DecidableEq, Repr

def StorageFault.message : StorageFault → String
  | missing => "No such file or directory (os error 2)"
  | taken => "File exists (os error 17)"
  | noFolder => "Not a directory (os error 20)"
  | isFolder => "Is a directory (os error 21)"
  | linkLoop => "Too many levels of symbolic links (os error 40)"
  | nameTooLong => "File name too long (os error 36)"
  | nullInPath => "file name contained an unexpected NUL byte"
  | noText => "stream did not contain valid UTF-8"

inductive StorageEntry where
  | file (bytes : List UInt8)
  | folder
  | link (target : Text)
  deriving DecidableEq, Repr

/-- The components of a path from the outermost folder on. -/
abbrev Path := List Text

/-- All entries by path, each path once. The outermost folder has no entry. -/
structure Storage where
  entries : List (Path × StorageEntry)
  deriving DecidableEq, Repr

namespace Path

/-- The text between slashes, empty pieces included. -/
def pieces : Text → List Text
  | [] => [[]]
  | c :: s =>
    if c = '/' then [] :: pieces s
    else
      match pieces s with
      | [] => [[c]]
      | p :: ps => (c :: p) :: ps

/-- A slash at the end is kept as an empty component. -/
def ofText (s : Text) : Path :=
  (pieces s).filter (!·.isEmpty) ++ (if s.getLast? = some '/' then [[]] else [])

/-- The components that a path goes on by. Single points stand for no step, nor does a slash at the end. -/
def steps (s : Text) : Path := (ofText s).filter fun c => !c.isEmpty && c != ['.']

/-- The letters after the last point of a file's name, if there are any before it. -/
def extension? (name : Text) : Option Text :=
  let back := name.reverse
  match back.dropWhile (· != '.') with
  | _ :: (_ :: _) => if name = ['.', '.'] then none else some (back.takeWhile (· != '.')).reverse
  | _ => none

/-- A path below another one, as it is written. -/
def join (parent child : Text) : Text :=
  if child.isEmpty then parent
  else if parent.getLast? = some '/' then parent ++ child
  else parent ++ '/' :: child

end Path

namespace Storage

def empty : Storage := ⟨[]⟩

def entry? (st : Storage) (p : Path) : Option StorageEntry :=
  if p.isEmpty then some .folder else (st.entries.find? (·.1 == p)).map (·.2)

def without (st : Storage) (p : Path) : Storage := ⟨st.entries.filter (·.1 != p)⟩

/-- Set what stands at a path. -/
def set (st : Storage) (p : Path) (e : StorageEntry) : Storage := ⟨(st.without p).entries ++ [(p, e)]⟩

/-- Where a path leads. -/
inductive Target where
  | found (p : Path)
  /-- Nothing is there, but the folder that it would be in is. -/
  | free (p : Path)
  deriving DecidableEq, Repr

/-- What a path is followed for. -/
inductive Purpose where
  /-- What stands at the path, be it a link. -/
  | entry
  /-- What a link at the path leads to. -/
  | content
  /-- The same, as a file to be written: a slash at the end makes it a folder. -/
  | writing
  deriving DecidableEq, Repr

/-- How many links may be followed on one way. -/
def maxLinks : Nat := 40

/-- The most bytes that a component may have. -/
def maxName : Nat := 255

/-- The most bytes that a path may have. -/
def maxPath : Nat := 4095

/-- Go on from a folder over the components of a path. -/
def resolveFrom (st : Storage) (purpose : Purpose) (links : Nat) (here : Path) :
    List Text → Except StorageFault Target
  | [] => .ok (.found here)
  | c :: rest =>
    if st.entry? here != some .folder then .error .noFolder
    else if c = [] ∨ c = ['.'] then resolveFrom st purpose links here rest
    else if c = ['.', '.'] then resolveFrom st purpose links here.dropLast rest
    else if purpose = .writing ∧ rest = [[]] then .error .isFolder
    else if maxName < byteLength c then .error .nameTooLong
    else
      match st.entry? (here ++ [c]) with
      | none => if rest.isEmpty then .ok (.free (here ++ [c])) else .error .missing
      | some (.link target) =>
        if rest.isEmpty && purpose = .entry then .ok (.found (here ++ [c]))
        else
          match links with
          | 0 => .error .linkLoop
          | n + 1 =>
            resolveFrom st purpose n (if target.head? = some '/' then [] else here)
              (Path.ofText target ++ rest)
      | some _ => resolveFrom st purpose links (here ++ [c]) rest
termination_by todo => (links, todo.length)

/-- Where a path leads, the path as it is written. -/
def resolve (st : Storage) (purpose : Purpose) (path : Text) : Except StorageFault Target :=
  if path.isEmpty then .error .missing
  else if path.contains '\x00' then .error .nullInPath
  else if maxPath < byteLength path then .error .nameTooLong
  else st.resolveFrom purpose maxLinks [] (Path.ofText path)

def present (st : Storage) (path : Text) : Bool :=
  match st.resolve .content path with
  | .ok (.found _) => true
  | _ => false

def isFolder (st : Storage) (path : Text) : Bool :=
  match st.resolve .content path with
  | .ok (.found p) => st.entry? p == some .folder
  | _ => false

def read (st : Storage) (path : Text) : Except StorageFault (List UInt8) := do
  match ← st.resolve .content path with
  | .free _ => .error .missing
  | .found p =>
    match st.entry? p with
    | some (.file bytes) => .ok bytes
    | some _ => .error .isFolder
    | none => .error .missing

/-- The folder that a path stands in, as it is written. -/
def parentOf (path : Text) : Text := joinWith ['/'] (Path.steps path).dropLast

/-- The text of bytes, if they are one. -/
def decode? (bytes : List UInt8) : Option Text := (String.fromUTF8? ⟨bytes.toArray⟩).map String.toList

def readText (st : Storage) (path : Text) : Except StorageFault Text := do
  match decode? (← st.read path) with
  | some s => .ok s
  | none => .error .noText

/-- Write a file, in the place of one that is there. -/
def write (st : Storage) (path : Text) (bytes : List UInt8) : Except StorageFault Storage := do
  match ← st.resolve .writing path with
  | .free p => .ok (st.set p (.file bytes))
  | .found p => if st.entry? p = some .folder then .error .isFolder else .ok (st.set p (.file bytes))

def createFolder (st : Storage) (path : Text) : Except StorageFault Storage := do
  match ← st.resolve .entry path with
  | .free p => .ok (st.set p .folder)
  | .found _ => .error .taken

def createLink (st : Storage) (path target : Text) : Except StorageFault Storage := do
  match ← st.resolve .entry path with
  | .free p => .ok (st.set p (.link target))
  | .found _ => .error .taken

/-- Create a folder unless it is there. -/
def ensureFolder (st : Storage) (path : Text) : Except StorageFault Storage :=
  match st.createFolder path with
  | .ok st => .ok st
  | .error e => if st.isFolder path then .ok st else .error e

/-- A storage after a change, with the fault that ended the change early, if one did. -/
structure Changed (ε : Type) where
  storage : Storage
  fault : Option ε

/-- One more step of a change. -/
def Changed.andThen {ε : Type} (c : Changed ε) (step : Storage → Except ε Storage) : Changed ε :=
  match c.fault with
  | some _ => c
  | none =>
    match step c.storage with
    | .ok st => ⟨st, none⟩
    | .error e => ⟨c.storage, some e⟩

def Changed.mapFault {ε δ : Type} (f : ε → δ) (c : Changed ε) : Changed δ := ⟨c.storage, c.fault.map f⟩

/-- Create a folder with all folders around it that are missing; the components come last one first. -/
def createFoldersTo (st : Storage) : List Text → Changed StorageFault
  | [] => ⟨st, none⟩
  | c :: outer =>
    let path := joinWith ['/'] (c :: outer).reverse
    match st.ensureFolder path with
    | .ok st => ⟨st, none⟩
    | .error .missing => (createFoldersTo st outer).andThen (·.ensureFolder path)
    | .error e => ⟨st, some e⟩

def createFolders (st : Storage) (path : Text) : Changed StorageFault :=
  st.createFoldersTo (Path.steps path).reverse

/-- Remove a file or a link. None if there is neither. -/
def remove? (st : Storage) (path : Text) : Option Storage :=
  match st.resolve .entry path with
  | .ok (.found p) => if st.entry? p = some .folder then none else some (st.without p)
  | _ => none

/-- The names in a folder with what they stand for. -/
def contents (st : Storage) (folder : Path) : List (Text × StorageEntry) :=
  st.entries.filterMap fun (p, e) =>
    if p.dropLast = folder then p.getLast?.map fun name => (name, e) else none

/-- The files in a folder and in all folders below it, links followed, each by the names that lead to it. A
link to a folder that is being looked through already is passed over, which is why the steps suffice. -/
def filesFrom (st : Storage) : Nat → List Path → Path → List Path
  | 0, _, _ => []
  | n + 1, around, folder =>
    let below (p : Path) : List Path := filesFrom st n (folder :: around) p
    (st.contents folder).flatMap fun (name, e) =>
      match e with
      | .file _ => [[name]]
      | .folder => (below (folder ++ [name])).map (name :: ·)
      | .link _ =>
        match st.resolveFrom .content maxLinks folder [name] with
        | .ok (.found p) =>
          match st.entry? p with
          | some (.file _) => [[name]]
          | some .folder => if (folder :: around).contains p then [] else (below p).map (name :: ·)
          | _ => []
        | _ => []

/-- The files under a path by the names that lead to them from there: none for what is no folder, and the
empty path for a file itself. -/
def filesUnder (st : Storage) (path : Text) : List Path :=
  match st.resolve .content path with
  | .ok (.found p) =>
    match st.entry? p with
    | some (.file _) => [[]]
    | some .folder => st.filesFrom ((st.entries.length + 1) * (st.entries.length + 1)) [] p
    | _ => []
  | _ => []

end Storage

end ResponsiveMarkup
