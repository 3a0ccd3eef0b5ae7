import ResponsiveMarkup.Json.Skip
import ResponsiveMarkup.Json.Value

/-!
Data of a known shape. A record is an object of named fields, or a list of its fields in the order they are
declared in; unknown fields are passed over, and a field left out keeps its default. The same shapes are read
from a text and, where a value had to be kept whole first, from a value.
-/

namespace ResponsiveMarkup.Json

/-- A field of a record, with whatever reads it. -/
structure RecordField (ρ : Type) where
  name : String
  aliases : List String
  required : Bool
  read : ρ

/-- A record: what faults call it, its fields in order, and its value before any field is read. -/
structure Schema (ρ σ : Type) where
  title : String
  fields : List (RecordField ρ)
  start : σ

def RecordField.answersTo {ρ : Type} (f : RecordField ρ) (key : Text) : Bool :=
  (f.name :: f.aliases).any (·.toList == key)

namespace Schema

variable {ρ σ : Type}

def field? (s : Schema ρ σ) (key : Text) : Option (RecordField ρ) := s.fields.find? (·.answersTo key)

/-- The first required field that was not seen. -/
def missing? (s : Schema ρ σ) (seen : List String) : Option String :=
  (s.fields.find? fun f => f.required && !seen.contains f.name).map (·.name)

def tooShort (s : Schema ρ σ) (length : Nat) : Fault :=
  .wrongLength length (s.title ++ " with " ++ elementCount s.fields.length)

end Schema

/-- How many lists and objects may stand inside each other. -/
def maxNesting : Nat := 127

/-- An optional field: its value is put into the record by `set`. -/
def field {α σ : Type} (name : String) (read : Reader α) (set : α → σ → σ) : RecordField (Reader (σ → σ)) :=
  ⟨name, [], false, do return set (← read)⟩

def requiredField {α σ : Type} (name : String) (read : Reader α) (set : α → σ → σ) :
    RecordField (Reader (σ → σ)) :=
  { field name read set with required := true }

/-- A field of a value that was kept whole. -/
def part {α σ : Type} (name : String) (read : Value → Except Fault α) (set : α → σ → σ) :
    RecordField (Value → Except Fault (σ → σ)) :=
  ⟨name, [], false, fun v => (read v).map set⟩

/-- One of a fixed set of names, some of which mean the same. -/
structure Variant (α : Type) where
  names : List String
  value : α

/-- The variant of a name; an unknown name is a fault unless something stands for all of them. -/
def chooseVariant {α : Type} (variants : List (Variant α)) (other : Option α) (name : Text) :
    Except Fault α :=
  match variants.find? fun v => v.names.any (·.toList == name), other with
  | some v, _ => .ok v.value
  | none, some a => .ok a
  | none, none => .error (.unknownVariant name (variants.flatMap (·.names)))

/-- A whole number of a bounded type. -/
def boundedNat (greatest : Nat) (expected : String) : Number → Except Fault Nat
  | .whole n => if n ≤ greatest then .ok n else .error (.wrongInteger n expected)
  | .negative n => .error (.wrongInteger (-n) expected)
  | .float x => .error (.wrongType (.float x) expected)

namespace Reader

variable {α σ : Type}

def lift : Except Fault α → Reader α
  | .error e => fail e
  | .ok a => pure a

/-- A text of JSON characters; `expected` names what it stands for. -/
def textOf (expected : String) : Reader Text := do
  match ← peek with
  | none => fail .endInValue
  | some '"' => do
    let _ ← next
    chars true
  | some _ => unexpected expected

def text : Reader Text := textOf "a string"

def string : Reader String := do return String.ofList (← text)

def bool : Reader Bool := do
  match ← peek with
  | none => fail .endInValue
  | some 't' => do
    let _ ← next
    ident "rue".toList
    return true
  | some 'f' => do
    let _ ← next
    ident "alse".toList
    return false
  | some _ => unexpected "a boolean"

def numberOf (expected : String) : Reader Number := do
  match ← peek with
  | none => fail .endInValue
  | some c => if isDigit c ∨ c = '-' then number else unexpected expected

def float : Reader Float := do return (← numberOf "f64").toFloat

def nat (greatest : Nat) (expected : String) : Reader Nat := do
  lift (boundedNat greatest expected (← numberOf expected))

def word64 : Reader Nat := nat (Nat.pow 2 64 - 1) "u64"

def word32 : Reader Nat := nat (Nat.pow 2 32 - 1) "u32"

/-- A value or `null`. -/
def optional (r : Reader α) : Reader (Option α) := do
  match ← peek with
  | some 'n' => do
    let _ ← next
    ident "ull".toList
    return none
  | _ => return some (← r)

/-- What is read one level further down, if there is room for it. -/
def inside (room : Nat) (f : Nat → α) : Option α :=
  match room with
  | 0 => none
  | r + 1 => some (f r)

/-- A list. There is no reader for its elements when it would be nested too deeply. -/
def list (item : Option (Reader α)) : Reader (List α) := do
  match ← peek with
  | none => fail .endInValue
  | some '[' =>
    match item with
    | none => fail .tooDeep
    | some item => do
      let _ ← next
      let items ← elements item
      endList
      return items
  | some _ => unexpected "a sequence"

/-- The member of a record, its value applied to what was read so far. -/
def recordMember (schema : Schema (Reader (σ → σ)) σ) (acc : σ × List String) (key : Text) :
    Reader (σ × List String) := do
  match schema.field? key with
  | none => do
    colon
    skip
    return acc
  | some f =>
    if acc.2.contains f.name then fail (.duplicateField f.name)
    else do
      colon
      let set ← f.read
      return (set acc.1, f.name :: acc.2)

/-- The fields of a record in their order; `count` of them are read. -/
def recordElements (schema : Schema (Reader (σ → σ)) σ) (count : Nat) (acc : σ) :
    List (RecordField (Reader (σ → σ))) → Reader σ
  | [] => return acc
  | f :: fs => do
    if ← hasElement (count == 0) then
      let set ← f.read
      recordElements schema (count + 1) (set acc) fs
    else
      match (f :: fs).findIdx? (·.required) with
      | some i => fail (schema.tooShort (count + i))
      | none => return acc

/-- A record. There is no schema when it would be nested too deeply. -/
def record (title : String) (schema : Option (Schema (Reader (σ → σ)) σ)) : Reader σ := do
  match ← peek with
  | none => fail .endInValue
  | some '[' =>
    match schema with
    | none => fail .tooDeep
    | some schema => do
      let _ ← next
      let a ← recordElements schema 0 schema.start schema.fields
      endList
      return a
  | some '\x7b' =>
    match schema with
    | none => fail .tooDeep
    | some schema => do
      let _ ← next
      let (a, seen) ← members (recordMember schema) (schema.start, [])
      match schema.missing? seen with
      | some name => fail (.missingField name)
      | none => do
        let _ ← next
        return a
  | some _ => unexpected title

/-- The only key of an object, after its opening brace. -/
def onlyKey : Reader Text := do
  match ← peek with
  | none => fail .endInObject
  | some '"' => do
    let _ ← next
    chars true
  | some '\x7d' => fail .expectedValue
  | some _ => fail .keyNotString

/-- One of a set of names: a string, or an object with the name as its only key and `null` as its value. -/
def variant (room : Nat) (variants : List (Variant α)) (other : Option α) : Reader α := do
  match ← peek with
  | none => fail .endInValue
  | some '"' => do lift (chooseVariant variants other (← text))
  | some '\x7b' =>
    match room with
    | 0 => fail .tooDeep
    | _ + 1 => do
      let _ ← next
      let a ← lift (chooseVariant variants other (← onlyKey))
      colon
      match ← peek with
      | none => fail .endInValue
      | some 'n' => do
        let _ ← next
        ident "ull".toList
      | some _ => unexpected "unit"
      match ← peek with
      | none => fail .endInObject
      | some '\x7d' => do
        let _ ← next
        return a
      | some _ => fail .expectedValue
  | some _ => fail .expectedValue

/-- An object from names to values, each key handed on with its value as it is read. -/
def mapOf (item : Option (Reader α)) (insert : σ → Text → α → σ) (start : σ) : Reader σ := do
  match ← peek with
  | none => fail .endInValue
  | some '\x7b' =>
    match item with
    | none => fail .tooDeep
    | some item => do
      let _ ← next
      let a ← members (fun acc key => do
        colon
        let v ← item
        return insert acc key v) start
      let _ ← next
      return a
  | some _ => unexpected "a map"

end Reader

namespace Value

variable {α σ : Type}

def float : Value → Except Fault Float
  | number n => .ok n.toFloat
  | v => .error (.wrongType v.found "f64")

def text : Value → Except Fault String
  | string s => .ok (String.ofList s)
  | v => .error (.wrongType v.found "a string")

def optional (read : Value → Except Fault α) : Value → Except Fault (Option α)
  | null => .ok none
  | v => (read v).map some

def listOf (read : Value → Except Fault α) : Value → Except Fault (List α)
  | list items => items.mapM read
  | v => .error (.wrongType v.found "a sequence")

def recordMembers (schema : Schema (Value → Except Fault (σ → σ)) σ) :
    List (Text × Value) → σ × List String → Except Fault σ
  | [], acc =>
    match schema.missing? acc.2 with
    | some name => .error (.missingField name)
    | none => .ok acc.1
  | (key, v) :: rest, acc =>
    match schema.field? key with
    | none => recordMembers schema rest acc
    | some f =>
      if acc.2.contains f.name then .error (.duplicateField f.name)
      else
        match f.read v with
        | .error e => .error e
        | .ok set => recordMembers schema rest (set acc.1, f.name :: acc.2)

/-- Elements as fields in their order; those beyond the last field are too many. -/
def recordItems (schema : Schema (Value → Except Fault (σ → σ)) σ) (count : Nat) (acc : σ) :
    List (RecordField (Value → Except Fault (σ → σ))) → List Value → Except Fault σ
  | [], [] => .ok acc
  | [], extra => .error (.wrongLength (count + extra.length) (elementCount count ++ " in sequence"))
  | f :: fs, [] =>
    match (f :: fs).findIdx? (·.required) with
    | some i => .error (schema.tooShort (count + i))
    | none => .ok acc
  | f :: fs, v :: vs =>
    match f.read v with
    | .error e => .error e
    | .ok set => recordItems schema (count + 1) (set acc) fs vs

def record (schema : Schema (Value → Except Fault (σ → σ)) σ) : Value → Except Fault σ
  | object pairs => recordMembers schema pairs (schema.start, [])
  | list items => recordItems schema 0 schema.start schema.fields items
  | v => .error (.wrongType v.found schema.title)

end Value

end ResponsiveMarkup.Json
