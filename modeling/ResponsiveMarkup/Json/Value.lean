import ResponsiveMarkup.Json.Number

/-!
JSON values of any shape, with their members in the order they are written in and nothing left out.
-/

namespace ResponsiveMarkup.Json

inductive Value where
  | null
  | bool (value : Bool)
  | number (value : Number)
  | string (value : Text)
  | list (items : List Value)
  | object (members : List (Text × Value))

def Value.found : Value → Found
  | null => .null
  | bool value => .bool value
  | number value => value.found
  | string value => .string value
  | list _ => .sequence
  | object _ => .map

namespace Reader

/-- A value that is no list or object. -/
def scalar : Reader Value := do
  match ← peek with
  | none => fail .endInValue
  | some c =>
    if c = '"' then do
      let _ ← next
      return .string (← chars true)
    else if isDigit c ∨ c = '-' then return .number (← number)
    else if c = 'n' then do
      let _ ← next
      ident "ull".toList
      return .null
    else if c = 't' then do
      let _ ← next
      ident "rue".toList
      return .bool true
    else if c = 'f' then do
      let _ ← next
      ident "alse".toList
      return .bool false
    else fail .expectedValue

/-- A value of any shape, with room for a number of nested lists and objects. -/
def value : Nat → Reader Value
  | 0 => do
    match ← peek with
    | some '[' | some '\x7b' => fail .tooDeep
    | _ => scalar
  | room + 1 => do
    match ← peek with
    | some '[' => do
      let _ ← next
      let items ← elements (value room)
      endList
      return .list items
    | some '\x7b' => do
      let _ ← next
      let pairs ← members (fun acc key => do
        colon
        let v ← value room
        return acc ++ [(key, v)]) []
      let _ ← next
      return .object pairs
    | _ => scalar

/-- The fault of a value that has not the expected shape. A list or an object is not looked into. -/
def unexpected {α : Type} (expected : String) : Reader α := do
  match ← peek with
  | some '[' => fail (.wrongType .sequence expected)
  | some '\x7b' => fail (.wrongType .map expected)
  | _ =>
    let v ← scalar
    fail (.wrongType v.found expected)

end Reader

end ResponsiveMarkup.Json
