import ResponsiveMarkup.Json.Number

/-!
Passing over a value of no interest. Its form is checked, to any depth: the open brackets are kept in a list,
so nothing limits them.
-/

namespace ResponsiveMarkup.Json.Reader

inductive Bracket where
  | list
  | object
  deriving DecidableEq, Repr

def Bracket.closing : Bracket → Char
  | list => ']'
  | object => '\x7d'

/-- What precedes a value inside a bracket: nothing in a list, a key and a colon in an object. -/
def skipKey : Bracket → Reader Unit
  | .list => pure ()
  | .object => do
    match ← peek with
    | none => fail .endInObject
    | some '"' => do
      let _ ← next
      let _ ← chars false
      colon
    | some _ => fail .keyNotString

/-- Close brackets until another value follows. The innermost bracket stands first in the answer, which is
empty when all are closed. `fresh` says that the innermost bracket was just opened. -/
def unwind (fresh : Bool) (pending : List Bracket) (s : Text) : Except Fault (Outcome (List Bracket) s) :=
  match pending with
  | [] => .ok ⟨[], s, Nat.le_refl _⟩
  | b :: outer =>
    match h : s.dropWhile isJsonBlank with
    | [] => .error (match b with | .list => .endInList | .object => .endInObject)
    | c :: r =>
      have short : r.length < s.length := lt_of_dropWhile h
      if c = b.closing then
        match unwind false outer r with
        | .error e => .error e
        | .ok ⟨left, t, le⟩ => .ok ⟨left, t, by omega⟩
      else if c = ',' ∧ fresh = false then
        match skipKey b r with
        | .error e => .error e
        | .ok ⟨_, t, le⟩ => .ok ⟨b :: outer, t, by omega⟩
      else if fresh then
        match skipKey b (c :: r) with
        | .error e => .error e
        | .ok ⟨_, t, le⟩ => .ok ⟨b :: outer, t, by simp only [List.length_cons] at le; omega⟩
      else .error (match b with | .list => .expectedCommaOrBracket | .object => .expectedCommaOrBrace)

/-- A value that is no list or object, after its first character. -/
def skipScalar (c : Char) : Reader Unit :=
  if c = 'n' then ident "ull".toList
  else if c = 't' then ident "rue".toList
  else if c = 'f' then ident "alse".toList
  else if c = '"' then do
    let _ ← chars false
  else if isDigit c ∨ c = '-' then skipNumber c
  else fail .expectedValue

/-- Pass over values until every open bracket is closed. -/
def skipInside (pending : List Bracket) (s : Text) : Except Fault (Outcome Unit s) :=
  match h : s.dropWhile isJsonBlank with
  | [] => .error .endInValue
  | c :: r =>
    have short : r.length < s.length := lt_of_dropWhile h
    let opened : Except Fault (Outcome (List Bracket) r) :=
      if c = '[' then unwind true (.list :: pending) r
      else if c = '\x7b' then unwind true (.object :: pending) r
      else
        match skipScalar c r with
        | .error e => .error e
        | .ok ⟨_, t, le⟩ =>
          match unwind false pending t with
          | .error e => .error e
          | .ok ⟨left, u, le'⟩ => .ok ⟨left, u, by omega⟩
    match opened with
    | .error e => .error e
    | .ok ⟨[], t, le⟩ => .ok ⟨(), t, by omega⟩
    | .ok ⟨b :: outer, t, le⟩ =>
      match skipInside (b :: outer) t with
      | .error e => .error e
      | .ok ⟨_, u, le'⟩ => .ok ⟨(), u, by omega⟩
termination_by s.length
decreasing_by omega

/-- Pass over one value. -/
def skip : Reader Unit := skipInside []

end ResponsiveMarkup.Json.Reader
