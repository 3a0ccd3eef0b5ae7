import ResponsiveMarkup.Json.Reader

/-!
Numbers of a JSON text. Whole numbers of up to 64 bits stay whole; all others become doubles from a 64-bit
significand and a power of ten, each step rounded on its own, so that the last digit may differ from the
nearest double's.
-/

namespace ResponsiveMarkup.Json

inductive Number where
  | whole (n : Nat)
  /-- `-n` for a positive `n`. -/
  | negative (n : Nat)
  | float (x : Float)

namespace Number

def toFloat : Number → Float
  | whole n => n.toUInt64.toFloat
  | negative n => -n.toUInt64.toFloat
  | float x => x

def found : Number → Found
  | whole n => .integer n
  | negative n => .integer (-n)
  | float x => .float x

end Number

namespace Reader

def isDigit (c : Char) : Bool := '0' ≤ c && c ≤ '9'

def digitValue (c : Char) : Nat := c.toNat - 48

/-- The greatest significand. -/
def maxWord : Nat := Nat.pow 2 64 - 1

/-- A significand takes in digits while it fits a word; the digits left over are returned. -/
def takeIn (significand : Nat) : Text → Nat × Text
  | [] => (significand, [])
  | c :: cs =>
    let next := significand * 10 + digitValue c
    if next ≤ maxWord then takeIn next cs else (significand, c :: cs)

def tenTo (n : Nat) : Float := Float.ofScientific 1 false n

/-- Divide by ten to the `n`, in steps that a double can hold. -/
def divideByTen (f : Float) (n : Nat) : Float :=
  if n ≤ 308 then f / tenTo n
  else if f == 0 then f
  else divideByTen (f / tenTo 308) (n - 308)
termination_by n
decreasing_by omega

/-- `significand · 10 ^ exponent`, unless it is beyond the doubles. -/
def scaled (negative : Bool) (significand : Nat) (exponent : Int) : Reader Number :=
  let f := significand.toUInt64.toFloat
  let result (x : Float) : Reader Number := pure (.float (if negative then -x else x))
  if exponent < 0 then result (divideByTen f exponent.natAbs)
  else if exponent ≤ 308 then
    let x := f * tenTo exponent.natAbs
    if x.isInf then fail .numberOutOfRange else result x
  else if significand = 0 then result f
  else fail .numberOutOfRange

/-- The exponent after its letter. One that does not fit 31 bits is as good as infinite. -/
def exponentPart (negative : Bool) (significand : Nat) (start : Int) : Reader Number := do
  let sign ← front
  if sign = some '+' ∨ sign = some '-' then
    let _ ← next
  match ← next with
  | none => fail .endInValue
  | some c =>
    if !isDigit c then fail .invalidNumber
    else do
      let more ← takeWhile isDigit
      let size := (c :: more).foldl (fun n d => n * 10 + digitValue d) 0
      if size < Nat.pow 2 31 then
        scaled negative significand (if sign = some '-' then start - size else start + size)
      else if significand ≠ 0 ∧ sign ≠ some '-' then fail .numberOutOfRange
      else pure (.float (if negative then -0.0 else 0.0))

/-- An exponent if one follows, else the number as it stands. -/
def afterDigits (negative : Bool) (significand : Nat) (exponent : Int) : Reader Number := do
  match ← front with
  | some 'e' | some 'E' => do
    let _ ← next
    exponentPart negative significand exponent
  | _ => scaled negative significand exponent

/-- The digits after a point. Those that no longer fit the significand are passed over. -/
def fractionPart (negative : Bool) (significand : Nat) (exponent : Int) : Reader Number := do
  let digits ← takeWhile isDigit
  let (full, surplus) := takeIn significand digits
  if digits.isEmpty then
    match ← front with
    | none => fail .endInValue
    | some _ => fail .invalidNumber
  else afterDigits negative full (exponent - (digits.length - surplus.length))

/-- A number after its minus sign, if it has one. -/
def unsigned (negative : Bool) : Reader Number := do
  match ← next with
  | none => fail .endInValue
  | some c =>
    if !isDigit c then fail .invalidNumber
    else do
      let more ← if c = '0' then pure [] else takeWhile isDigit
      let following ← front
      if c = '0' ∧ following.any isDigit then fail .invalidNumber
      else
        let (significand, surplus) := takeIn 0 (c :: more)
        if following = some '.' then do
          let _ ← next
          fractionPart negative significand surplus.length
        else if following = some 'e' ∨ following = some 'E' then do
          let _ ← next
          exponentPart negative significand surplus.length
        else if !surplus.isEmpty then scaled negative significand surplus.length
        else if !negative then return .whole significand
        else if significand = 0 ∨ Nat.pow 2 63 < significand then return .float (-significand.toUInt64.toFloat)
        else return .negative significand

/-- A number, the next character being a digit or a minus sign. -/
def number : Reader Number := do
  if (← front) = some '-' then
    let _ ← next
    unsigned true
  else unsigned false

/-- Digits, of which there must be one. -/
def someDigits : Reader Unit := do
  match ← next with
  | some c => if isDigit c then do let _ ← takeWhile isDigit else fail .invalidNumber
  | none => fail .invalidNumber

/-- A number that is passed over, after its first digit: its form is checked and nothing else. -/
def skipUnsigned (c : Char) : Reader Unit := do
  if !isDigit c then fail .invalidNumber
  else if c = '0' then
    if (← front).any isDigit then fail .invalidNumber
  else
    let _ ← takeWhile isDigit
  if (← front) = some '.' then
    let _ ← next
    someDigits
  let following ← front
  if following = some 'e' ∨ following = some 'E' then
    let _ ← next
    let sign ← front
    if sign = some '+' ∨ sign = some '-' then
      let _ ← next
    someDigits

/-- A number that is passed over, after its first character. -/
def skipNumber (c : Char) : Reader Unit := do
  if c = '-' then
    match ← next with
    | some d => skipUnsigned d
    | none => fail .invalidNumber
  else skipUnsigned c

end Reader

end ResponsiveMarkup.Json
