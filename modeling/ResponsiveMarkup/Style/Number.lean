import ResponsiveMarkup.Number.Notation

/-!
Numbers in style tokens: at most three decimals, trailing zeros dropped, and nothing but digits, a point and a
minus sign whatever the double. The double is scaled before it is rounded, so a half is a half of the scaled
value. From ten to the twelfth on numbers are whole.
-/

namespace ResponsiveMarkup.Style

open Text

/-- From this magnitude on no decimals are written. -/
def wholeFrom : Nat := Nat.pow 10 12

/-- A number of thousandths as a decimal. -/
def thousandths (n : Nat) : Text :=
  let digits := Nat.toDigits 10 (n % 1000)
  let places := (List.replicate (3 - digits.length) '0' ++ digits).reverse.dropWhile (· == '0')
  Nat.toDigits 10 (n / 1000) ++ (if places.isEmpty then [] else '.' :: places.reverse)

def signed (negative : Bool) (magnitude : Text) : Text :=
  if negative then '-' :: magnitude else magnitude

/-- Values that are no number are written as zero, and zero has no sign. -/
def number (x : Float) : Text :=
  match Binary64.ofFloat x with
  | .finite negative m q =>
    let (num, den) := Binary64.fraction m q 0
    if wholeFrom * den ≤ num then signed negative (Nat.toDigits 10 (roundDiv .toEven num den))
    else
      match Binary64.ofFloat (x * 1000) with
      | .finite negative m q =>
        let (num, den) := Binary64.fraction m q 0
        let n := roundDiv .away num den
        signed (negative && n != 0) (thousandths n)
      | _ => ['0']
  | _ => ['0']

def px (x : Float) : Text := number x ++ "px".toList

/-- A payload for square brackets: each run of blanks becomes one underscore. -/
def arbitrary (s : Text) : Text := joinWith ['_'] (words s)

/-- A token that carries a payload. -/
def bracketed (name : String) (payload : Text) : Text := name.toList ++ "-[".toList ++ payload ++ [']']

end ResponsiveMarkup.Style
