import ConfigReader.Number.Shortest

/-!
# Decimal text with a given number of places

A fraction is written with a given number of digits behind the point, or with a
given number of digits in all and an exponent.  The last digit is rounded on the
exact fraction, a half to the even digit.  The *general* layout has a given number
of digits and is positional for exponents from `-4` up to that number, and drops
zeros at the end.

A layout may be *full*: then it keeps its zeros, and its point even if no digit
follows.
-/

namespace ConfigReader

/-- The least number of digits for a natural number. -/
def Text.digitsOf (width n : Nat) : Text :=
  let digits := Text.ofNat n
  Text.replicate (width - digits.length) "0" ++ digits

/-- A whole part and a fraction with the point between them. -/
def pointed (full : Bool) (whole fraction : Text) : Text :=
  if fraction.isEmpty && !full then whole else whole ++ ("." : Text) ++ fraction

/-- The fraction `num / den` with digits behind the point. -/
def fixedText (full : Bool) (places num den : Nat) : Text :=
  let digits := Text.digitsOf (places + 1) (roundDiv (num * Nat.pow 10 places) den)
  let split := digits.length - places
  pointed full (digits.take split) (digits.drop split)

/-- The fraction `num / den` in units of `10 ^ p`, rounded. -/
def inUnits (num den : Nat) (p : Int) : Nat :=
  match p with
  | .ofNat e => roundDiv num (den * Nat.pow 10 e)
  | .negSucc e => roundDiv (num * Nat.pow 10 (e + 1)) den

/-- The first digits of the fraction `num / den`, and the exponent of the first one. -/
def leadingDigits (count num den : Nat) : Text × Int :=
  if num = 0 then (Text.replicate count "0", 0)
  else
    let exponent := Binary64.decimalPoint num den - 1
    let k := inUnits num den (exponent + 1 - count)
    if k = Nat.pow 10 count then (Text.ofNat (k / 10), exponent + 1)
    else (Text.ofNat k, exponent)

/-- An exponent with its sign and two digits at least. -/
def exponentText (exponent : Int) : Text :=
  (if exponent < 0 then "e-" else "e+") ++ Text.digitsOf 2 exponent.natAbs

/-- The fraction `num / den` with one digit before the point, digits behind it, and an
exponent. -/
def scientificText (full : Bool) (places num den : Nat) : Text :=
  let (digits, exponent) := leadingDigits (places + 1) num den
  pointed full (digits.take 1) (digits.drop 1) ++ exponentText exponent

/-- The fraction `num / den` in the general layout. -/
def generalText (full : Bool) (count num den : Nat) : Text :=
  let count := max count 1
  let (digits, exponent) := leadingDigits count num den
  let trim (fraction : Text) : Text :=
    if full then fraction else fraction.dropEndWhile (· = .scalar '0')
  if exponent < -4 || exponent ≥ count then
    pointed full (digits.take 1) (trim (digits.drop 1)) ++ exponentText exponent
  else if exponent < 0 then
    pointed full "0" (trim (Text.replicate (exponent.natAbs - 1) "0" ++ digits))
  else
    let split := exponent.toNat + 1
    pointed full (digits.take split) (trim (digits.drop split))

end ConfigReader
