import ConfigReader.Number.Decimal

/-!
# Binary floating point

Numbers of 64 bits as sign, significand and exponent.  A finite number stands for
`significand * 2 ^ exponent`, with a significand below `2 ^ 53` and an exponent
between `-1074` and `971`.  Among several ways to write a number the constructors
here choose the one with the largest significand.

All arithmetic goes through `ofRatio`, which rounds a fraction to the nearest
number, a tie to the even one.  It works on natural numbers only, so every
function of the module can be computed by the kernel.
-/

namespace ConfigReader

/-- A binary floating point number of 64 bits. -/
inductive Binary64 where
  /-- `significand * 2 ^ exponent`, with a sign. -/
  | finite (negative : Bool) (significand : Nat) (exponent : Int)
  /-- Infinity, with a sign. -/
  | infinite (negative : Bool)
  /-- Not a number. -/
  | nan
deriving DecidableEq

/-- A quotient rounded to the nearest natural number, a tie to the even one. -/
def roundDiv (num den : Nat) : Nat :=
  let q := num / den
  let r := num % den
  if 2 * r < den then q
  else if den < 2 * r then q + 1
  else q + q % 2

namespace Binary64

/-- Zero, with a sign. -/
def zero (negative : Bool) : Binary64 := .finite negative 0 (-1074)

/-- `num / den / 2 ^ e` as a fraction of natural numbers. -/
def scaled (num den : Nat) (e : Int) : Nat × Nat :=
  match e with
  | .ofNat k => (num, den * Nat.pow 2 k)
  | .negSucc k => (num * Nat.pow 2 (k + 1), den)

/-- The number nearest to a fraction, a tie going to the even significand. -/
def ofRatio (negative : Bool) (num den : Nat) : Binary64 :=
  if num == 0 || den == 0 then zero negative
  else
    let guess : Int := (num.log2 : Int) - den.log2 - 52
    let (n, d) := scaled num den guess
    let exact := if n / d < Nat.pow 2 52 then guess - 1 else guess
    let e := max exact (-1074)
    let (n, d) := scaled num den e
    let m := roundDiv n d
    let (m, e) := if m == Nat.pow 2 53 then (Nat.pow 2 52, e + 1) else (m, e)
    if e > 971 then .infinite negative else .finite negative m e

/-- A finite number as a fraction. -/
def ratio (significand : Nat) (exponent : Int) : Nat × Nat :=
  match exponent with
  | .ofNat k => (significand * Nat.pow 2 k, 1)
  | .negSucc k => (significand, Nat.pow 2 (k + 1))

/-- The number nearest to an integer. -/
def ofInt (n : Int) : Binary64 := ofRatio (n < 0) n.natAbs 1

/-- The number nearest to `digits * 10 ^ exponent`. -/
def ofDecimal (negative : Bool) (digits : Nat) (exponent : Int) : Binary64 :=
  if digits == 0 then zero negative
  else
    let size : Int := (Nat.toDigits 10 digits).length + exponent
    if size > 400 then .infinite negative
    else if size < -400 then zero negative
    else match exponent with
      | .ofNat k => ofRatio negative (digits * Nat.pow 10 k) 1
      | .negSucc k => ofRatio negative digits (Nat.pow 10 (k + 1))

/-- Half of a number. -/
def half : Binary64 → Binary64
  | .finite negative m e =>
      let (n, d) := ratio m e
      ofRatio negative n (2 * d)
  | x => x

/-- The number has a minus sign. -/
def isNegative : Binary64 → Bool
  | .finite negative _ _ => negative
  | .infinite negative => negative
  | .nan => false

/-- The number with the other sign. -/
def neg : Binary64 → Binary64
  | .finite negative m e => .finite (!negative) m e
  | .infinite negative => .infinite (!negative)
  | .nan => .nan

/-- Neither infinite nor `nan`. -/
def isFinite : Binary64 → Bool
  | .finite .. => true
  | _ => false

/-- Zero of either sign. -/
def isZero : Binary64 → Bool
  | .finite _ m _ => m == 0
  | _ => false

/-- The product of two numbers. -/
def mul : Binary64 → Binary64 → Binary64
  | .finite s m e, .finite t n f =>
      let (a, b) := ratio m e
      let (c, d) := ratio n f
      ofRatio (s != t) (a * c) (b * d)
  | .nan, _ => .nan
  | _, .nan => .nan
  | x, y => if x.isZero || y.isZero then .nan else .infinite (x.isNegative != y.isNegative)

/-- The sum of two numbers. -/
def add : Binary64 → Binary64 → Binary64
  | .finite s m e, .finite t n f =>
      let (a, b) := ratio m e
      let (c, d) := ratio n f
      let left : Int := a * d
      let right : Int := c * b
      let sum := (if s then -left else left) + (if t then -right else right)
      if sum = 0 then zero (s && t) else ofRatio (sum < 0) sum.natAbs (b * d)
  | .infinite s, .infinite t => if s = t then .infinite s else .nan
  | .infinite s, .finite .. => .infinite s
  | .finite .., .infinite t => .infinite t
  | .nan, _ => .nan
  | _, .nan => .nan

/-- The integer a number stands for, if it stands for one. -/
def toInt? : Binary64 → Option Int
  | .finite negative m e =>
      let (n, d) := ratio m e
      if n % d == 0 then some (if negative then -(n / d : Nat) else (n / d : Nat)) else none
  | _ => none

end Binary64

end ConfigReader
