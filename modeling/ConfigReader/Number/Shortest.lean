import ConfigReader.Number.Binary64

/-!
# Shortest decimal text of floating point numbers

A floating point number is written with the fewest digits that read back as the
same number, and among those with the digits nearest to it.  `shortest` finds
them.  The reals that round to a number form an interval, ends included when the
significand is even.  For each count of digits the two neighbours of the number
on that decimal grid are tested against the interval, and the first grid with a
hit wins.

The layout is positional for exponents from `-4` to `15`, with `.0` behind a whole
number, and scientific otherwise, with a sign and two digits at least in the
exponent.
-/

namespace ConfigReader.Binary64

/-- The decimal exponent `p` with `10 ^ (p - 1) ≤ num / den < 10 ^ p`, searched
from a guess that may be one too small. -/
def decimalPoint (num den : Nat) : Int :=
  let guess : Int := ((num.log2 : Int) - den.log2 - 1) * 30103 / 100000
  let below (p : Int) : Bool := match p with
    | .ofNat k => num < den * Nat.pow 10 k
    | .negSucc k => num * Nat.pow 10 (k + 1) < den
  if below guess then guess
  else if below (guess + 1) then guess + 1
  else if below (guess + 2) then guess + 2
  else guess + 3

/-- The fraction `num / den` is compared with `k * 10 ^ p`. -/
def gridCompare (num den k : Nat) (p : Int) : Ordering :=
  match p with
  | .ofNat e => compare num (den * k * Nat.pow 10 e)
  | .negSucc e => compare (num * Nat.pow 10 (e + 1)) (den * k)

/-- The reals that round to a number: twice the ends as fractions over one
denominator, and whether the ends belong to it. -/
structure Interval where
  /-- The lower end. -/
  low : Nat
  /-- The upper end. -/
  high : Nat
  /-- The denominator of both. -/
  den : Nat
  /-- The ends belong to the interval. -/
  closed : Bool

/-- The reals that round to `m * 2 ^ e`. -/
def roundingInterval (m : Nat) (e : Int) : Interval :=
  let (n, d) := ratio 1 e
  let low := if m == Nat.pow 2 52 && e > -1074 then (4 * m - 1) * n else (4 * m - 2) * n
  ⟨low, (4 * m + 2) * n, 4 * d, m % 2 == 0⟩

/-- The grid point `k * 10 ^ p` lies in the interval. -/
def Interval.holds (i : Interval) (k : Nat) (p : Int) : Bool :=
  match gridCompare i.low i.den k p, gridCompare i.high i.den k p with
  | .lt, .gt => true
  | .eq, _ => i.closed
  | _, .eq => i.closed
  | _, _ => false

/-- The digits on the grid of `count` digits, if the grid meets the interval. -/
def digitsOn? (num den : Nat) (i : Interval) (point : Int) (count : Nat) : Option (Nat × Int) :=
  let p := point - count
  let (n, d) := match p with
    | .ofNat e => (num, den * Nat.pow 10 e)
    | .negSucc e => (num * Nat.pow 10 (e + 1), den)
  let k := n / d
  let nearest := roundDiv n d
  if i.holds nearest p then some (nearest, p)
  else if i.holds k p then some (k, p)
  else if i.holds (k + 1) p then some (k + 1, p)
  else none

/-- The fewest digits that read back as `m * 2 ^ e`, and their exponent. -/
def shortest (m : Nat) (e : Int) : Nat × Int :=
  let (num, den) := ratio m e
  let point := decimalPoint num den
  let i := roundingInterval m e
  ((List.range 17).findSome? fun c => digitsOn? num den i point (c + 1)).getD
    (roundDiv num den, 0)

/-- Digits without zeros at the end, and the exponent they then have. -/
def trimZeros (digits : Text) (exponent : Int) : Text × Int :=
  let kept := digits.dropEndWhile (· = .scalar '0')
  (kept, exponent + (digits.length - kept.length : Nat))

/-- The layout of digits that stand for `digits * 10 ^ exponent`. -/
def layout (digits : Text) (exponent : Int) : Text :=
  let point : Int := exponent + digits.length
  if -4 < point ∧ point ≤ 16 then
    if point ≤ 0 then
      "0." ++ Text.replicate (-point).toNat "0" ++ digits
    else if exponent ≥ 0 then
      digits ++ Text.replicate exponent.toNat "0" ++ ".0"
    else
      (digits.take point.toNat : Text) ++ "." ++ (digits.drop point.toNat : Text)
  else
    let shown := match digits with
      | [] => []
      | [d] => [d]
      | d :: rest => d :: '.' :: rest
    let power := (point - 1).natAbs
    shown ++ (if point - 1 < 0 then "e-" else "e+") ++ (if power < 10 then "0" else "") ++
      Text.ofNat power

/-- The text of a number. -/
def text : Binary64 → Text
  | .nan => "nan"
  | .infinite negative => if negative then "-inf" else "inf"
  | .finite negative m e =>
      let sign : Text := if negative then "-" else ""
      if m == 0 then sign ++ "0.0"
      else
        let (k, p) := shortest m e
        let (digits, exponent) := trimZeros (Text.ofNat k) p
        sign ++ layout digits exponent

end ConfigReader.Binary64
