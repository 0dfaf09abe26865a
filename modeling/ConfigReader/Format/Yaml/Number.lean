import ConfigReader.Format.Yaml.Cursor
import ConfigReader.Number.Literal
import ConfigReader.Text.Case

/-!
# YAML numbers

The shapes of integers and floating point numbers, and the numbers they stand for.
Underscores are allowed among the digits and mean nothing.  An integer is binary,
octal, decimal or hexadecimal by what it starts with.  Numbers in base sixty are
digits with colons between them.

A shape says which plain scalars are numbers.  A tag can ask for a number of any
text, so the functions from text to numbers may fail.
-/

namespace ConfigReader.Yaml

/-! ## Shapes -/

/-- A digit or an underscore. -/
def isSpacedDigit (c : CodePoint) : Bool := c.isDigit || c = .scalar '_'

/-- A digit below a bound, or an underscore. -/
def isSpacedDigitBelow (base : Nat) (c : CodePoint) : Bool :=
  c = .scalar '_' || (c.digitValue? base).isSome

/-- A digit, and digits or underscores behind it. -/
def isSpacedNumber : Text → Bool
  | [] => false
  | c :: rest => c.isDigit && rest.all isSpacedDigit

/-- A number below sixty in one or two digits. -/
def isSixtieth : Text → Bool
  | [c] => c.isDigit
  | [d, c] => (d.digitValue? 6).isSome && c.isDigit
  | _ => false

/-- The shape of an integer. -/
def isInteger (t : Text) : Bool :=
  match t.signed.2 with
  | .scalar '0' :: .scalar 'b' :: digits => !digits.isEmpty && digits.all (isSpacedDigitBelow 2)
  | .scalar '0' :: .scalar 'x' :: digits => !digits.isEmpty && digits.all (isSpacedDigitBelow 16)
  | .scalar '0' :: digits => digits.all (isSpacedDigitBelow 8)
  | body => match body.splitOn ':' with
      | whole :: sixtieths => isSpacedNumber whole && sixtieths.all isSixtieth
      | [] => false

/-- An exponent with its sign, or nothing. -/
def isExponent : Text → Bool
  | [] => true
  | e :: sign :: digits =>
      isAmong "eE" e && isAmong "+-" sign && Text.isDigits digits
  | _ => false

/-- Digits and underscores with an exponent behind them. -/
def isFraction (t : Text) : Bool := isExponent (t.dropWhile isSpacedDigit)

/-- The last group of a number in base sixty, with a point in it. -/
def isLastSixtieth (t : Text) : Bool :=
  match t.cut? '.' with
  | some (whole, fraction) => isSixtieth whole && fraction.all isSpacedDigit
  | none => false

/-- The spellings of infinity. -/
def infinities : List Text := [".inf", ".Inf", ".INF"]

/-- The spellings of what is not a number. -/
def nans : List Text := [".nan", ".NaN", ".NAN"]

/-- The shape of a floating point number. -/
def isFloat (t : Text) : Bool :=
  let body := t.signed.2
  let decimal := match body.cut? '.' with
    | some (whole, fraction) => isSpacedNumber whole && isFraction fraction
    | none => false
  let bare := match t with
    | .scalar '.' :: c :: rest => c.isDigit && isFraction rest
    | _ => false
  let sexagesimal := match body.splitOn ':' with
    | whole :: groups => match groups.getLast? with
        | some last =>
            isSpacedNumber whole && groups.dropLast.all isSixtieth && isLastSixtieth last
        | none => false
    | [] => false
  decimal || bare || sexagesimal || infinities.contains body || nans.contains t

/-! ## Integers -/

/-- The value of groups in base sixty. -/
def sixtieths (groups : List Int) : Int := groups.foldl (fun n g => 60 * n + g) 0

/-- A text is asked for its first code point and has none. -/
def noFirst {α : Type} : Parsed α :=
  .error (.failed (.builtin "IndexError" "string index out of range"))

/-- The integer literal in a base. -/
def literalIn (base : Nat) (t : Text) : Parsed Int :=
  (integerLiteral base t).mapError fun f => .failed (.ofLiteral base t f)

/-- The integer behind a sign. -/
def magnitude (t : Text) : Parsed Int :=
  match t with
  | [] => noFirst
  | [.scalar '0'] => .ok 0
  | .scalar '0' :: .scalar 'b' :: digits => literalIn 2 digits
  | .scalar '0' :: .scalar 'x' :: digits => literalIn 16 digits
  | .scalar '0' :: _ => literalIn 8 t
  | _ => match t.splitOn ':' with
      | [_] => literalIn 10 t
      | groups => (groups.mapM (literalIn 10)).map sixtieths

/-- The integer of a text. -/
def integer (t : Text) : Parsed Value :=
  let digits : Text := t.filter (· ≠ .scalar '_')
  if digits.isEmpty then noFirst
  else
    let (negative, body) := digits.signed
    (magnitude body).map fun n => .int (if negative then -n else n)

/-! ## Floating point numbers -/

/-- The floating point literal of a text. -/
def floatLiteral (t : Text) : Parsed Binary64 :=
  match floatLiteral? t with
  | some x => .ok x
  | none => .error (.failed (.builtin "ValueError"
      ("could not convert string to float: " ++ t.quoted)))

/-- Groups of a number in base sixty, the last one first, added up with a weight that
grows from group to group. -/
def weighted : (weight : Nat) → (total : Binary64) → List Binary64 → Binary64
  | _, total, [] => total
  | weight, total, x :: rest => weighted (60 * weight) (total.add (x.mul (.ofInt weight))) rest

/-- The number behind a sign. -/
def floatMagnitude (t : Text) : Parsed Binary64 :=
  if t = Text.ofString ".inf" then .ok (.infinite false)
  else if t = Text.ofString ".nan" then .ok .nan
  else match t.splitOn ':' with
    | [_] => floatLiteral t
    | groups => (groups.mapM floatLiteral).map fun xs => weighted 1 (.zero false) xs.reverse

/-- The floating point number of a text. -/
def float (t : Text) : Parsed Value :=
  let digits : Text := Text.lower (t.filter (· ≠ .scalar '_'))
  if digits.isEmpty then noFirst
  else
    let (negative, body) := digits.signed
    (floatMagnitude body).map fun x => .float (if negative then x.neg else x)

end ConfigReader.Yaml
