import ConfigReader.Failure

/-!
# Reading a format

The outcome of reading text in a format.  It is a fault if the text does not
follow the format, and an error of its own if the text does and stands for
something that cannot be made, such as a number with too many digits.
-/

namespace ConfigReader

/-- Why text in a format cannot be read. -/
inductive FormatFault where
  /-- The text does not follow the format. -/
  | malformed
  /-- What the text stands for cannot be made. -/
  | failed (f : Failure)

/-- The outcome of reading. -/
abbrev Parsed (α : Type) := Except FormatFault α

/-- The text does not follow the format. -/
def malformed {α : Type} : Parsed α := .error .malformed

/-- Collections stand too deep within each other to be read. -/
def tooDeep {α : Type} (doing : Text) : Parsed α := .error (.failed (.tooDeep doing))

/-- The integer of ASCII digits, within the limit. -/
def integerOfDigits (negative : Bool) (digits : Text) : Parsed Value :=
  if digits.length > digitLimit then .error (.failed (.integerTooLong (some digits.length)))
  else .ok (.int (if negative then -(digits.toNat : Int) else digits.toNat))

/-- The number of ASCII digits in a base. -/
def digitsIn (base : Nat) (digits : Text) : Nat :=
  digits.foldl (fun n c => base * n + c.hexValue?.getD 0) 0

/-- A floating point number with digits before and after the point and an
exponent. -/
def floatOfParts (negative : Bool) (whole fraction : Text) (exponent : Int) : Value :=
  .float (.ofDecimal negative (whole ++ fraction : Text).toNat (exponent - fraction.length))

end ConfigReader
