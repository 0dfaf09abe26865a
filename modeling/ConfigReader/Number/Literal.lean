import ConfigReader.Text.Class
import ConfigReader.Number.Binary64

/-!
# Number literals

Numbers as a person writes them: blank space around, a sign, and decimal digits of
any script.

An integer may have single underscores between its digits.  In the bases two, eight
and sixteen a zero and a letter may stand in front, and one underscore behind them.  Digits in
base ten are counted before what follows them is looked at, so a literal that is
too long says so whatever stands behind.

A floating point number has a point and an exponent, both optional, or is spelled
out as infinite or not a number.
-/

namespace ConfigReader

/-- Decimal digits of any script as ASCII digits. -/
def Text.asciiDigits (t : Text) : Text := t.map fun c => match c.decimal? with
  | some d => .scalar (Nat.digitChar d)
  | none => c

/-- The blank code points that a literal may have around it: those of ASCII that
move the cursor, and all beyond ASCII. -/
def CodePoint.isLiteralBlank (c : CodePoint) : Bool :=
  (9 ≤ c.toNat && c.toNat ≤ 13) || c.toNat == 32 || (128 ≤ c.toNat && c.isBlank)

/-- Whether a minus sign stands in front, and what follows the sign. -/
def Text.signed : Text → Bool × Text
  | .scalar '+' :: rest => (false, rest)
  | .scalar '-' :: rest => (true, rest)
  | t => (false, t)

/-! ## Integers -/

/-- Why a literal is no integer. -/
inductive LiteralFault where
  /-- It is not written as one. -/
  | malformed
  /-- It has too many digits. -/
  | tooLong (digits : Nat)
deriving DecidableEq

/-- The value of an ASCII digit or letter in a base. -/
def CodePoint.digitValue? (base : Nat) (c : CodePoint) : Option Nat :=
  match c.hexValue? with
  | some d => if d < base then some d else none
  | none => none

/-- The digits at the start of a text, with single underscores between them: their
number, their value, and what follows. -/
def digitRun? (base : Nat) : (afterDigit : Bool) → (count value : Nat) → Text →
    Option (Nat × Nat × Text)
  | afterDigit, count, value, [] => if afterDigit then some (count, value, []) else none
  | afterDigit, count, value, c :: rest =>
      if c = .scalar '_' then
        if afterDigit then digitRun? base false count value rest else none
      else match c.digitValue? base with
        | some d => digitRun? base true (count + 1) (base * value + d) rest
        | none => if afterDigit then some (count, value, c :: rest) else none

/-- The letter of a base. -/
def baseLetter? : Nat → Option Char
  | 2 => some 'b'
  | 8 => some 'o'
  | 16 => some 'x'
  | _ => none

/-- What follows the letter of a base, if one is there. -/
def afterBase (base : Nat) : Text → Text
  | .scalar '0' :: .scalar c :: rest =>
      if baseLetter? base = some c.toLower then
        match rest with
        | .scalar '_' :: digits => digits
        | digits => digits
      else .scalar '0' :: .scalar c :: rest
  | t => t

/-- The integer a literal stands for. -/
def integerLiteral (base : Nat) (t : Text) : Except LiteralFault Int :=
  let (negative, body) := (t.trim CodePoint.isLiteralBlank).asciiDigits.signed
  match digitRun? base false 0 0 (afterBase base body) with
  | none => .error .malformed
  | some (count, n, rest) =>
      if base == 10 && count > digitLimit then .error (.tooLong count)
      else if rest.isEmpty then .ok (if negative then -(n : Int) else n)
      else .error .malformed

example : (integerLiteral 16 " 0x_1F ").toOption = some 31 := by decide

example : (integerLiteral 10 "1__0").toOption = none := by decide

/-! ## Floating point numbers -/

/-- The exponent that a text is. -/
def exponentOf? : Text → Option Int
  | [] => some 0
  | c :: rest =>
      let (negative, digits) := Text.signed rest
      if c.lowerAscii = .scalar 'e' && digits.isDigits then
        some (if negative then -(digits.toNat : Int) else digits.toNat)
      else none

/-- The number that a literal without underscores stands for. -/
def floatLiteral? (t : Text) : Option Binary64 :=
  let (negative, body) := (t.trim CodePoint.isLiteralBlank).asciiDigits.signed
  let word := body.lowerAscii
  if word = Text.ofString "inf" || word = Text.ofString "infinity" then some (.infinite negative)
  else if word = Text.ofString "nan" then some .nan
  else
    let (whole, rest) := body.spanDigits
    let (fraction, rest) := match rest with
      | .scalar '.' :: rest => Text.spanDigits rest
      | rest => ([], rest)
    if whole.isEmpty && fraction.isEmpty then none
    else (exponentOf? rest).map fun e =>
      .ofDecimal negative (whole ++ fraction : Text).toNat (e - fraction.length)

end ConfigReader
