import ConfigReader.Text

/-!
# Base64

Bytes in letters, digits and two signs.  Four characters carry three bytes, and
equals signs fill up the last four.  Characters outside the alphabet mean nothing.
-/

namespace ConfigReader.Base64

/-- The six bits of a character. -/
def bits? : CodePoint → Option Nat
  | .scalar c =>
      if c.isUpper then some (c.toNat - 65)
      else if c.isLower then some (c.toNat - 71)
      else if c.isDigit then some (c.toNat + 4)
      else if c = '+' then some 62
      else if c = '/' then some 63
      else none
  | .surrogate _ => none

/-- The bytes of a text behind a number of characters of the current four, the last
of which left over some bits, and behind a number of equals signs in a row. -/
def bytesFrom : (taken left pads : Nat) → Text → Option (List UInt8)
  | taken, _, _, [] => if taken = 0 then some [] else none
  | taken, left, pads, c :: rest =>
      if c = .scalar '=' then
        if 2 ≤ taken && 4 ≤ taken + pads + 1 then some []
        else bytesFrom taken left (if 2 ≤ taken then pads + 1 else pads) rest
      else match bits? c with
        | none => bytesFrom taken left pads rest
        | some bits => match taken with
            | 0 => bytesFrom 1 bits 0 rest
            | 1 => (bytesFrom 2 (bits % 16) 0 rest).map (.ofNat (left * 4 + bits / 16) :: ·)
            | 2 => (bytesFrom 3 (bits % 4) 0 rest).map (.ofNat (left * 16 + bits / 4) :: ·)
            | _ => (bytesFrom 0 0 0 rest).map (.ofNat (left * 64 + bits) :: ·)

/-- The bytes of a text, which has to be in ASCII and to end with four characters. -/
def bytes? (t : Text) : Option (List UInt8) :=
  if t.all (·.toNat < 0x80) then bytesFrom 0 0 0 t else none

/-! ## Tests -/

example : bytes? "aGk=" = some [104, 105] := by decide +kernel

example : bytes? "@@aG k=" = some [104, 105] := by decide +kernel

example : bytes? "aGk" = none := by decide +kernel

end ConfigReader.Base64
