import ConfigReader.Text

/-!
# Decimal text of integers

Integers are written in decimal.  A text of more than `digitLimit` digits is
neither written nor read: the work would grow with the square of the length.
-/

namespace ConfigReader

/-- The most digits an integer may have in decimal text. -/
def digitLimit : Nat := 4300

namespace Text

/-- A natural number in decimal. -/
def ofNat (n : Nat) : Text := (Nat.toDigits 10 n).map CodePoint.scalar

/-- An integer in decimal. -/
def ofInt : Int → Text
  | .ofNat n => ofNat n
  | .negSucc n => '-' :: ofNat (n + 1)

/-- The number that ASCII digits spell, other code points counting as zero. -/
def toNat (t : Text) : Nat :=
  t.foldl (fun n c => 10 * n + (if c.isDigit then c.toNat - 48 else 0)) 0

/-- ASCII digits at the start of a text, and what follows. -/
def spanDigits (t : Text) : Text × Text :=
  (t.takeWhile CodePoint.isDigit, t.dropWhile CodePoint.isDigit)

end Text

/-- The decimal text of an integer is within the limit. -/
def hasDecimalText (n : Int) : Bool := n.natAbs < Nat.pow 10 digitLimit

end ConfigReader
