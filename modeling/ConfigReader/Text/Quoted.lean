import ConfigReader.Text.Printable

/-!
# Quoted texts

Messages show a text between quotes.  The quotes are single ones, or double ones
if the text holds a single quote and no double quote.  A backslash, the quote in
use and code points that are not printable are escaped, the last by number in
two, four or eight hexadecimal digits.
-/

namespace ConfigReader

/-- Small hexadecimal digits, zeros in front up to a width. -/
def Text.hex (width n : Nat) : Text :=
  let digits := (Nat.toDigits 16 n).map CodePoint.scalar
  List.replicate (width - digits.length) (.scalar '0') ++ digits

/-- The single quote. -/
def singleQuote : CodePoint := .scalar (Char.ofNat 39)

/-- The double quote. -/
def doubleQuote : CodePoint := .scalar (Char.ofNat 34)

/-- A code point inside quotes.  It stands for itself if it is among some. -/
def CodePoint.escaped (bare : CodePoint → Bool) (quote c : CodePoint) : Text :=
  if c = quote || c = .scalar '\\' then ['\\', c]
  else if c = .scalar '\t' then "\\t"
  else if c = .scalar '\n' then "\\n"
  else if c = .scalar '\r' then "\\r"
  else if bare c then [c]
  else if c.toNat < 0x100 then "\\x" ++ Text.hex 2 c.toNat
  else if c.toNat < 0x10000 then "\\u" ++ Text.hex 4 c.toNat
  else "\\U" ++ Text.hex 8 c.toNat

/-- The text between quotes, with some code points standing for themselves. -/
def Text.quotedWith (bare : CodePoint → Bool) (t : Text) : Text :=
  let quote :=
    if t.contains singleQuote && !t.contains doubleQuote then doubleQuote else singleQuote
  quote :: t.flatMap (CodePoint.escaped bare quote) ++ [quote]

/-- The text between quotes. -/
def Text.quoted (t : Text) : Text := t.quotedWith CodePoint.isPrintable

/-! ## Bytes -/

/-- The code point with the number of a byte. -/
def CodePoint.ofByte (b : UInt8) : CodePoint := .scalar (Char.ofNat b.toNat)

/-- Bytes between quotes, the printable ones of ASCII as characters. -/
def quotedBytes (bytes : List UInt8) : Text :=
  "b" ++ Text.quotedWith (fun c => c.isPrintable && c.toNat < 0x80) (bytes.map CodePoint.ofByte)

end ConfigReader
