import ConfigReader.Text

/-!
# Lines

Two ways to cut a text into lines.  `Text.splitLines` ends a line at every code
point that is a line boundary in the wide sense, and `Text.universalNewlines`
rewrites the three common line ends to one before a format is read.
-/

namespace ConfigReader

/-- A code point that ends a line: line feed, vertical tab, form feed, carriage
return, the three information separators above the unit separator, next line,
and the line and paragraph separators. -/
def CodePoint.isLineBreak (c : CodePoint) : Bool :=
  let n := c.toNat
  (10 ≤ n && n ≤ 13) || (0x1C ≤ n && n ≤ 0x1E) || n == 0x85 || n == 0x2028 || n == 0x2029

namespace Text

/-- The lines of a text without their ends.  A carriage return and a line feed
are one end, and a text that ends with a line end has no empty line after it. -/
def splitLines : Text → List Text
  | [] => []
  | .scalar '\r' :: .scalar '\n' :: rest => [] :: splitLines rest
  | c :: rest =>
      if c.isLineBreak then [] :: splitLines rest
      else match splitLines rest, rest with
        | line :: lines, _ :: _ => (c :: line) :: lines
        | lines, _ => [c] :: lines

/-- Carriage returns, with or without a line feed, become line feeds. -/
def universalNewlines : Text → Text
  | [] => []
  | .scalar '\r' :: .scalar '\n' :: rest => .scalar '\n' :: universalNewlines rest
  | .scalar '\r' :: rest => .scalar '\n' :: universalNewlines rest
  | c :: rest => c :: universalNewlines rest

end Text

example : Text.splitLines "a\r\nb\n\nc" = (["a", "b", "", "c"] : List Text) := by decide

example : Text.splitLines "a\n" = (["a"] : List Text) := by decide

end ConfigReader
