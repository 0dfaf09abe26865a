import ConfigReader.Format.Fault

/-!
# A place in a YAML text

A *cursor* is what is left of a text together with the place reached: the line, the
column and the number of code points read.  Block structure follows from columns.
A byte order mark has no width.

A line ends at a carriage return, a line feed, both together, a next line, and at
the separators of lines and paragraphs.  The first four read as a line feed, and a
separator stays what it is.
-/

namespace ConfigReader.Yaml

/-! ## Classes -/

/-- The code point with a number, or a space. -/
def codePoint (n : Nat) : CodePoint := (CodePoint.ofNat? n).getD default

/-- The next line control. -/
def nextLine : CodePoint := codePoint 0x85

/-- The byte order mark. -/
def byteOrderMark : CodePoint := codePoint 0xFEFF

/-- A separator of lines or of paragraphs. -/
def isSeparator (c : CodePoint) : Bool := c.toNat == 0x2028 || c.toNat == 0x2029

/-- A code point that ends a line. -/
def isBreak (c : CodePoint) : Bool :=
  c = .scalar '\n' || c = .scalar '\r' || c = nextLine || isSeparator c

/-- A space. -/
def isSpace (c : CodePoint) : Bool := c = .scalar ' '

/-- A space or a tab. -/
def isWhite (c : CodePoint) : Bool := c = .scalar ' ' || c = .scalar '\t'

/-- An ASCII letter or digit, a dash or an underscore. -/
def isWord : CodePoint → Bool
  | .scalar c => c.isAlphanum || c = '-' || c = '_'
  | .surrogate _ => false

/-- The code point is one of a string. -/
def isAmong (s : String) (c : CodePoint) : Bool := (Text.ofString s).contains c

/-- The text is over, or a line ends. -/
def endsLine : Option CodePoint → Bool
  | none => true
  | some c => isBreak c

/-- The text is over, or white space or the end of a line follows. -/
def endsWord : Option CodePoint → Bool
  | none => true
  | some c => isWhite c || isBreak c

/-- A code point that may stand in a YAML text. -/
def isPrintable (c : CodePoint) : Bool :=
  let n := c.toNat
  n == 9 || n == 10 || n == 13 || (0x20 ≤ n && n ≤ 0x7E) || n == 0x85 ||
    (0xA0 ≤ n && n ≤ 0xD7FF) || (0xE000 ≤ n && n ≤ 0xFFFD) || 0x10000 ≤ n

/-! ## Cursors -/

/-- A place in a text. -/
structure Cursor where
  /-- What is left. -/
  rest : Text
  /-- The number of lines that ended. -/
  line : Nat
  /-- The column. -/
  column : Nat
  /-- The number of code points read. -/
  index : Nat

namespace Cursor

/-- The start of a text. -/
def start (t : Text) : Cursor := ⟨t, 0, 0, 0⟩

/-- The code point at the cursor. -/
def peek (c : Cursor) : Option CodePoint := c.rest.head?

/-- The code point some places behind the cursor. -/
def peekAt (c : Cursor) (n : Nat) : Option CodePoint := c.rest[n]?

/-- The code point at the cursor is a given one. -/
def at_ (c : Cursor) (ch : Char) : Bool := c.peek = some (.scalar ch)

/-- One code point further. -/
def step (c : Cursor) : Cursor :=
  match c.rest with
  | [] => c
  | ch :: rest =>
      let whole := !(ch = .scalar '\r' && rest.head? = some (.scalar '\n'))
      if isBreak ch && whole then ⟨rest, c.line + 1, 0, c.index + 1⟩
      else if ch = byteOrderMark then { c with rest, index := c.index + 1 }
      else { c with rest, column := c.column + 1, index := c.index + 1 }

/-- Some code points further. -/
def forward : Nat → Cursor → Cursor
  | 0, c => c
  | n + 1, c => forward n c.step

/-- The code points of a class at the cursor, and the cursor behind them. -/
def span (p : CodePoint → Bool) (c : Cursor) : Text × Cursor :=
  let found := c.rest.takeWhile p
  (found, c.forward found.length)

/-- The cursor behind the code points of a class. -/
def skip (p : CodePoint → Bool) (c : Cursor) : Cursor := (c.span p).2

/-- The end of a line as it reads, and the cursor behind it. -/
def lineBreak (c : Cursor) : Text × Cursor :=
  match c.rest with
  | .scalar '\r' :: .scalar '\n' :: _ => ("\n", c.forward 2)
  | ch :: _ =>
      if isSeparator ch then ([ch], c.step)
      else if isBreak ch then ("\n", c.step)
      else ([], c)
  | [] => ([], c)

/-- The cursor behind a comment. -/
def skipComment (c : Cursor) : Cursor :=
  if c.at_ '#' then c.skip fun ch => !isBreak ch else c

/-- The cursor behind spaces, a comment and the end of a line. -/
def skipRest (c : Cursor) : Parsed Cursor :=
  let after := (c.skip isSpace).skipComment
  if endsLine after.peek then .ok after.lineBreak.2 else malformed

/-- A line of three given signs stands at the cursor. -/
def atLine (c : Cursor) (signs : String) : Bool :=
  c.rest.startsWith signs && endsWord (c.peekAt 3)

/-- A line that separates documents stands at the cursor. -/
def atMarker (c : Cursor) : Bool := c.atLine "---" || c.atLine "..."

end Cursor

end ConfigReader.Yaml
