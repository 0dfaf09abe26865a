import ConfigReader.Format.Yaml.Cursor

/-!
# The text of YAML scalars

A scalar is *plain*, *quoted* or a *block*.  A plain or quoted scalar may go on over
several lines: a single line end between two lines reads as a space, and of several
the first is dropped.  A block keeps its lines, or is folded in the same way where
neither line starts with white space.

Each reader starts at the first code point of the scalar.
-/

namespace ConfigReader.Yaml

/-- Line ends between two lines as they read: `first` and those behind it. -/
def foldBreaks (first others : Text) : Text :=
  if first ≠ Text.ofString "\n" then first ++ others
  else if others.isEmpty then " "
  else others

/-! ## Plain scalars -/

/-- What a plain scalar may hold at the start of a text. -/
def plainChunk (inFlow : Bool) : Text → Text
  | [] => []
  | c :: rest =>
      let ends := isWhite c || isBreak c || (inFlow && isAmong ",?[]\x7b\x7d" c) ||
        (c = .scalar ':' && (endsWord rest.head? ||
          (inFlow && (rest.head?.map (isAmong ",[]\x7b\x7d")).getD false)))
      if ends then [] else c :: plainChunk inFlow rest

/-- Line ends and spaces behind a line, unless they lead to the end of the document. -/
def plainBreaks : (fuel : Nat) → Cursor → Option Text × Cursor
  | 0, c => (some [], c)
  | fuel + 1, c =>
      if c.at_ ' ' then plainBreaks fuel c.step
      else match c.lineBreak with
        | ([], _) => (some [], c)
        | (found, c) =>
            if c.atMarker then (none, c)
            else
              let (others, c) := plainBreaks fuel c
              (others.map (found ++ ·), c)

/-- White space inside a plain scalar. -/
structure PlainGap where
  /-- How it reads.  Nothing ends the scalar. -/
  text : Text
  /-- A line ended. -/
  crossed : Bool
  /-- The place behind it. -/
  cursor : Cursor

/-- The white space at a cursor. -/
def plainGap (c : Cursor) : PlainGap :=
  let (spaces, c) := c.span isSpace
  match c.lineBreak with
  | ([], _) => ⟨spaces, false, c⟩
  | (found, c) =>
      if c.atMarker then ⟨[], true, c⟩
      else match plainBreaks (c.rest.length + 1) c with
        | (none, c) => ⟨[], true, c⟩
        | (some others, c) => ⟨foldBreaks found others, true, c⟩

/-- A scalar and the place behind it. -/
structure ScannedScalar where
  /-- The text. -/
  text : Text
  /-- The white space behind the scalar went over the end of a line. -/
  crossed : Bool
  /-- The place behind the scalar. -/
  cursor : Cursor

/-- A plain scalar.  Outside flow collections it ends before a line that starts left
of `indent`. -/
def plainScalar (inFlow : Bool) (indent : Int) : (fuel : Nat) → Cursor → ScannedScalar
  | 0, c => ⟨[], false, c⟩
  | fuel + 1, c =>
      let chunk := plainChunk inFlow c.rest
      let gap := plainGap (c.forward chunk.length)
      let next := gap.cursor
      let ended := gap.text.isEmpty || next.at_ '#' ||
        (!inFlow && (next.column : Int) < indent) || (plainChunk inFlow next.rest).isEmpty
      if ended then ⟨chunk, gap.crossed, next⟩
      else
        let more := plainScalar inFlow indent fuel next
        { more with text := chunk ++ gap.text ++ more.text }

/-! ## Quoted scalars -/

/-- Line ends and the white space before the lines behind them. -/
def quotedBreaks : (fuel : Nat) → Cursor → Parsed (Text × Cursor)
  | 0, _ => malformed
  | fuel + 1, c =>
      if c.atMarker then malformed
      else
        let c := c.skip isWhite
        match c.lineBreak with
        | ([], _) => .ok ([], c)
        | (found, c) => (quotedBreaks fuel c).map fun (others, c) => (found ++ others, c)

/-- White space inside a quoted scalar. -/
def quotedGap (c : Cursor) : Parsed (Text × Cursor) :=
  let (white, c) := c.span isWhite
  match c.lineBreak with
  | ([], _) => if c.rest.isEmpty then malformed else .ok (white, c)
  | (found, c) => (quotedBreaks (c.rest.length + 1) c).map fun (others, c) =>
      (foldBreaks found others, c)

/-- What a code point stands for behind a backslash. -/
def escape? : CodePoint → Option CodePoint
  | .scalar '0' => some (codePoint 0)
  | .scalar 'a' => some (codePoint 7)
  | .scalar 'b' => some (codePoint 8)
  | .scalar 't' => some (codePoint 9)
  | .scalar '\t' => some (codePoint 9)
  | .scalar 'n' => some (codePoint 10)
  | .scalar 'v' => some (codePoint 11)
  | .scalar 'f' => some (codePoint 12)
  | .scalar 'r' => some (codePoint 13)
  | .scalar 'e' => some (codePoint 27)
  | .scalar ' ' => some (codePoint 32)
  | .scalar '"' => some (codePoint 34)
  | .scalar '\\' => some (codePoint 92)
  | .scalar '/' => some (codePoint 47)
  | .scalar 'N' => some (codePoint 0x85)
  | .scalar '_' => some (codePoint 0xA0)
  | .scalar 'L' => some (codePoint 0x2028)
  | .scalar 'P' => some (codePoint 0x2029)
  | _ => none

/-- The number of hexadecimal digits behind a letter. -/
def escapeDigits? : CodePoint → Option Nat
  | .scalar 'x' => some 2
  | .scalar 'u' => some 4
  | .scalar 'U' => some 8
  | _ => none

/-- The code point with a number, which has to be one. -/
def numbered (n : Nat) : Parsed CodePoint :=
  match CodePoint.ofNat? n with
  | some c => .ok c
  | none =>
      if n < 0x80000000 then
        .error (.failed (.builtin "ValueError" "chr() arg not in range(0x110000)"))
      else
        .error (.failed (.builtin "OverflowError" "Python int too large to convert to C int"))

/-- What follows a backslash, and the place behind it. -/
def quotedEscape (c : Cursor) : Parsed (Text × Cursor) :=
  match c.peek with
  | none => malformed
  | some ch => match escape? ch, escapeDigits? ch with
      | some e, _ => .ok ([e], c.step)
      | none, some count =>
          let c := c.step
          let digits := c.rest.take count
          if digits.length = count && digits.all (·.hexValue?.isSome) then
            (numbered (digitsIn 16 digits)).map fun e => ([e], c.forward count)
          else malformed
      | none, none => match c.lineBreak with
          | ([], _) => malformed
          | (_, c) => quotedBreaks (c.rest.length + 1) c

/-- A quoted scalar behind its opening quote, and the place behind the closing one.
Only a double quoted one has escapes.  In the other kind a quote is doubled. -/
def quotedScalar (double : Bool) : (fuel : Nat) → Cursor → Parsed (Text × Cursor)
  | 0, _ => malformed
  | fuel + 1, c =>
      let quote := if double then doubleQuote else singleQuote
      let more (found : Text) (c : Cursor) : Parsed (Text × Cursor) :=
        (quotedScalar double fuel c).map fun (others, c) => (found ++ others, c)
      match c.peek with
      | none => malformed
      | some ch =>
          if ch = quote then
            if !double && c.peekAt 1 = some quote then more [quote] (c.forward 2)
            else .ok ([], c.step)
          else if double && ch = .scalar '\\' then
            (quotedEscape c.step).bind fun (found, c) => more found c
          else if isWhite ch || isBreak ch then
            (quotedGap c).bind fun (found, c) => more found c
          else more [ch] c.step

/-! ## Block scalars -/

/-- What becomes of the line ends at the end of a block. -/
inductive Chomping where
  /-- One is kept. -/
  | clip
  /-- None is kept. -/
  | strip
  /-- All are kept. -/
  | keep
deriving DecidableEq

/-- The chomping that a sign stands for. -/
def Chomping.ofSign? : CodePoint → Option Chomping
  | .scalar '+' => some keep
  | .scalar '-' => some strip
  | _ => none

/-- The indentation that a digit stands for. -/
def increment? (c : CodePoint) : Option Nat := if c.isDigit then some (c.toNat - 48) else none

/-- The chomping and the indentation that the head of a block gives. -/
def blockIndicators (c : Cursor) : Parsed (Chomping × Option Nat × Cursor) :=
  let chompingAt (c : Cursor) : Option Chomping := c.peek.bind Chomping.ofSign?
  let incrementAt (c : Cursor) : Option Nat := c.peek.bind increment?
  let finish (chomping : Chomping) (increment : Option Nat) (c : Cursor) :
      Parsed (Chomping × Option Nat × Cursor) :=
    if increment = some 0 then malformed
    else if endsLine c.peek || c.at_ ' ' then .ok (chomping, increment, c)
    else malformed
  match chompingAt c, incrementAt c with
  | some chomping, _ => match incrementAt c.step with
      | some n => finish chomping (some n) (c.forward 2)
      | none => finish chomping none c.step
  | none, some n => match chompingAt c.step with
      | some chomping => finish chomping (some n) (c.forward 2)
      | none => finish .clip (some n) c.step
  | none, none => finish .clip none c

/-- The line ends in front of a block whose indentation is not given, and the greatest
column that spaces reach. -/
def blockIndentation : (fuel : Nat) → Cursor → Text × Nat × Cursor
  | 0, c => ([], 0, c)
  | fuel + 1, c =>
      if c.at_ ' ' then
        let (found, column, after) := blockIndentation fuel c.step
        (found, max c.step.column column, after)
      else match c.lineBreak with
        | ([], _) => ([], 0, c)
        | (found, c) =>
            let (others, column, after) := blockIndentation fuel c
            (found ++ others, column, after)

/-- Spaces up to a column. -/
def skipIndentation (indent : Nat) (c : Cursor) : Cursor :=
  c.forward ((c.rest.takeWhile isSpace).take (indent - c.column)).length

/-- Line ends between lines of a block, up to the indentation of the next line. -/
def blockBreaks (indent : Nat) : (fuel : Nat) → Cursor → Text × Cursor
  | 0, c => ([], c)
  | fuel + 1, c =>
      let c := skipIndentation indent c
      match c.lineBreak with
      | ([], _) => ([], c)
      | (found, c) =>
          let (others, c) := blockBreaks indent fuel c
          (found ++ others, c)

/-- A line of a block stands at the cursor. -/
def atBlockLine (indent : Nat) (c : Cursor) : Bool := c.column == indent && !c.rest.isEmpty

/-- White space stands at the cursor. -/
def atWhite (c : Cursor) : Bool := (c.peek.map isWhite).getD false

/-- The lines of a block, the line end behind them, and the empty lines behind that. -/
def blockLines (folded : Bool) (indent : Nat) : (fuel : Nat) → Cursor →
    Text × Text × Text × Cursor
  | 0, c => ([], [], [], c)
  | fuel + 1, c =>
      let (line, after) := c.span fun ch => !isBreak ch
      let (ending, after) := after.lineBreak
      let (breaks, after) := blockBreaks indent (after.rest.length + 1) after
      if atBlockLine indent after then
        let joint : Text :=
          if folded && ending = Text.ofString "\n" && !atWhite c && !atWhite after then
            if breaks.isEmpty then " " else []
          else ending
        let (others, last, empties, after) := blockLines folded indent fuel after
        (line ++ joint ++ breaks ++ others, last, empties, after)
      else (line, ending, breaks, after)

/-- A block scalar behind its sign.  Its lines stand at least at column `least`. -/
def blockScalar (folded : Bool) (least : Nat) (c : Cursor) : Parsed (Text × Cursor) := do
  let (chomping, increment, c) ← blockIndicators c
  let c ← c.skipRest
  let fuel := c.rest.length + 1
  let (leading, indent, c) := match increment with
    | some n =>
        let indent := least + n - 1
        let (leading, c) := blockBreaks indent fuel c
        (leading, indent, c)
    | none =>
        let (leading, column, c) := blockIndentation fuel c
        (leading, max least column, c)
  let (body, last, empties, c) : Text × Text × Text × Cursor :=
    if atBlockLine indent c then
      let (body, last, empties, c) := blockLines folded indent fuel c
      (leading ++ body, last, empties, c)
    else ([], [], leading, c)
  return match chomping with
    | .strip => (body, c)
    | .clip => (body ++ last, c)
    | .keep => (body ++ last ++ empties, c)

end ConfigReader.Yaml
