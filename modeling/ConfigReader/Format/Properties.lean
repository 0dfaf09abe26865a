import ConfigReader.Number.Literal
import ConfigReader.Source.Flat
import ConfigReader.Text.Lines

/-!
# Properties texts

A properties text is a list of lines.  A line whose backslashes at the end are odd
in number goes on in the next one, and the lines so joined are a *logical line*.
Comments and blank lines stand only where a logical line would start.  A logical
line is cut into a key and a value at the first separator that is not escaped, and
then both are freed of their escapes.

`logicalLines` leaves no line that goes on, so no key and no value ends in a
backslash that escapes nothing.
-/

namespace ConfigReader.Properties

/-! ## Logical lines -/

/-- The space that may stand around keys and in front of lines. -/
def isGap (c : CodePoint) : Bool := c = .scalar ' ' || c = .scalar '\t' || c = .scalar '\x0c'

/-- A sign between key and value. -/
def isSign (c : CodePoint) : Bool := c = .scalar '=' || c = .scalar ':'

/-- The line is empty or a comment. -/
def isSkipped : Text → Bool
  | [] => true
  | c :: _ => c = .scalar '#' || c = .scalar '!'

/-- The number of backslashes at the end of a line. -/
def trailingBackslashes (line : Text) : Nat :=
  (line.reverse.takeWhile (· = .scalar '\\')).length

/-- The line goes on in the next one. -/
def continues (line : Text) : Bool := trailingBackslashes line % 2 == 1

/-- The logical lines of lines, with the part of one that is still open. -/
def joinLines : Option Text → List Text → List Text
  | none, [] => []
  | some pending, [] => [pending]
  | none, raw :: rest =>
      let line := raw.dropWhile isGap
      if isSkipped line then joinLines none rest
      else if continues line then joinLines (some line.dropLast) rest
      else line :: joinLines none rest
  | some pending, raw :: rest =>
      let line := pending ++ (raw.dropWhile isGap : Text)
      if continues line then joinLines (some line.dropLast) rest
      else line :: joinLines none rest

/-- The logical lines of a text. -/
def logicalLines (t : Text) : List Text := joinLines none t.splitLines

/-! ## Entries -/

/-- The key of a line, escapes included, and what follows it. -/
def splitKey : Text → Text × Text
  | [] => ([], [])
  | .scalar '\\' :: c :: rest =>
      let (key, after) := splitKey rest
      (.scalar '\\' :: c :: key, after)
  | c :: rest =>
      if isSign c || isGap c then ([], c :: rest)
      else
        let (key, after) := splitKey rest
        (c :: key, after)

/-- What follows the separator: space and at most one sign. -/
def skipSeparator (t : Text) : Text :=
  match t.dropWhile isGap with
  | [] => []
  | c :: rest => if isSign c then rest.dropWhile isGap else c :: rest

/-- The key and the value of a line, escapes included. -/
def splitEntry (line : Text) : Text × Text :=
  let (key, after) := splitKey line
  (key, skipSeparator after)

/-- What a code point stands for behind a backslash. -/
def escaped : CodePoint → CodePoint
  | .scalar 't' => '\t'
  | .scalar 'n' => '\n'
  | .scalar 'r' => '\r'
  | .scalar 'f' => '\x0c'
  | c => c

/-- The code point that four code points name by number. -/
def unit? (written : Text) : Option CodePoint :=
  match integerLiteral 16 written with
  | .ok (.ofNat n) => CodePoint.ofNat? n
  | _ => none

/-- The text without its escapes. -/
def unescape : Text → Except Failure Text
  | [] => .ok []
  | .scalar '\\' :: .scalar 'u' :: a :: b :: c :: d :: rest =>
      match unit? [a, b, c, d] with
      | some u => (unescape rest).map (u :: ·)
      | none => .error (.escape ("\\u" ++ ([a, b, c, d] : Text)))
  | .scalar '\\' :: .scalar 'u' :: rest => .error (.escape (Text.quoted ("\\u" ++ rest)))
  | .scalar '\\' :: c :: rest => (unescape rest).map (escaped c :: ·)
  | c :: rest => (unescape rest).map (c :: ·)

/-- The entry of a logical line.  The value is freed of its escapes first, so of two
faults its own is reported. -/
def entry (line : Text) : Except Failure (Text × Text) := do
  let (writtenKey, writtenValue) := splitEntry line
  let value ← unescape writtenValue
  let key ← unescape writtenKey
  return (key, value)

/-- The entries of a properties text, a later one overriding an earlier one. -/
def parse (t : Text) : Except Failure Entries :=
  ((logicalLines t).mapM entry).map Entries.ofPairs

end ConfigReader.Properties
