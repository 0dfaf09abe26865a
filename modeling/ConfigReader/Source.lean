import ConfigReader.Key
import ConfigReader.Text.Case

/-!
# Sources

A *source* answers lookups.  An answer is a run: it may end with an error, and a
watched source leaves an event for every lookup.  No answer means that nothing is
at the path.  A value that is there and does not fit is an error for that path.
-/

namespace ConfigReader

/-- Something that answers lookups. -/
structure Source where
  /-- How messages show the source. -/
  shown : Text
  /-- All paths of scalars, in ascending order. -/
  keys : Except Failure (List Text)
  /-- The answer to a lookup. -/
  answer : (q : Lookup) → Run (Option q.Answer)

namespace Source

/-- A source with an event for every lookup, before it is answered. -/
def watched (label : Option Text) (s : Source) : Source where
  shown := "Traced(" ++ s.shown ++ ")"
  keys := s.keys
  answer q := do
    Run.emit (.lookup label q)
    s.answer q

/-- The source that answers like another, whatever the lookup is about. -/
def scalar (s : Source) (path : Text) (kind : Kind) : Run (Option kind.Carrier) :=
  s.answer (.scalar kind path)

end Source

/-! ## Scalars as text -/

/-- An integer in text: an optional sign and decimal digits of any script, blank
space at the ends aside. -/
def parseInteger (text path : Text) : Except Failure Int :=
  let (negative, digits) := text.strip.signed
  match digits.mapM CodePoint.decimal? with
  | some (d :: ds) =>
      if (d :: ds).length > digitLimit then .error (.integerTooLong (some (d :: ds).length))
      else
        let n : Nat := (d :: ds).foldl (fun n d => 10 * n + d) 0
        .ok (if negative then -n else n)
  | _ => .error (.malformed path Kind.integer.typeName (.text text))

/-- The texts that stand for true. -/
def trueTexts : List Text := ["1", "true", "t", "yes", "y", "on"]

/-- The texts that stand for false. -/
def falseTexts : List Text := ["0", "false", "f", "no", "n", "off"]

/-- A truth value in text, in letters of any case, blank space at the ends aside. -/
def parseBoolean (text path : Text) : Except Failure Bool :=
  let folded := text.strip.lower
  if trueTexts.contains folded then .ok true
  else if falseTexts.contains folded then .ok false
  else .error (.malformed path Kind.boolean.typeName (.text text))

/-- A scalar of a kind in text. -/
def parseScalar (text path : Text) : (kind : Kind) → Except Failure kind.Carrier
  | .string => .ok text
  | .integer => parseInteger text path
  | .boolean => parseBoolean text path

end ConfigReader
