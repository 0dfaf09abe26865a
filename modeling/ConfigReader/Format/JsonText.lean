import ConfigReader.Value

/-!
# JSON text

A printer of values as JSON, in one line or with an indentation of two spaces.  The
members of an object come in the order of their names.  Only what JSON requires is
escaped.  A tuple is an array, and what JSON has no form for is null.  Numbers that
are not finite are printed as the reader takes them.
-/

namespace ConfigReader.Json

/-- A code point inside a JSON string. -/
def escaped (c : CodePoint) : Text :=
  if c = doubleQuote then "\\\""
  else if c = .scalar '\\' then "\\\\"
  else if c = .scalar '\n' then "\\n"
  else if c = .scalar '\r' then "\\r"
  else if c = .scalar '\t' then "\\t"
  else if c = .scalar '\x08' then "\\b"
  else if c = .scalar '\x0c' then "\\f"
  else if c.toNat < 32 then "\\u" ++ Text.hex 4 c.toNat
  else [c]

/-- A JSON string. -/
def quote (t : Text) : Text := doubleQuote :: t.flatMap escaped ++ [doubleQuote]

/-- A floating point number. -/
def floatText : Binary64 → Text
  | .nan => "NaN"
  | .infinite negative => if negative then "-Infinity" else "Infinity"
  | x => x.text

/-- How a value is laid out. -/
inductive Layout where
  /-- In one line without spaces. -/
  | compact
  /-- Over lines, indented. -/
  | indented
deriving DecidableEq

/-- The end of a line and the indentation of the next one. -/
def Layout.lineEnd (depth : Nat) : Layout → Text
  | compact => []
  | indented => "\n" ++ Text.replicate (2 * depth) " "

/-- What stands between a name and its value. -/
def Layout.colon : Layout → Text
  | compact => ":"
  | indented => ": "

/-- Parts between brackets. -/
def enclose (layout : Layout) (depth : Nat) (left right : Text) (parts : List Text) : Text :=
  if parts.isEmpty then left ++ right
  else left ++ layout.lineEnd (depth + 1) ++
    Text.join ("," ++ layout.lineEnd (depth + 1)) parts ++ layout.lineEnd depth ++ right

mutual

/-- The text of a value, if its integers can be written. -/
def render? (layout : Layout) (depth : Nat) : Value → Option Text
  | .null => some "null"
  | .bool b => some (if b then "true" else "false")
  | .int n => if hasDecimalText n then some (Text.ofInt n) else none
  | .float x => some (floatText x)
  | .text t => some (quote t)
  | .list items => (renderItems? layout (depth + 1) items).map (enclose layout depth "[" "]")
  | .tuple items => (renderItems? layout (depth + 1) items).map (enclose layout depth "[" "]")
  | .map entries => (renderMembers? layout (depth + 1) entries).map fun members =>
      let sorted := members.mergeSort fun a b => Text.le a.1 b.1
      enclose layout depth "\x7b" "\x7d"
        (sorted.map fun (name, t) => quote name ++ layout.colon ++ t)
  | _ => some "null"

/-- The texts of items. -/
def renderItems? (layout : Layout) (depth : Nat) : List Value → Option (List Text)
  | [] => some []
  | v :: rest => (render? layout depth v).bind fun t =>
      (renderItems? layout depth rest).map (t :: ·)

/-- The names and texts of members. -/
def renderMembers? (layout : Layout) (depth : Nat) :
    List (Value × Value) → Option (List (Text × Text))
  | [] => some []
  | (key, v) :: rest => key.plain?.bind fun name => (render? layout depth v).bind fun t =>
      (renderMembers? layout depth rest).map ((name, t) :: ·)

end

end ConfigReader.Json
