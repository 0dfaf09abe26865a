import ConfigReader.Format.Json
import ConfigReader.Format.Toml
import ConfigReader.Format.Yaml
import ConfigReader.Source.Reader

/-!
# Readers of the formats

The readers that programs use by default.  What they say to a text that does not follow its
format is left out.

A document is copied collection by collection, and each of them takes a few calls within each
other.  There is room for a number of them, which is that of a command that loads a file.
-/

namespace ConfigReader

namespace Value

mutual

/-- How many calls stand within each other when a value is copied. -/
def copyCalls : Value → Nat
  | list items => 2 + itemsCopyCalls items
  | tuple items => 3 + itemsCopyCalls items
  | map entries => 2 + entriesCopyCalls entries
  | set items => 5 + itemsCopyCalls items
  | moment .. => 5
  | _ => 2

/-- The calls for the item that takes most of them. -/
def itemsCopyCalls : List Value → Nat
  | [] => 0
  | v :: rest => max (copyCalls v) (itemsCopyCalls rest)

/-- The calls for the key or value that takes most of them. -/
def entriesCopyCalls : List (Value × Value) → Nat
  | [] => 0
  | (key, v) :: rest => max (max (copyCalls key) (copyCalls v)) (entriesCopyCalls rest)

end

end Value

namespace Readers

/-- How many calls may stand within each other when a document is copied. -/
def roomToCopy : Nat := 986

/-- What a reader gives. -/
def ofParsed {α : Type} (web : α → Web) : Parsed α → Except ReaderFault Web
  | .ok a => .ok (web a)
  | .error .malformed => .error (.invalid "syntax error")
  | .error (.failed f) => .error (.failed f)

/-- The readers that programs use by default.  They read a text as a whole. -/
def usual : Readers where
  toml t := ofParsed .ofValue (Toml.parse t)
  yaml t := ofParsed id (Yaml.parse t)
  json t := ofParsed .ofValue (Json.parse t)
  yamlStops? _ := none
  copyFault? w :=
    if roomToCopy < (w.unfold w.root).copyCalls then
      some "maximum recursion depth exceeded while calling a Python object"
    else none

end Readers

end ConfigReader
