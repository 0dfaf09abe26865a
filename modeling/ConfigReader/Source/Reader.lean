import ConfigReader.Failure
import ConfigReader.Text.Lines
import ConfigReader.Web

/-!
# Readers of documents

The texts of documents are read by readers that stand outside of the library, and how much
of a document can be copied depends on what is going on around it.  All that the library
takes from there is in `Readers`.  What is said of loading files is said for all of them.
-/

namespace ConfigReader

/-- Why a reader gives no document. -/
inductive ReaderFault where
  /-- The text does not follow the format, with what the reader says to that. -/
  | invalid (detail : Text)
  /-- The reader fails in a way of its own. -/
  | failed (f : Failure)

/-- The readers of documents, and what can be copied. -/
structure Readers where
  /-- The document of a TOML text. -/
  toml : Text → Except ReaderFault Web
  /-- The document of a YAML text. -/
  yaml : Text → Except ReaderFault Web
  /-- The document of a JSON text. -/
  json : Text → Except ReaderFault Web
  /-- A file in YAML is read as it comes.  This is what the reader says to bytes that are no
  text, if it finds before the first fault that the format is not followed. -/
  yamlStops? : List Nat → Option Text
  /-- What is said of a document with too much within each other to be copied. -/
  copyFault? : Web → Option Text

namespace Readers

/-- What a reader says to bytes that are no text, if it does not come to the first fault. -/
def stops? (readers : Readers) (format : Format) (bytes : List Nat) : Option Text :=
  match format with
  | .yaml => readers.yamlStops? bytes
  | _ => none

/-- The document of a text.  An empty YAML text is an empty mapping. -/
def document (readers : Readers) (format : Format) (t : Text) : Except ReaderFault Web :=
  match format with
  | .toml => readers.toml t
  | .json => readers.json t.universalNewlines
  | _ => (readers.yaml t.universalNewlines).map fun w => match w.root with
      | .leaf .null => .ofValue (.map [])
      | _ => w

end Readers

end ConfigReader
