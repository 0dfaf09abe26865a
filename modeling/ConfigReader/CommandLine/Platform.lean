import ConfigReader.Format.Readers
import ConfigReader.Logging.Bound
import ConfigReader.Text.Utf8

/-!
# What the front end stands on

The readers of documents, the bound logger and the standard output are not part of the front
end.  A command is carried out with whichever there are.
-/

namespace ConfigReader

/-- The readers, the bound logger and the standard output of a command. -/
structure Platform where
  /-- The readers of documents. -/
  readers : Readers
  /-- The bound logger. -/
  bound : BoundLogger
  /-- Why a text cannot be printed, if so. -/
  printFault? : Text → Option Text

/-- The platform that commands are run on by default.  Texts are printed in UTF-8, which has
no bytes for surrogates. -/
def Platform.usual : Platform where
  readers := .usual
  bound := .usual
  printFault? := Utf8.encodingFault? (fun _ => false) 0

end ConfigReader
