import ConfigReader.File
import ConfigReader.Format.Properties
import ConfigReader.Source.Cyclic
import ConfigReader.Source.Layered
import ConfigReader.Source.Reader

/-!
# Loading sources

A source is loaded from a file in one of the formats.  The format is given by name
or follows from the suffix of the path.  Every file that is loaded leaves a
message for the log.
-/

namespace ConfigReader.Source

/-- The message that a file was loaded, with the number of its entries. -/
def loadedCall (format : Format) (p : FilePath) (count : Nat) : LogCall where
  logger := match format with
    | .properties => "pureconf.sources.properties"
    | _ => "pureconf.sources.document"
  method := .debug
  event := "source loaded"
  fields := [("source", .text p.text), ("source_format", .text format.name), ("count", .int count)]

/-- The document in a file.  Bytes that are no text may go unnoticed, if the reader finds
before that the format is not followed. -/
def documentIn (readers : Readers) (files : Files) (format : Format) (p : FilePath) :
    Except Failure Web :=
  match files.bytes format p with
  | .error f => .error f
  | .ok bytes => match Utf8.decode bytes with
      | .error fault => match readers.stops? format bytes with
          | some detail => .error (.source (.invalid format p.text detail))
          | none => .error (Files.undecodable format bytes fault)
      | .ok t => match readers.document format t with
          | .ok w => .ok w
          | .error (.invalid detail) => .error (.source (.invalid format p.text detail))
          | .error (.failed f) => .error f

/-- The table in a properties file. -/
def tableIn (files : Files) (p : FilePath) : Except Failure Entries :=
  match files.bytes .properties p with
  | .error f => .error f
  | .ok bytes => match Utf8.decode bytes with
      | .error fault => .error (Files.undecodable .properties bytes fault)
      | .ok t => match Properties.parse t.universalNewlines with
          | .ok entries => .ok entries
          | .error f => .error (.source (.invalid .properties p.text f.message))

/-- The source in a file of a format.  A document must be a mapping. -/
def fromFile (readers : Readers) (files : Files) (format : Format) (p : FilePath) : Run Source :=
  match format with
  | .properties => do
      let entries ← Run.ofExcept (tableIn files p)
      Run.emit (.log (loadedCall format p entries.length))
      return flat p.text entries
  | _ => do
      let w ← Run.ofExcept (documentIn readers files format p)
      match w.entryCount? with
      | none => Run.raise (Failure.source (.fileRoot p.text)).raised
      | some count =>
          Run.emit (.log (loadedCall format p count))
          match readers.copyFault? w with
          | some said => Run.raise (Failure.builtin "RecursionError" said).raised
          | none => return ofWeb p.text w

/-- The format of a path by its suffix, or a fault that shows the path. -/
def formatOf (shown : Text) (p : FilePath) : Except SourceFault Format :=
  match p.format? with
  | some format => .ok format
  | none => .error (.unknownSuffix shown)

/-- The format with a name, blank space and letter case aside. -/
def formatNamed (given : Text) : Except SourceFault Format :=
  match Format.ofName? given.strip.lower with
  | some format => .ok format
  | none => .error (.unknownFormat given)

/-- The format that a value names, or that of a path by its suffix for null. -/
def formatGiven (p : FilePath) : Value → Except Failure Format
  | .null => (formatOf p.text p).mapError .source
  | .text name => (formatNamed name).mapError .source
  | v => .error (.noAttribute v.typeName "strip")

/-- The source in a file.  Its format follows from the suffix if null is given. -/
def load (readers : Readers) (files : Files) (path : Text) (given : Value) : Run Source := do
  let p ← Run.ofExcept ((FilePath.parse path).expandHome files.home)
  let format ← Run.ofExcept (formatGiven p given)
  if ← Run.ofExcept (files.has p) then fromFile readers files format p
  else Run.raise (Failure.source (.fileNotFound p.text)).raised

/-- The sources in files as one source, the first file on top. -/
def loadAll (readers : Readers) (files : Files) (paths : List Text) (given : Value) :
    Run Source := do
  if paths.isEmpty then
    Run.raise (Failure.source .noPath).raised
  else
    let sources ← paths.mapM fun path => load readers files path given
    Run.ofExcept (Except.mapError Failure.source (stack sources))

end ConfigReader.Source
