import ConfigReader.CommandLine
import ConfigReader.Logging.Timestamp
import Std.Time.DateTime.Timestamp

/-!
# The command line program

The outer layer.  It collects what a command may look at, which is the time, the
variables of the settings and the files that the arguments name, and writes what
the command leaves behind.  What the command does is decided by `CommandLine.run`.

Targets name programs in modules.  An application that has some passes them to
`serve`, and `main` serves none.
-/

namespace ConfigReader.CommandLine

/-- A text as a string, with an escape by number for a surrogate.  So is the error output
written.  On the standard output there are no surrogates. -/
def written (t : Text) : String := String.ofList <| t.flatMap fun
  | .scalar c => [c]
  | .surrogate i => ("\\u".toList ++ Nat.toDigits 16 (0xD800 + i.val) : List Char)

/-- The variables of the settings that are set. -/
def readEnvironment : IO (List (Text × Text)) :=
  [levelName, jsonName].filterMapM fun name => do
    let full := Settings.variableName name
    return (← IO.getEnv (written full)).map fun value => (full, Text.ofString value)

/-- What stands at a path, if it can be read. -/
def readEntry (p : FilePath) : IO (Option FileEntry) := do
  try
    let bytes ← IO.FS.readBinFile (written p.text)
    return some (.file (bytes.toList.map UInt8.toNat))
  catch
    | .inappropriateType .. => return some .directory
    | _ => return none

/-- The files that arguments name. -/
def readFiles (arguments : List Text) : IO Files := do
  let home := Text.ofString ((← IO.getEnv "HOME").getD "/")
  let here := FilePath.parse (Text.ofString (← IO.currentDir).toString)
  let start : Files := ⟨[], here.parts, home⟩
  match Request.ofArguments arguments with
  | .request request =>
      request.sources.foldlM (fun files source => do
        match (FilePath.parse source).expandHome home with
        | .error _ => return files
        | .ok p => match ← readEntry p with
            | some entry => return files.insert p entry
            | none => return files) start
  | _ => return start

/-- The time stamp of now. -/
def readTimestamp : IO Text := do
  let nanoseconds := (← Std.Time.Timestamp.now).toNanosecondsSinceUnixEpoch.val
  match timestamp (.ofRatio (nanoseconds < 0) nanoseconds.natAbs 1000000000) with
  | .ok t => return t
  | .error _ => return []

/-- Runs a command over given modules and functions, and answers with its exit code. -/
def serve (modules : Modules) (functions : FunctionTable) (arguments : List String) :
    IO UInt32 := do
  let arguments := arguments.map Text.ofString
  let world : World :=
    { modules, functions, environment := ← readEnvironment, files := ← readFiles arguments,
      timestamp := ← readTimestamp, platform := .usual }
  let o := run world arguments
  (← IO.getStdout).putStr (written o.out)
  (← IO.getStderr).putStr (written o.err)
  return o.code.toUInt32

end ConfigReader.CommandLine

/-- The command line program without any modules. -/
def main (arguments : List String) : IO UInt32 :=
  ConfigReader.CommandLine.serve [] [] arguments
