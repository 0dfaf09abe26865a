import ConfigReader.Logging.Level
import ConfigReader.Source.Flat
import ConfigReader.Strategy

/-!
# Runtime settings

The settings of the command line front end.  A setting is given on the command
line, or by an environment variable, or has a default, in this order.  The
environment is read first and as a whole, by programs over a flat source, so a
variable that does not fit is reported even if the command line overrides it.
-/

namespace ConfigReader

/-- What the names of environment variables begin with. -/
def environmentLead : Text := "PURECONF_"

/-- The name of the logging level setting. -/
def levelName : Text := "log_level"

/-- The name of the setting for log lines in JSON. -/
def jsonName : Text := "log_json"

/-- The settings. -/
structure Settings where
  /-- The name of the logging level. -/
  logLevel : Text
  /-- Log lines are JSON. -/
  logJson : Bool
deriving DecidableEq

namespace Settings

/-- Variables with one set: in place if it is there, else at the end. -/
def setVariable (name value : Text) : List (Text × Text) → List (Text × Text)
  | [] => [(name, value)]
  | (n, v) :: rest =>
      if n = name then (name, value) :: rest else (n, v) :: setVariable name value rest

/-- The entries of the environment: variables with the right beginning, which is
left out, in small letters.  A later variable takes the place of an earlier one with
its name, and of all earlier ones with its key. -/
def environmentEntries (environment : List (Text × Text)) : Entries :=
  let held := environment.foldl (fun found (name, value) => setVariable name value found) []
  Entries.ofPairs <| held.filterMap fun (name, value) =>
    match Text.after? environmentLead name with
    | some (c :: rest) => some (Text.lower (c :: rest), value)
    | _ => none

/-- The environment as a source. -/
def environmentSource (environment : List (Text × Text)) : Source :=
  Source.flat "<environ>" (environmentEntries environment)

/-- The environment variable of a setting. -/
def variableName (name : Text) : Text := environmentLead ++ name.upperAscii

/-- The key that reads the logging level. -/
def levelKey : Key := ⟨levelName, by decide +kernel⟩

/-- The key that reads the setting for JSON. -/
def jsonKey : Key := ⟨jsonName, by decide +kernel⟩

/-- The normalized name of a level. -/
def normalizeLevel (origin : Text) (v : Value) : Except Failure Text :=
  let refuse : Except Failure Text :=
    match v.quoted? with
    | some shown => .error (.settings (.invalidValue origin shown))
    | none => .error (.integerTooLong none)
  match v with
  | .text name =>
      if name.isBlank then refuse
      else if (Level.ofName? (Level.normalize name)).isSome then .ok (Level.normalize name)
      else .error (.settings (.unknownLevel origin name.quoted))
  | _ => refuse

/-- What a program reads from the environment, if its variable is set. -/
def fromEnvironment {α : Type} (p : Program α) (name : Text) (entries : Entries) :
    Except Failure (Option α) :=
  match (p.runValidating (Source.flat "<environ>" entries)).outcome with
  | .error e => .error e.failure
  | .ok (.valid a) => .ok (some a)
  | .ok (.invalid issues) =>
      if (issues.head?.map Issue.kind) = some .missingKey then .ok none
      else .error (.settings (.invalidValue (variableName name)
        ((entries.get? name).getD []).quoted))

/-- The settings of a command line and an environment. -/
def resolve (commandLine : List (Text × Value)) (environment : List (Text × Text)) :
    Except Failure Settings := do
  let entries := environmentEntries environment
  let level ← fromEnvironment (Program.scalar .string levelKey) levelName entries
  let json ← fromEnvironment (Program.scalar .boolean jsonKey) jsonName entries
  let level ← level.mapM fun name => normalizeLevel (variableName levelName) (.text name)
  let (level, json) ← commandLine.foldlM (fun (level, json) (name, v) =>
    if name = levelName then
      .ok (if v.isNull then level else v, json)
    else if name = jsonName then
      .ok (level, if v.isNull then json else v)
    else .error (.settings (.unknownSetting name)))
    ((level.map Value.text).getD (.text "WARNING"), (json.map Value.bool).getD (.bool false))
  return ⟨← normalizeLevel levelName level, json.isTruthy⟩

end Settings

end ConfigReader
