import ConfigReader.Failure
import ConfigReader.Run

/-!
# Refusals

Why the front end does not carry out a command.  A refusal is no error: it is
reported in one line and ends with the code for wrong usage.
-/

namespace ConfigReader

/-- Why a command is not carried out. -/
inductive Refusal where
  /-- An argument is blank. -/
  | missingArgument (name : Text)
  /-- A target is not a module and an attribute. -/
  | badTarget (target : Text)
  /-- There is no such module. -/
  | noModule (name reason : Text)
  /-- There is no such attribute. -/
  | noAttribute (moduleName way : Text)
  /-- The target is something else than a program. -/
  | notAProgram (target typeName : Text)
  /-- Neither files nor single keys are given. -/
  | noSource
  /-- A single key is given without a value, or a value without a key. -/
  | badOverride (given : Text)
  /-- The sources cannot be loaded. -/
  | source (cause : SourceFault)
  /-- The settings cannot be resolved. -/
  | settings (cause : SettingsFault)

/-- The wording of a refusal. -/
def Refusal.message : Refusal → Text
  | missingArgument name => "missing required argument: " ++ name
  | badTarget target => "invalid target " ++ target.quoted ++ ": expected module:attribute"
  | noModule name reason => "unable to import " ++ name.quoted ++ ": " ++ reason
  | noAttribute moduleName way =>
      moduleName.quoted ++ " has no attribute " ++ way.quoted
  | notAProgram target typeName =>
      target.quoted ++ " is not a Program (got " ++ typeName ++ ")"
  | noSource => "at least one --source or --set is required"
  | badOverride given => "invalid --set value " ++ given.quoted ++ ": expected KEY=VALUE"
  | source cause => cause.message
  | settings cause => cause.message

/-- Why something was not obtained: the command is refused, or an error was raised. -/
inductive Stop where
  /-- The command is refused. -/
  | refused (r : Refusal)
  /-- An error was raised. -/
  | raised (e : Raised)

end ConfigReader
