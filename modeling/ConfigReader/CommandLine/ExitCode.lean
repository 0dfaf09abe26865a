import ConfigReader.ErrorChain

/-!
# Exit codes

The codes that the command line front end ends with.  An error is routed along its
chain: the first error on it that has a code decides, and without one the error
counts as internal.
-/

namespace ConfigReader

/-- An exit code. -/
inductive ExitCode where
  /-- All went well. -/
  | success
  /-- The configuration does not fit the program. -/
  | invalid
  /-- The command cannot be carried out as it is given. -/
  | usage
  /-- Something unforeseen. -/
  | internal
deriving DecidableEq

namespace ExitCode

/-- The number of an exit code. -/
def number : ExitCode → Nat
  | success => 0
  | invalid => 1
  | usage => 2
  | internal => 4

/-- All exit codes. -/
def all : List ExitCode := [success, invalid, usage, internal]

/-- The classes of failures that are due to how a command is given. -/
def usageClasses : List KnownClass :=
  [.source, .settings, .invalidProgram, .fileNotFound, .notADirectory, .permission]

/-- The code that a failure has by itself. -/
def ofFailure? (f : Failure) : Option ExitCode :=
  if f.isA .programValidation then some invalid
  else if usageClasses.any f.isA then some usage
  else none

/-- The code of an error. -/
def ofRaised (e : Raised) : ExitCode := (e.chainFailures.findSome? ofFailure?).getD internal

/-- The code that a program asks to end with.  Numbers that are no code are internal
errors, and so is everything that is no number.  Null is success. -/
def ofValue : Value → ExitCode
  | .null => success
  | .bool b => if b then invalid else success
  | .int n => (all.find? fun code => (code.number : Int) = n).getD internal
  | _ => internal

end ExitCode

end ConfigReader
