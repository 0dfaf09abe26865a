import ConfigReader.Failure

/-!
# Calls of loggers

A program logs by calling a method of a *bound logger*, with a message and named fields.
Bound loggers stand outside of the library.  One is given by what it makes of a call: it
drops the call, raises an error, or hands an entry on to the logger of the same name.
-/

namespace ConfigReader

/-- A method that logs a message. -/
inductive Method where
  /-- Details. -/
  | debug
  /-- News. -/
  | info
  /-- A warning. -/
  | warning
  /-- An error. -/
  | error
  /-- A critical error. -/
  | critical
  /-- An error with the one at hand. -/
  | exception
deriving DecidableEq

namespace Method

/-- The level of messages. -/
def level : Method → Int
  | debug => 10
  | info => 20
  | warning => 30
  | error => 40
  | critical => 50
  | exception => 40

/-- The name of a method. -/
def name : Method → Text
  | debug => "debug"
  | info => "info"
  | warning => "warning"
  | error => "error"
  | critical => "critical"
  | exception => "exception"

/-- All methods. -/
def all : List Method := [debug, info, warning, error, critical, exception]

/-- The method with a name.  Two of them have a second name. -/
def ofName? (name : Text) : Option Method :=
  if name = Text.ofString "warn" then some warning
  else if name = Text.ofString "fatal" then some critical
  else all.find? (·.name = name)

end Method

/-- The fields of a message. -/
abbrev Fields := List (Text × Value)

/-- A call of a method that logs. -/
structure LogCall where
  /-- The name of the logger. -/
  logger : Text
  /-- The method. -/
  method : Method
  /-- The message. -/
  event : Text
  /-- Named values that belong to the message. -/
  fields : Fields

/-- A message for the log, before any handler has looked at it. -/
structure LogEntry where
  /-- The name of the logger. -/
  logger : Text
  /-- The level, higher for what matters more. -/
  level : Int
  /-- The message. -/
  message : Text
  /-- Named values that belong to the message. -/
  fields : Fields
  /-- The text of an error that belongs to the message. -/
  exception : Option Text

/-- The message of a call as it is. -/
def LogCall.entry (c : LogCall) : LogEntry := ⟨c.logger, c.method.level, c.event, c.fields, none⟩

/-- A bound logger, by what it makes of a call when the levels that count are known.  It may
hand a message on. -/
structure BoundLogger where
  /-- The message that is handed on, if any, or the error of the call. -/
  handOn : (counts : Int → Bool) → LogCall → Except Failure (Option LogEntry)

end ConfigReader
