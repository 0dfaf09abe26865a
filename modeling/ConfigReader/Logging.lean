import ConfigReader.Format.JsonText
import ConfigReader.Logging.Call
import ConfigReader.Logging.Level
import ConfigReader.Logging.Normal

/-!
# Logging

Loggers have names with dots in them, and a name is below its beginnings.  Above all
of them is the root, which can also be named by no name.  A logger has a level,
handlers, and passes messages on to the loggers above it or not.  A message counts
if its level is at least that of the nearest logger that has one, and goes to the
handlers on its way up.  If there are none, the text of a warning and of anything
above goes to a last resort.

`configure` gives a logger one handler and stops it from passing messages on.
-/

namespace ConfigReader

/-! ## Names -/

namespace Logger

/-- The name of the root. -/
def root : Text := "root"

/-- The name that stands in messages. -/
def fullName (name : Text) : Text := if name.isEmpty then root else name

end Logger

/-! ## Lines -/

/-- The fields that belong to every message and are not shown. -/
def standardFields : List Text :=
  ["args", "asctime", "created", "exc_info", "exc_text", "filename", "funcName", "levelname",
   "levelno", "lineno", "message", "module", "msecs", "msg", "name", "pathname", "process",
   "processName", "relativeCreated", "stack_info", "thread", "threadName", "taskName"]

/-- The field names that a message has already. -/
def reservedFields : List Text :=
  ["name", "msg", "args", "levelname", "levelno", "pathname", "filename", "module", "exc_info",
   "exc_text", "stack_info", "lineno", "funcName", "created", "msecs", "relativeCreated",
   "thread", "threadName", "processName", "process", "message", "asctime"]

/-- A field as it is shown, in normal form. -/
def shownField? (field : Text × Value) : Option (Text × Value) :=
  field.2.normalize?.map fun v => (field.1, v)

/-- A field of a line of text.  It is put in normal form once more. -/
def fieldText? (field : Text × Value) : Option Text :=
  (field.2.normalize?.bind Value.plain?).map fun t => field.1 ++ "=" ++ t

/-- The fields that are shown, in normal form. -/
def LogEntry.shownFields? (e : LogEntry) : Option (List (Text × Value)) :=
  (e.fields.filter fun (name, _) =>
    !standardFields.contains name && !Text.startsWith name "_").mapM shownField?

/-- A message as a line of text, with the texts of its fields. -/
def LogEntry.lineWith (e : LogEntry) (fields : List Text) : Text :=
  let head := Level.shownName e.level ++ " " ++ Logger.fullName e.logger ++ ": " ++ e.message
  let line := if fields.isEmpty then head else head ++ " " ++ Text.join " " fields
  match e.exception with
  | none => line
  | some t => line ++ "\n" ++ t

/-- A message as a line of text, if its fields can be written. -/
def LogEntry.textLine? (e : LogEntry) : Option Text := do
  let shown ← e.shownFields?
  let fields ← (shown.mergeSort fun a b => Text.le a.1 b.1).mapM fieldText?
  return e.lineWith fields

/-- A message without its level and its fields, as the last resort writes it.  An error
begins a new line. -/
def LogEntry.plainText (e : LogEntry) : Text :=
  match e.exception with
  | none => e.message
  | some t =>
      if e.message.getLast? = some (.scalar '\n') then e.message ++ t else e.message ++ "\n" ++ t

/-- A message as an object, with a member for its fields or none. -/
def LogEntry.objectWith (timestamp : Text) (e : LogEntry) (extra : List (Value × Value)) : Value :=
  let exception : List (Value × Value) := match e.exception with
    | none => []
    | some t => [(.text "exception", .text t)]
  .map <|
    [(.text "timestamp", .text timestamp), (.text "level", .text (Level.shownName e.level)),
     (.text "logger", .text (Logger.fullName e.logger)), (.text "message", .text e.message)] ++
      extra ++ exception

/-- The member for the fields of a message, if there are any.  They are put in normal form once
more. -/
def extraFields? (shown : List (Text × Value)) : Option (List (Value × Value)) :=
  if shown.isEmpty then some []
  else (Value.map (shown.map fun (name, v) => (.text name, v))).normalize?.map fun v =>
    [(.text "fields", v)]

/-- A message as a JSON object in one line, if its fields can be written. -/
def LogEntry.jsonLine? (timestamp : Text) (e : LogEntry) : Option Text := do
  let shown ← e.shownFields?
  let extra ← extraFields? shown
  Json.render? .compact 0 (e.objectWith timestamp extra)

/-! ## Loggers -/

/-- Where messages go. -/
structure Handler where
  /-- The least level of a message that is written. -/
  level : Int
  /-- Messages are written as JSON. -/
  json : Bool
  /-- The number of the stream that is written to. -/
  stream : Nat

/-- A logger. -/
structure Logger where
  /-- The level, or none of its own. -/
  level : Level
  /-- Messages are passed on to the loggers above. -/
  propagate : Bool
  /-- The handlers. -/
  handlers : List Handler

/-- A logger that nobody has configured. -/
def Logger.fresh : Logger := ⟨.unset, true, []⟩

/-- The loggers that differ from fresh ones, by name. -/
abbrev Loggers := List (Text × Logger)

/-- What comes of a message: lines for streams, and the text of the last resort. -/
structure Written where
  /-- Lines, each with the number of its stream. -/
  lines : List (Nat × Text)
  /-- What the last resort writes. -/
  fallback : Text

namespace Loggers

open Logger (root fullName)

/-- The logger with a name.  The root lets warnings pass until it is told otherwise. -/
def get (loggers : Loggers) (name : Text) : Logger :=
  let fresh := if fullName name = root then { Logger.fresh with level := ⟨30, false⟩ } else .fresh
  (List.lookup (fullName name) loggers).getD fresh

/-- The loggers with one replaced. -/
def set (loggers : Loggers) (name : Text) (logger : Logger) : Loggers :=
  (fullName name, logger) :: loggers.filter (·.1 ≠ fullName name)

/-- A logger as a fresh one. -/
def reset (loggers : Loggers) (name : Text) : Loggers := loggers.set name .fresh

/-- A logger with one handler, which messages do not pass. -/
def configure (loggers : Loggers) (name : Text) (level : Value) (json : Bool) (stream : Nat) :
    Except Failure Loggers :=
  (Level.parse level).map fun l =>
    loggers.set name ⟨l, false, [⟨l.number, json, stream⟩]⟩

/-- The beginnings of a name that end in front of a dot, nearest first.  The name is
given from its end.  Of two dots in a row the first does not count, and neither does
a dot at the start. -/
def beginnings (reversed : Text) : List Text :=
  match reversed with
  | [] => []
  | c :: rest =>
      if c ≠ .scalar '.' then beginnings rest
      else match rest with
        | [] => []
        | d :: more => (d :: more : Text).reverse :: beginnings more

/-- A name and the names above it, nearest first. -/
def lineage (name : Text) : List Text :=
  ((fullName name :: beginnings name.reverse).filter (· ≠ root)) ++ [root]

/-- The level that decides for a logger: its own or that of the nearest logger above
that has one. -/
def effectiveLevel (loggers : Loggers) (name : Text) : Int :=
  (((lineage name).map fun n => (loggers.get n).level.number).find? (· ≠ 0)).getD 0

/-- The handlers on the way up. -/
def handlersFrom (loggers : Loggers) : List Text → List Handler
  | [] => []
  | name :: above =>
      let logger := loggers.get name
      logger.handlers ++ (if logger.propagate then handlersFrom loggers above else [])

/-- Logs a message.  A field of a message that counts must not have a name that the
message has already.  A handler that cannot write the message writes no line. -/
def log (loggers : Loggers) (timestamp : Text) (e : LogEntry) : Except Failure Written :=
  if e.level < loggers.effectiveLevel e.logger then .ok ⟨[], []⟩
  else match e.fields.find? fun (name, _) => reservedFields.contains name with
    | some (name, _) => .error (.builtin "KeyError"
        (Text.quoted ("Attempt to overwrite " ++ name.quoted ++ " in LogRecord")))
    | none =>
        let handlers := loggers.handlersFrom (lineage e.logger)
        if handlers.isEmpty then
          if e.level < 30 then .ok ⟨[], []⟩
          else .ok ⟨[], e.plainText ++ "\n"⟩
        else
          .ok ⟨(handlers.filter fun h => h.level ≤ e.level).filterMap fun h =>
            (if h.json then e.jsonLine? timestamp else e.textLine?).map fun line =>
              (h.stream, line ++ "\n"), []⟩

/-- Logs what a bound logger makes of a call. -/
def logBy (loggers : Loggers) (bound : BoundLogger) (timestamp : Text) (c : LogCall) :
    Except Failure Written :=
  match bound.handOn (fun level => loggers.effectiveLevel c.logger ≤ level) c with
  | .error f => .error f
  | .ok none => .ok ⟨[], []⟩
  | .ok (some e) => loggers.log timestamp e

end Loggers

end ConfigReader
