import ConfigReader.CommandLine.Platform
import ConfigReader.CommandLine.Report
import ConfigReader.CommandLine.Request
import ConfigReader.CommandLine.Target
import ConfigReader.Evaluation
import ConfigReader.Logging
import ConfigReader.Settings
import ConfigReader.Source.Loader

/-!
# The command line front end

A request is carried out in a world of modules, files and environment variables.
The settings are resolved first, so that the log is ready.  Then the command loads
its program and its sources, in this order, and reports.

All output of a command is printed at its end.  So an error leaves nothing on the
output, and the log stands before the message of the error.  The output need not take a
text, and then the command ends in front of it, with an error of its own.
-/

namespace ConfigReader.CommandLine

/-- What surrounds a command. -/
structure World : Type 1 where
  /-- The modules that can be imported. -/
  modules : Modules
  /-- The functions that the values in modules refer to. -/
  functions : FunctionTable
  /-- The environment variables. -/
  environment : List (Text × Text)
  /-- The files. -/
  files : Files
  /-- The time stamp of log lines. -/
  timestamp : Text
  /-- What is not part of the front end. -/
  platform : Platform

/-- What a command writes, and the code it ends with. -/
structure Outcome where
  /-- The number of the exit code. -/
  code : Nat
  /-- The texts that are printed, in order. -/
  prints : List Text
  /-- The standard error output. -/
  err : Text

/-- The standard output. -/
def Outcome.out (o : Outcome) : Text := o.prints.flatten

/-- A step of a command: it may be refused, and it may leave events and raise errors. -/
abbrev Step := ExceptT Refusal Run

/-- A step that is a run. -/
def step {α : Type} (r : Run α) : Step α := ExceptT.lift r

/-- A command is refused. -/
def refuse {α : Type} (r : Refusal) : Step α := throwThe Refusal r

/-! ## Sources -/

/-- A single key and its value. -/
def readOverride (given : Text) : Except Refusal (Text × Text) :=
  match given.cut? '=' with
  | some (key, value) =>
      if key.isBlank then .error (.badOverride given) else .ok (key.strip, value)
  | none => .error (.badOverride given)

/-- A run whose source faults refuse the command. -/
def refuseSourceFaults {α : Type} (r : Run α) : Step α :=
  ExceptT.mk <| match r.outcome with
    | .ok a => ⟨r.trace, .ok (.ok a)⟩
    | .error e => match e.failure with
        | .source cause => ⟨r.trace, .ok (.error (.source cause))⟩
        | _ => ⟨r.trace, .error e⟩

/-- The source of a request: its single keys on top, and its files below. -/
def sourceOf (world : World) (request : Request) : Step Source := do
  let pairs ← match request.overrides.mapM readOverride with
    | .ok pairs => pure pairs
    | .error r => refuse r
  if pairs.isEmpty && request.sources.isEmpty then refuse .noSource
  else
    let top := Source.flat "<--set>" (Entries.ofPairs pairs)
    if request.sources.isEmpty then return top
    else
      let below ← refuseSourceFaults
        (Source.loadAll world.platform.readers world.files request.sources request.format)
      if pairs.isEmpty then return below else return Source.layered [top, below]

/-! ## Commands -/

/-- The message that a check failed. -/
def failedEntry (target : Text) (count : Nat) : Event :=
  .log ⟨"pureconf.ui.cli", .info, "check failed",
    [("target", .text target), ("issue_count", .int count)]⟩

/-- Validates a program over the source of a request. -/
def validate (world : World) (request : Request) (p : Program Value) : Step (Validated Value) := do
  let source ← sourceOf world request
  step (p.evaluate validating source)

/-- Carries out a command that is about a program. -/
def runProgram (world : World) (request : Request) (target : Text) (p : Program Value) :
    Step Report :=
  match request.verb with
  | .describe => do
      let description ← step p.evaluateDescription
      return .ofDescription target request.json description
  | .check => do
      let result ← validate world request p
      if !result.isValid then step (Run.emit (failedEntry target result.issues.length))
      return .ofCheck target request.json request.verbose result
  | _ => do
      let result ← validate world request p
      step (Run.ofExcept (Report.ofShow target request.json result))

/-- Carries out the command of a request. -/
def runCommand (world : World) (request : Request) : Step Report :=
  match request.verb with
  | .keys => do
      let source ← sourceOf world request
      let keys ← step (Run.ofExcept source.keys)
      return .ofKeys request.json keys
  | _ =>
      let target := (request.target.getD []).strip
      if target.isEmpty then refuse (.missingArgument "target")
      else match world.modules.program world.functions target with
        | .ok b => runProgram world request target b.program
        | .error (.refused r) => refuse r
        | .error (.raised e) => step (Run.raise e)

/-! ## Output -/

/-- The usage. -/
def usage : Text :=
  "usage: pureconf [-h] \x7bdescribe,check,show,keys\x7d ...\n\n" ++
    linesText
      ["describe TARGET                  list every key a program reads",
       "check TARGET [SOURCES]           report every missing key",
       "show TARGET [SOURCES]            print the evaluated value",
       "keys [SOURCES]                   list the keys that sources provide",
       "",
       "-s, --source FILE                a source file; earlier files take precedence",
       "--format FORMAT                  the format of the source files",
       "--set KEY=VALUE                  a single key, before every file",
       "--json                           print JSON",
       "-v, --verbose                    print more detail",
       "--log-level LEVEL                the logging level",
       "--log-json                       write log lines as JSON"]

/-- The lines that the logged messages of a run leave. -/
def logText (world : World) (loggers : Loggers) (trace : List Event) : Text :=
  (trace.filterMap Event.logged?).flatMap fun call =>
    match loggers.logBy world.platform.bound world.timestamp call with
    | .ok written => written.lines.flatMap (·.2) ++ written.fallback
    | .error _ => []

/-- How a message ends up on the error output. -/
def messageLine (message : Text) : Text :=
  message.dropEndWhile (· = .scalar '\n') ++ "\n"

/-- What an error that nobody caught leaves behind. -/
def raisedOutcome (log : Text) (e : Raised) : Outcome :=
  match e.failure with
  | .exit code =>
      let said : Text := match code with
        | .text t => if t.isBlank then [] else messageLine t.strip
        | _ => []
      ⟨(ExitCode.ofValue code).number, [], log ++ said⟩
  | f =>
      match ExitCode.ofRaised e with
      | .internal => ⟨ExitCode.internal.number, [], log ++ f.report ++ "\n"⟩
      | code =>
          let said := f.message.strip
          ⟨code.number, [], log ++ messageLine (if said.isEmpty then f.className else said)⟩

/-- What a refusal leaves behind. -/
def refusedOutcome (log : Text) (r : Refusal) : Outcome :=
  ⟨ExitCode.usage.number, [], log ++ "error: " ++ r.message ++ "\n"⟩

/-- What a step leaves behind. -/
def outcome (world : World) (loggers : Loggers) (s : Step Report) : Outcome :=
  let r : Run (Except Refusal Report) := s.run
  let log := logText world loggers r.trace
  match r.outcome with
  | .ok (.ok report) => ⟨report.code.number, report.prints, log⟩
  | .ok (.error refusal) => refusedOutcome log refusal
  | .error e => raisedOutcome log e

/-- The settings that a request gives. -/
def settingsOf (request : Request) : List (Text × Value) :=
  [(levelName, request.logLevel),
   (jsonName, if request.logJson then .bool true else .null)]

/-- The loggers that settings ask for. -/
def loggersOf (settings : Settings) : Except Failure Loggers :=
  Loggers.configure [] "pureconf" (.text settings.logLevel) settings.logJson 0

/-- Carries out a request, up to the texts that are to be printed. -/
def runRequest (world : World) (request : Request) : Outcome :=
  match Settings.resolve (settingsOf request) world.environment with
  | .error (.settings cause) => refusedOutcome [] (.settings cause)
  | .error f => raisedOutcome [] f.raised
  | .ok settings => match loggersOf settings with
      | .error f => raisedOutcome [] f.raised
      | .ok loggers => outcome world loggers (runCommand world request)

/-- The texts in front of the first one that cannot be printed, and why that one cannot. -/
def printable (fault? : Text → Option Text) : List Text → List Text × Option Text
  | [] => ([], none)
  | t :: rest => match fault? t with
      | some reason => ([], some reason)
      | none =>
          let (printed, reason) := printable fault? rest
          (t :: printed, reason)

/-- What is left of an outcome when its texts have been printed.  A text that cannot be
printed is an error that nobody catches. -/
def Outcome.printed (fault? : Text → Option Text) (o : Outcome) : Outcome :=
  match printable fault? o.prints with
  | (_, none) => o
  | (printed, some reason) =>
      { raisedOutcome o.err (Failure.builtin "UnicodeEncodeError" reason).raised with
        prints := printed }

/-- Carries out what the arguments ask for. -/
def run (world : World) (arguments : List Text) : Outcome :=
  match Request.ofArguments arguments with
  | .help => ⟨ExitCode.success.number, [usage], []⟩
  | .refused => ⟨ExitCode.usage.number, [], usage⟩
  | .request request => (runRequest world request).printed world.platform.printFault?

end ConfigReader.CommandLine
