import ConfigReader.Failure
import ConfigReader.Text.Class

/-!
# Requests

A *request* is what the arguments of the command line ask for: a command, a target
for most commands, and options.  Options may stand before and after the target.
A long option may be cut short if what is left fits one option only, and a value
may follow behind an equals sign or as the next argument.  A short option may have
its value right behind it, and short options without a value may stand together,
also behind an equals sign.  Behind `--` nothing is an option.

Arguments are first sorted into *words*, by their looks alone.  The words are then
read from left to right.  Help wins over everything behind it.
-/

namespace ConfigReader

/-! ## Commands and options -/

/-- The commands. -/
inductive Verb where
  /-- List what a program reads. -/
  | describe
  /-- Check sources against a program. -/
  | check
  /-- Print the value of a program. -/
  | print
  /-- List the keys of sources. -/
  | keys
deriving DecidableEq

/-- The options. -/
inductive Flag where
  /-- Print the usage. -/
  | help
  /-- The logging level. -/
  | logLevel
  /-- Log lines are JSON. -/
  | logJson
  /-- Output is JSON. -/
  | json
  /-- Output has more detail. -/
  | verbose
  /-- A source file. -/
  | source
  /-- The format of the source files. -/
  | format
  /-- A single key and its value. -/
  | override
deriving DecidableEq

/-- The spellings of options. -/
abbrev Spellings := List (Text × Flag)

namespace Verb

/-- The name of a command. -/
def name : Verb → Text
  | describe => "describe"
  | check => "check"
  | print => "show"
  | keys => "keys"

/-- All commands. -/
def all : List Verb := [describe, check, print, keys]

/-- The command with a name. -/
def ofName? (name : Text) : Option Verb := all.find? (·.name = name)

/-- The command is about a program. -/
def takesTarget : Verb → Bool
  | keys => false
  | _ => true

end Verb

namespace Flag

/-- The option has a value. -/
def takesValue : Flag → Bool
  | logLevel => true
  | source => true
  | format => true
  | override => true
  | _ => false

/-- How help is asked for. -/
def helpSpellings : Spellings := [("-h", help), ("--help", help)]

/-- The options of all commands. -/
def commonSpellings : Spellings :=
  [("--log-level", logLevel), ("--log-json", logJson), ("--json", json), ("--verbose", verbose),
   ("-v", verbose)]

/-- The options of commands that have sources. -/
def sourceSpellings : Spellings :=
  [("-s", source), ("--source", source), ("--format", format), ("--set", override)]

/-- The options of a command. -/
def spellings : Verb → Spellings
  | .describe => helpSpellings ++ commonSpellings
  | _ => helpSpellings ++ commonSpellings ++ sourceSpellings

end Flag

/-! ## Words -/

/-- An argument by its looks. -/
inductive Word where
  /-- No option. -/
  | plain (t : Text)
  /-- The two dashes behind which nothing is an option. -/
  | divider
  /-- An option that the command does not have. -/
  | unknown
  /-- An option, in its short spelling or not, and the text that stands in its
  argument. -/
  | flag (f : Flag) (short : Bool) (attached : Option Text)

/-- A dash and digits, which may have a point. -/
def isNegativeNumber (t : Text) : Bool :=
  let isDigit (c : CodePoint) : Bool := c.decimal?.isSome
  match t with
  | .scalar '-' :: rest =>
      let body := if rest.getLast? = some (.scalar '\n') then rest.dropLast else rest
      match body.dropWhile isDigit with
      | [] => !body.isEmpty
      | .scalar '.' :: fraction => !fraction.isEmpty && fraction.all isDigit
      | _ => false
  | _ => false

/-- A dash and one code point. -/
def shortSpelling (c : CodePoint) : Text := [.scalar '-', c]

/-- The options that an argument may be short for. -/
def candidates (spellings : Spellings) : Text → List Word
  | .scalar '-' :: .scalar '-' :: rest =>
      let (lead, attached) : Text × Option Text := match Text.cut? '=' rest with
        | some (lead, value) => (lead, some value)
        | none => (rest, none)
      (spellings.filter fun (spelling, _) => Text.startsWith spelling ("--" ++ lead)).map
        fun (_, f) => .flag f false attached
  | .scalar '-' :: c :: rest =>
      (spellings.filter fun (spelling, _) => spelling = shortSpelling c).map
        fun (_, f) => .flag f true (some rest)
  | _ => []

/-- The spelling is a dash and a letter. -/
def isShort (spelling : Text) : Bool := spelling.length == 2

/-- The option that is spelt out before an equals sign. -/
def beforeSign? (spellings : Spellings) (t : Text) : Option Word :=
  (t.cut? '=').bind fun (spelling, value) =>
    (spellings.lookup spelling).map fun f => .flag f (isShort spelling) (some value)

/-- An argument as a word, if it does not fit several options. -/
def Word.ofText? (spellings : Spellings) (t : Text) : Option Word :=
  match t with
  | .scalar '-' :: rest => match spellings.lookup t with
      | some f => some (flag f (isShort t) none)
      | none =>
          if rest.isEmpty then some (plain t)
          else match beforeSign? spellings t with
            | some word => some word
            | none => match candidates spellings t with
                | [] =>
                    if isNegativeNumber t || t.contains (.scalar ' ') then some (plain t)
                    else some unknown
                | [word] => some word
                | _ => none
  | _ => some (plain t)

/-- Arguments as words. -/
def Word.ofArguments? (spellings : Spellings) : List Text → Option (List Word)
  | [] => some []
  | t :: rest =>
      if t = Text.ofString "--" then some (divider :: rest.map plain)
      else (ofText? spellings t).bind fun word =>
        (ofArguments? spellings rest).map (word :: ·)

/-! ## Bundles -/

/-- What one argument sets. -/
structure Bundle where
  /-- Options with their values, in order. -/
  settings : List (Flag × Value)
  /-- An option at the end whose value does not stand in the argument. -/
  pending : Option Flag

/-- A bundle with an option in front that has no value. -/
def Bundle.after (f : Flag) (b : Bundle) : Bundle :=
  { b with settings := (f, .null) :: b.settings }

/-- The value that stands in the argument of an option.  Two dashes are no value, so
the option is given none. -/
def attachedValue (t : Text) : Value :=
  if t = Text.ofString "--" then .list [] else .text t

/-- What an option and the text in its argument set.  The text is the value of the
option if it has one, and is short options otherwise. -/
def bundle (spellings : Spellings) : Flag → Text → Option Bundle
  | f, [] => if f.takesValue then some ⟨[(f, attachedValue [])], none⟩ else none
  | f, c :: rest =>
      if f.takesValue then some ⟨[(f, attachedValue (c :: rest))], none⟩
      else (spellings.lookup (shortSpelling c)).bind fun g =>
        if rest.isEmpty then some (.after f ⟨[], some g⟩)
        else (bundle spellings g rest).map (.after f)

/-- What an option sets. -/
def bundleOf (spellings : Spellings) (f : Flag) (short : Bool) : Option Text → Option Bundle
  | none => some ⟨[], some f⟩
  | some t =>
      if short || f.takesValue then bundle spellings f t else none

/-! ## Requests -/

/-- What the arguments ask for. -/
structure Request where
  /-- The command. -/
  verb : Verb
  /-- The program. -/
  target : Option Text
  /-- The logging level, or null. -/
  logLevel : Value
  /-- Log lines are JSON. -/
  logJson : Bool
  /-- Output is JSON. -/
  json : Bool
  /-- Output has more detail. -/
  verbose : Bool
  /-- The source files, the first one on top. -/
  sources : List Text
  /-- The format of the source files, or null. -/
  format : Value
  /-- Single keys and values, in order. -/
  overrides : List Text

/-- What comes of reading the arguments. -/
inductive Reading where
  /-- The usage is asked for. -/
  | help
  /-- The arguments ask for nothing. -/
  | refused
  /-- A request. -/
  | request (r : Request)

namespace Request

/-- A request without options. -/
def empty (verb : Verb) : Request := ⟨verb, none, .null, false, false, false, [], .null, []⟩

/-- The request with an option set, unless help is asked for or the value does not
fit. -/
def set (r : Request) (value : Value) : Flag → Except Reading Request
  | .help => .error .help
  | .logLevel => .ok { r with logLevel := value }
  | .logJson => .ok { r with logJson := true }
  | .json => .ok { r with json := true }
  | .verbose => .ok { r with verbose := true }
  | .source => .ok { r with sources := r.sources ++ value.text?.toList }
  | .format => match value.text? with
      | none => .ok { r with format := value }
      | some name =>
          if (Format.ofName? name).isSome then .ok { r with format := value }
          else .error .refused
  | .override => .ok { r with overrides := r.overrides ++ value.text?.toList }

/-- The request with options set in order. -/
def setAll (r : Request) (settings : List (Flag × Value)) : Except Reading Request :=
  settings.foldlM (fun r (f, value) => r.set value f) r

/-- The command still needs a target. -/
def needsTarget (r : Request) : Bool := r.verb.takesTarget && r.target.isNone

/-- Reads the words of a command.  `stray` says that a word before was of no use. -/
def ofWords (spellings : Spellings) : (stray : Bool) → Request → List Word → Reading
  | stray, r, [] => if stray || r.needsTarget then .refused else .request r
  | stray, r, .plain t :: rest =>
      if r.needsTarget then
        match rest with
        | .divider :: rest => ofWords spellings stray { r with target := some t } rest
        | rest => ofWords spellings stray { r with target := some t } rest
      else ofWords spellings true r rest
  | stray, r, .divider :: rest => match r.needsTarget, rest with
      | true, .plain t :: rest => ofWords spellings stray { r with target := some t } rest
      | _, rest => ofWords spellings true r rest
  | _, r, .unknown :: rest => ofWords spellings true r rest
  | stray, r, .flag f short attached :: rest => match bundleOf spellings f short attached with
      | none => .refused
      | some ⟨settings, none⟩ => match r.setAll settings with
          | .error reading => reading
          | .ok r => ofWords spellings stray r rest
      | some ⟨settings, some g⟩ =>
          if g.takesValue then
            match rest with
            | .plain t :: rest => match r.setAll (settings ++ [(g, .text t)]) with
                | .error reading => reading
                | .ok r => ofWords spellings stray r rest
            | _ => .refused
          else match r.setAll (settings ++ [(g, .null)]) with
            | .error reading => reading
            | .ok r => ofWords spellings stray r rest

/-- Reads the arguments of a command. -/
def ofCommand (stray : Bool) (verb : Verb) (arguments : List Text) : Reading :=
  match Word.ofArguments? (Flag.spellings verb) arguments with
  | none => .refused
  | some words => ofWords (Flag.spellings verb) stray (empty verb) words

/-- Reads the arguments in front of a command, and the command. -/
def read (stray : Bool) : List Text → Reading
  | [] => .refused
  | t :: rest =>
      if t = Text.ofString "--" then .refused
      else match Word.ofText? Flag.helpSpellings t with
        | some (.plain name) => match Verb.ofName? name with
            | some verb => ofCommand stray verb rest
            | none => .refused
        | some .unknown => read true rest
        | some (.flag f short attached) =>
            if (bundleOf Flag.helpSpellings f short attached).isSome then .help else .refused
        | _ => .refused

/-- Reads the arguments of the command line. -/
def ofArguments (arguments : List Text) : Reading := read false arguments

end Request

end ConfigReader
