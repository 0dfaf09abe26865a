import ConfigReader.ErrorClass
import ConfigReader.Kind
import ConfigReader.Number.Literal

/-!
# Failures

Every way in which building, loading or running can fail, by cause.  The wording
is in one function, `Failure.message`, and the class to which a failure belongs in
`Failure.errorClass`.

A *read failure* is what a source reports about one path: nothing is there, or
what is there does not fit.  Strategies that go on after a failure go on after
these and no others, and keep an *issue* for each.
-/

namespace ConfigReader

/-! ## Read failures and issues -/

/-- Why a read failed. -/
inductive FailureKind where
  /-- Nothing is at the path. -/
  | missingKey
  /-- What is at the path does not fit. -/
  | malformedValue
deriving DecidableEq

/-- The name of a failure kind. -/
def FailureKind.name : FailureKind → Text
  | missingKey => "missing_key"
  | malformedValue => "malformed_value"

/-- The failure kind with a name. -/
def FailureKind.ofName? (name : Text) : Option FailureKind :=
  [missingKey, malformedValue].find? (·.name = name)

/-- A failed read. -/
inductive ReadFailure where
  /-- Nothing is at the path. -/
  | missing (path : Text)
  /-- The value at the path is not what was expected. -/
  | malformed (path expected : Text) (raw : Value)

namespace ReadFailure

/-- The path of the failed read. -/
def path : ReadFailure → Text
  | missing path => path
  | malformed path _ _ => path

/-- Why the read failed. -/
def kind : ReadFailure → FailureKind
  | missing _ => .missingKey
  | malformed .. => .malformedValue

end ReadFailure

/-- A failed read as a validation report lists it. -/
structure Issue where
  /-- The path of the failed read. -/
  path : Text
  /-- Why the read failed. -/
  kind : FailureKind
  /-- What the report says. -/
  message : Text
deriving DecidableEq

/-- How a report names a path that could not be read. -/
def keyNotFound (path : Text) : Text := "key not found: " ++ path

/-- The issue of a failed read.  A malformed value is reported like a missing one
and differs in kind only. -/
def ReadFailure.issue (f : ReadFailure) : Issue := ⟨f.path, f.kind, keyNotFound f.path⟩

/-! ## Causes -/

/-- Why a program cannot be built or run. -/
inductive ProgramFault where
  /-- A key is not a text. -/
  | keyType (typeName : Text)
  /-- A key is empty or blank. -/
  | keyBlank
  /-- A key has a separator in it. -/
  | keyDotted (key : Text)
  /-- A list of scalars is given something else than a kind. -/
  | elementKind (shown : Text)
  /-- A node is given something else than a program. -/
  | needsProgram (owner typeName : Text)
  /-- A joining function is given something else than programs. -/
  | needsPrograms (owner typeName : Text)
  /-- A combinator is given something that cannot be called. -/
  | needsFunction (owner typeName : Text)
  /-- A list is given neither a program nor a kind for its items. -/
  | listItem (shown : Text)
  /-- A program holds an object that is no node. -/
  | unsupportedNode (typeName : Text)
  /-- Something else than a program is to be run. -/
  | notAProgram (typeName : Text)

/-- The wording of a program fault. -/
def ProgramFault.message : ProgramFault → Text
  | keyType typeName => "key must be a string, got " ++ typeName
  | keyBlank => "key must not be empty"
  | keyDotted key => "key must be a single path segment, got " ++ key.quoted
  | elementKind shown => "element kind must be an ElementKind, got " ++ shown
  | needsProgram owner typeName => owner ++ " requires a Program, got " ++ typeName
  | needsPrograms owner typeName => owner ++ " requires Program arguments, got " ++ typeName
  | needsFunction owner typeName => owner ++ " requires a callable, got " ++ typeName
  | listItem shown => "read_list item must be a Program or element kind, got " ++ shown
  | unsupportedNode typeName => "unsupported expression node: " ++ typeName
  | notAProgram typeName => "expected a Program, got " ++ typeName

/-- The formats of source files. -/
inductive Format where
  /-- Lines of keys and values. -/
  | properties
  /-- TOML documents. -/
  | toml
  /-- YAML documents. -/
  | yaml
  /-- JSON documents. -/
  | json
deriving DecidableEq

namespace Format

/-- The name of a format. -/
def name : Format → Text
  | properties => "properties"
  | toml => "toml"
  | yaml => "yaml"
  | json => "json"

/-- The name of a format in messages. -/
def title : Format → Text
  | properties => "properties"
  | toml => "TOML"
  | yaml => "YAML"
  | json => "JSON"

/-- All formats. -/
def all : List Format := [properties, toml, yaml, json]

/-- The format with a name. -/
def ofName? (name : Text) : Option Format := all.find? (·.name = name)

/-- The file suffixes, in ascending order, and the format of each. -/
def suffixes : List (Text × Format) :=
  [(".json", json), (".properties", properties), (".props", properties), (".toml", toml),
   (".yaml", yaml), (".yml", yaml)]

end Format

/-- Why a source cannot be made or loaded. -/
inductive SourceFault where
  /-- An entry key is not a text. -/
  | entryKey (origin typeName : Text)
  /-- A document is not a mapping. -/
  | documentRoot (origin : Text)
  /-- Layers without a layer. -/
  | noLayer
  /-- A layer that is no source. -/
  | notASource (typeName : Text)
  /-- An argument that does not start with a dash. -/
  | invalidParameter (argument : Text)
  /-- An argument that is dashes only. -/
  | emptyName (argument : Text)
  /-- A name without a value after it. -/
  | missingValue (argument : Text)
  /-- A suffix that no format has. -/
  | unknownSuffix (path : Text)
  /-- A name that no format has. -/
  | unknownFormat (given : Text)
  /-- No file is at the path. -/
  | fileNotFound (path : Text)
  /-- No path is given. -/
  | noPath
  /-- The content of a file does not follow its format. -/
  | invalid (format : Format) (path detail : Text)
  /-- A file cannot be opened. -/
  | unreadable (format : Format) (path reason : Text)
  /-- The document of a file is not a mapping. -/
  | fileRoot (path : Text)

/-- The wording of a source fault. -/
def SourceFault.message : SourceFault → Text
  | entryKey origin typeName => origin ++ ": key must be a string, got " ++ typeName
  | documentRoot origin => origin ++ ": document root must be a table/mapping"
  | noLayer => "LayeredSource requires at least one layer"
  | notASource typeName => "layer must be a Source, got " ++ typeName
  | invalidParameter argument => "invalid param: " ++ argument
  | emptyName argument => "not a valid argument: " ++ argument
  | missingValue argument => "expected a value after: " ++ argument
  | unknownSuffix path =>
      "cannot infer source format of " ++ path ++ " (supported suffixes: " ++
        Value.commaed (Format.suffixes.map (·.1)) ++ ")"
  | unknownFormat given =>
      "unsupported source format " ++ given.quoted ++ "; expected one of " ++
        Value.commaed (Format.all.map Format.name)
  | fileNotFound path => "source file not found: " ++ path
  | noPath => "at least one source path is required"
  | invalid format path detail => "invalid " ++ format.title ++ " in " ++ path ++ ": " ++ detail
  | unreadable format path reason =>
      "unable to read " ++ format.title ++ " file " ++ path ++ ": " ++ reason
  | fileRoot path => "document root must be a table/mapping: " ++ path

/-- Why runtime settings cannot be resolved. -/
inductive SettingsFault where
  /-- A name that no setting has. -/
  | unknownSetting (name : Text)
  /-- A value that does not fit its setting. -/
  | invalidValue (origin shown : Text)
  /-- A name that no logging level has. -/
  | unknownLevel (origin shown : Text)

/-- The wording of a settings fault. -/
def SettingsFault.message : SettingsFault → Text
  | unknownSetting name => "unknown setting: " ++ name
  | invalidValue origin shown => "invalid value for " ++ origin ++ ": " ++ shown
  | unknownLevel origin shown =>
      "invalid value for " ++ origin ++ ": unsupported logging level " ++ shown

/-! ## Failures -/

/-- Any failure. -/
inductive Failure where
  /-- A read failed. -/
  | read (cause : ReadFailure)
  /-- A program is not well formed. -/
  | program (cause : ProgramFault)
  /-- A source cannot be made or loaded. -/
  | source (cause : SourceFault)
  /-- Settings cannot be resolved. -/
  | settings (cause : SettingsFault)
  /-- A value was asked of a result that has issues. -/
  | invalid (issues : List Issue)
  /-- An integer has too many digits to be read, or to be written. -/
  | integerTooLong (digits : Option Nat)
  /-- An escape by number is not written in full. -/
  | escape (written : Text)
  /-- The bytes of a file are not UTF-8. -/
  | undecodable (reason : Text)
  /-- The process is to end with a code. -/
  | exit (code : Value)
  /-- A failure known by its class and its message, and none of a read. -/
  | stated (errorClass : ErrorClass) (message : Text)
  /-- A failure to read a program text, of which nothing is said. -/
  | unsaid (errorClass : ErrorClass)

namespace Failure

/-- The class of a failure. -/
def errorClass : Failure → ErrorClass
  | read (.missing _) => .own .missingKey
  | read (.malformed ..) => .own .malformedValue
  | program _ => .own .invalidProgram
  | source _ => .own .source
  | settings _ => .own .settings
  | invalid _ => .own .programValidation
  | integerTooLong _ => .builtin "ValueError"
  | escape _ => .builtin "ValueError"
  | undecodable _ => .builtin "UnicodeDecodeError"
  | exit _ => .builtin "SystemExit"
  | stated errorClass _ => errorClass
  | unsaid errorClass => errorClass

/-- The name under which a failure is reported. -/
def className (f : Failure) : Text := f.errorClass.name

/-- The failure is one of a known class. -/
def isA (f : Failure) (k : KnownClass) : Bool := f.errorClass.isA k

/-- The wording of a failure. -/
def message : Failure → Text
  | read (.missing path) => keyNotFound path
  | read (.malformed path expected raw) =>
      "malformed value for " ++ path ++ ": expected " ++ expected ++ ", got " ++
        raw.quoted?.getD []
  | program cause => cause.message
  | source cause => cause.message
  | settings cause => cause.message
  | invalid [] => "invalid config:\nunknown validation failure"
  | invalid issues => "invalid config:\n" ++
      Text.join "\n" (issues.map fun i => "- " ++ i.path ++ ": " ++ i.message)
  | integerTooLong digits =>
      "Exceeds the limit (4300 digits) for integer string conversion" ++
        (match digits with
          | some n => ": value has " ++ Text.ofNat n ++ " digits"
          | none => []) ++
        "; use sys.set_int_max_str_digits() to increase the limit"
  | escape written => "malformed \\uXXXX escape: " ++ written
  | undecodable reason => "'utf-8' codec can't decode " ++ reason
  | exit code => code.plain?.getD []
  | stated _ message => message
  | unsaid _ => "None"

/-- The failure of a builtin class with a message. -/
def builtin (name message : Text) : Failure := .stated (.builtin name) message

/-- The failure of the class with a name and with a message.  Two classes have other names
as well, a missing key is quoted, and a program text may fail without a word. -/
def ofClass (name message : Text) : Failure :=
  let second : List Text := ["IOError", "EnvironmentError"]
  let silent : List Text := ["SyntaxError", "IndentationError", "TabError"]
  if second.contains name then builtin "OSError" message
  else if name = Text.ofString "KeyError" && !message.isEmpty then builtin name message.quoted
  else if silent.contains name && message.isEmpty then .unsaid (.builtin name)
  else .stated (.named name) message

/-- The failure of a value that is not what was expected.  A message has to show
the value, so a value without a text fails for that reason. -/
def malformed (path expected : Text) (raw : Value) : Failure :=
  if raw.quoted?.isSome then .read (.malformed path expected raw) else .integerTooLong none

/-- The failure of a text that is no integer literal in a base. -/
def ofLiteral (base : Nat) (t : Text) : LiteralFault → Failure
  | .malformed => builtin "ValueError"
      ("invalid literal for int() with base " ++ Text.ofNat base ++ ": " ++
        (t.quoted.take 200 : Text))
  | .tooLong digits => .integerTooLong (some digits)

/-- The failure of going too deep into collections, and while doing what. -/
def tooDeep (doing : Text) : Failure :=
  builtin "RecursionError" ("maximum recursion depth exceeded" ++ doing)

/-- The failure of an object that is asked for something its type does not have. -/
def noAttribute (typeName name : Text) : Failure :=
  builtin "AttributeError" ("'" ++ typeName ++ "' object has no attribute '" ++ name ++ "'")

/-- The classes a failure belongs to, among the four that callers catch by. -/
def families (f : Failure) : List Text :=
  (([.pureConf, .read, .value, .lookup] : List KnownClass).filter f.isA).map KnownClass.name

/-- A failure in one text: its class and, if there is one, its message. -/
def report (f : Failure) : Text :=
  match f with
  | unsaid errorClass => errorClass.qualifiedName ++ ": <no detail available>"
  | f =>
      let name := f.errorClass.qualifiedName
      if f.message.isEmpty then name else name ++ ": " ++ f.message

end Failure

end ConfigReader
