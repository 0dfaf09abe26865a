import ConfigReader.Text

/-!
# Classes of errors

An error is caught by the class it belongs to, and it belongs to its own class and to
all classes above that one.  So a class of errors is a name together with the classes
that callers ask for and that it is, or is derived from.  Two classes of one name are
different classes, and an error of a derived class is caught like one of the class above.
-/

namespace ConfigReader

/-- A class that callers ask for. -/
inductive KnownClass where
  /-- Any failure of the library. -/
  | pureConf
  /-- A program is not well formed. -/
  | invalidProgram
  /-- A source cannot be made or loaded. -/
  | source
  /-- Settings cannot be resolved. -/
  | settings
  /-- A read failed. -/
  | read
  /-- Nothing is at a path. -/
  | missingKey
  /-- What is at a path does not fit. -/
  | malformedValue
  /-- A value was asked of a result that has issues. -/
  | programValidation
  /-- A value is not what it has to be. -/
  | value
  /-- A text cannot be encoded or decoded. -/
  | unicode
  /-- A key or an index is not there. -/
  | lookup
  /-- The end of items. -/
  | stopIteration
  /-- No file is at a path. -/
  | fileNotFound
  /-- A part of a path is no directory. -/
  | notADirectory
  /-- Something is not permitted. -/
  | permission
deriving DecidableEq

namespace KnownClass

/-- A class and all classes above it. -/
def lineage : KnownClass → List KnownClass
  | invalidProgram => [invalidProgram, pureConf, value]
  | source => [source, pureConf, value]
  | settings => [settings, pureConf, value]
  | read => [read, pureConf]
  | missingKey => [missingKey, read, pureConf, lookup]
  | malformedValue => [malformedValue, read, pureConf, value]
  | programValidation => [programValidation, pureConf, value]
  | unicode => [unicode, value]
  | c => [c]

/-- The name of a class. -/
def name : KnownClass → Text
  | pureConf => "PureConfError"
  | invalidProgram => "InvalidProgramError"
  | source => "SourceError"
  | settings => "SettingsError"
  | read => "ReadError"
  | missingKey => "MissingKeyError"
  | malformedValue => "MalformedValueError"
  | programValidation => "ProgramValidationError"
  | value => "ValueError"
  | unicode => "UnicodeError"
  | lookup => "LookupError"
  | stopIteration => "StopIteration"
  | fileNotFound => "FileNotFoundError"
  | notADirectory => "NotADirectoryError"
  | permission => "PermissionError"

/-- The classes of the library. -/
def own : List KnownClass :=
  [pureConf, invalidProgram, source, settings, read, missingKey, malformedValue,
   programValidation]

/-- The classes that are there anyway. -/
def builtin : List KnownClass :=
  [value, unicode, lookup, stopIteration, fileNotFound, notADirectory, permission]

end KnownClass

/-- A class of errors. -/
structure ErrorClass where
  /-- The module that defines the class, or nothing for a class that is there anyway. -/
  module : Option Text
  /-- The name of the class. -/
  name : Text
  /-- The known classes that the class is, or is derived from. -/
  bases : List KnownClass
deriving DecidableEq

namespace ErrorClass

/-- A class of the library. -/
def own (c : KnownClass) : ErrorClass := ⟨some "pureconf.errors", c.name, [c]⟩

/-- The known classes above those that are there anyway and that nobody asks for. -/
def derivedBuiltins : List (Text × KnownClass) :=
  [("UnicodeDecodeError", .unicode), ("UnicodeEncodeError", .unicode),
   ("UnicodeTranslateError", .unicode), ("KeyError", .lookup), ("IndexError", .lookup)]

/-- The class with a name among those that are there anyway. -/
def builtin (name : Text) : ErrorClass where
  module := none
  name := name
  bases := KnownClass.builtin.filter (·.name = name) ++
    (derivedBuiltins.filter (·.1 = name)).map Prod.snd

/-- The class with a name among those of the library and those that are there anyway. -/
def named (name : Text) : ErrorClass :=
  match KnownClass.own.find? (·.name = name) with
  | some c => own c
  | none => builtin name

/-- A class derived from others. -/
def derived (module name : Text) (classes : List ErrorClass) : ErrorClass :=
  ⟨some module, name, classes.flatMap bases⟩

/-- An error of the class is one of a known class. -/
def isA (c : ErrorClass) (k : KnownClass) : Bool := c.bases.any (·.lineage.contains k)

/-- An error of a derived class is one of whatever known class a class above it is. -/
theorem isA_derived {module name : Text} {classes : List ErrorClass} {k : KnownClass} :
    (derived module name classes).isA k = classes.any (·.isA k) := by
  simp only [isA, derived, List.any_flatMap]

/-- The name of a class with its module, if that has to be said. -/
def qualifiedName (c : ErrorClass) : Text :=
  match c.module with
  | none => c.name
  | some module => if module = Text.ofString "__main__" then c.name else module ++ "." ++ c.name

end ErrorClass

end ConfigReader
