import ConfigReader.Failure
import ConfigReader.Text.Class

/-!
# Logging levels

A level is an integer, and some levels have names.  Two names are second names of
a level and are understood but never shown.  A level may be given by a truth value,
which counts as zero or one and is remembered as what it is.
-/

namespace ConfigReader

/-- A level. -/
structure Level where
  /-- The number: higher for what matters more. -/
  number : Int
  /-- The level was given as a truth value. -/
  isFlag : Bool
deriving DecidableEq

namespace Level

/-- No level of its own. -/
def unset : Level := ⟨0, false⟩

/-- The names of levels. -/
def names : List (Text × Int) :=
  [("CRITICAL", 50), ("FATAL", 50), ("ERROR", 40), ("WARN", 30), ("WARNING", 30), ("INFO", 20),
   ("DEBUG", 10), ("NOTSET", 0)]

/-- The capital of a letter.  Beyond ASCII only the two letters count whose capital
is an ASCII letter. -/
def capital (c : CodePoint) : CodePoint :=
  if c = .scalar 'ı' then 'I' else if c = .scalar 'ſ' then 'S' else c.upperAscii

/-- A name without blank space around it and in capitals. -/
def normalize (name : Text) : Text := name.strip.map capital

/-- The number of the level with a normalized name. -/
def ofName? (name : Text) : Option Int := names.lookup name

/-- The name of a level in log lines. -/
def shownName (number : Int) : Text :=
  match (names.filter fun (name, _) =>
      name ≠ Text.ofString "FATAL" && name ≠ Text.ofString "WARN").find? (·.2 = number) with
  | some (name, _) => name
  | none => "Level " ++ Text.ofInt number

/-- The level that a value gives. -/
def parse : Value → Except Failure Level
  | .int n => .ok ⟨n, false⟩
  | .bool b => .ok ⟨if b then 1 else 0, true⟩
  | .text name => match ofName? (normalize name) with
      | some number => .ok ⟨number, false⟩
      | none => .error (.builtin "ValueError" ("unsupported logging level " ++ name.quoted))
  | v => .error (.builtin "ValueError" ("level must be int or str, got " ++ v.typeName))

end Level

end ConfigReader
