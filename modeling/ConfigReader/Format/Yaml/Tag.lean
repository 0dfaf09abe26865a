import ConfigReader.Format.Yaml.Number
import ConfigReader.Format.Yaml.Timestamp

/-!
# YAML tags

A tag says what a node stands for.  A document may give it.  If it does not, a
plain scalar is told by its shape, any other scalar is a text, and a collection is
a sequence or a mapping.  The lone tag `!` asks for the shape of a scalar even if
it is quoted.

A tag may be cut into a handle and a suffix, and a handle stands for the beginning
of a tag.
-/

namespace ConfigReader.Yaml

/-! ## Tags of the standard -/

/-- The beginning of the tags of the standard. -/
def coreLead : Text := "tag:yaml.org,2002:"

/-- A tag of the standard. -/
def coreTag (name : Text) : Text := coreLead ++ name

/-- The spellings of truth values. -/
def truthWords : List Text :=
  ["yes", "Yes", "YES", "no", "No", "NO", "true", "True", "TRUE", "false", "False", "FALSE",
   "on", "On", "ON", "off", "Off", "OFF"]

/-- The spellings of null. -/
def nullWords : List Text := ["", "~", "null", "Null", "NULL"]

/-- The shapes of plain scalars and the name of each. -/
def shapes : List (Text × (Text → Bool)) :=
  [("bool", truthWords.contains),
   ("float", isFloat),
   ("int", isInteger),
   ("merge", (· = Text.ofString "<<")),
   ("null", nullWords.contains),
   ("timestamp", Stamp.hasShape),
   ("value", (· = Text.ofString "=")),
   ("yaml", fun t => t.length == 1 && t.all (isAmong "!&*"))]

/-- The tag of a scalar by its shape, a line feed at the end aside. -/
def shapeTag (t : Text) : Text :=
  let word := if t.getLast? = some (.scalar '\n') && t.length > 1 then t.dropLast else t
  match shapes.find? fun (_, hasShape) => hasShape word with
  | some (name, _) => coreTag name
  | none => coreTag "str"

/-- The tag `!` alone. -/
def openTag : Text := "!"

/-- The tag of a scalar. -/
def scalarTag (given : Option Text) (plain : Bool) (t : Text) : Text :=
  match given with
  | none => if plain then shapeTag t else coreTag "str"
  | some tag => if tag = openTag then shapeTag t else tag

/-- The tag of a collection. -/
def collectionTag (given : Option Text) (name : Text) : Text :=
  match given with
  | none => coreTag name
  | some tag => if tag = openTag then coreTag name else tag

/-! ## Handles -/

/-- What each handle stands for. -/
abbrev Handles := List (Text × Text)

/-- The handles of a document that declares none. -/
def Handles.initial : Handles := [("!", "!"), ("!!", coreLead)]

/-- The tag of a handle and a suffix. -/
def Handles.tag? (handles : Handles) (handle : Option Text) (suffix : Text) : Option Text :=
  match handle with
  | none => some suffix
  | some name => (handles.lookup name).map (· ++ suffix)

end ConfigReader.Yaml
