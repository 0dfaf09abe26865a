import ConfigReader.Kind

/-!
# Lookups

What a program can ask of a source: a scalar of a kind at a path, the elements of
a list of scalars, or the elements of a list of records.  The answer to the first
is a scalar.  The answer to the others is the list of element ids, the segments
under which the elements are found.
-/

namespace ConfigReader

/-- A question to a source. -/
inductive Lookup where
  /-- The scalar of a kind at a path. -/
  | scalar (kind : Kind) (path : Text)
  /-- The elements of a list of scalars. -/
  | elements (path : Text) (kind : Kind)
  /-- The elements of a list of records. -/
  | records (path : Text)
deriving DecidableEq

namespace Lookup

/-- What answers a lookup.  The elements of a list of scalars are answered by their keys, under
which they are read.  There are no elements that have their values with them. -/
abbrev Answer : Lookup → Type
  | scalar kind _ => kind.Carrier
  | elements _ _ => List Text
  | records _ => List Text

/-- The path a lookup asks for. -/
def path : Lookup → Text
  | scalar _ path => path
  | elements path _ => path
  | records path => path

/-- The name of a lookup. -/
def name : Lookup → Text
  | scalar .string _ => "get_string"
  | scalar .integer _ => "get_integer"
  | scalar .boolean _ => "get_boolean"
  | elements .. => "get_iterable_primitive"
  | records _ => "get_iterable_nested"

/-- The name under which a program asks for a lookup.  It has one name for scalars
of any kind. -/
def request : Lookup → Text
  | scalar .. => "get_scalar"
  | q => q.name

/-- A lookup in a trace. -/
def text (q : Lookup) : Text :=
  let asked : Text := q.name ++ " " ++ q.path
  match q with
  | elements _ kind => asked ++ " " ++ kind.name
  | _ => asked

end Lookup

end ConfigReader
