import ConfigReader.Value

/-!
# Scalar kinds

The three kinds of scalars a program reads, with the type that carries each.
-/

namespace ConfigReader

/-- A kind of scalar. -/
inductive Kind where
  /-- Texts. -/
  | string
  /-- Integers. -/
  | integer
  /-- Truth values. -/
  | boolean
deriving DecidableEq

namespace Kind

/-- The type that carries scalars of a kind. -/
abbrev Carrier : Kind → Type
  | string => Text
  | integer => Int
  | boolean => Bool

/-- A scalar as a value. -/
def toValue : (kind : Kind) → kind.Carrier → Value
  | string, t => .text t
  | integer, n => .int n
  | boolean, b => .bool b

/-- The name of a kind. -/
def name : Kind → Text
  | string => "string"
  | integer => "integer"
  | boolean => "boolean"

/-- The name of a kind in descriptions and messages. -/
def typeName : Kind → Text
  | string => "String"
  | integer => "Integer"
  | boolean => "Boolean"

/-- All kinds. -/
def all : List Kind := [string, integer, boolean]

/-- The kind with a name. -/
def ofName? (name : Text) : Option Kind := all.find? (·.name = name)

end Kind

end ConfigReader
