import ConfigReader.Run
import ConfigReader.Text.Class

/-!
# Keys and paths

A *key* is one segment of a path: a text that is not blank and has no separator in
it.  A *key path* is the scope a program is read in, the fragments from the root
down.  It is spelt out by joining its fragments with separators.  The root has no
fragment and adds nothing in front of a key.
-/

namespace ConfigReader

/-! ## Keys -/

/-- The separator of the segments of a path. -/
def separator : CodePoint := .scalar '.'

/-- A text that can stand as one segment. -/
def isKey (t : Text) : Bool := !t.isBlank && !t.contains separator

/-- A key: one segment of a path. -/
structure Key where
  /-- The text of the key. -/
  text : Text
  /-- The text can stand as one segment. -/
  isKey_text : isKey text = true

/-- The key a value stands for. -/
def Key.check : Value → Except ProgramFault Key
  | .text t =>
      if t.isBlank then .error .keyBlank
      else if h : isKey t = true then .ok ⟨t, h⟩
      else .error (.keyDotted t)
  | v => .error (.keyType v.typeName)

/-! ## Paths -/

/-- The scope a program is read in. -/
inductive KeyPath where
  /-- The whole source. -/
  | root
  /-- The scope under a fragment of a scope. -/
  | child (parent : KeyPath) (fragment : Text)

namespace KeyPath

/-- The path of a fragment inside a scope. -/
def resolve : KeyPath → Text → Text
  | root, leaf => leaf
  | child parent fragment, leaf => parent.resolve fragment ++ separator :: leaf

/-- The path of the scope itself, empty at the root. -/
def scope : KeyPath → Text
  | root => []
  | child parent fragment => parent.resolve fragment

/-- The scope is the whole source. -/
def isRoot : KeyPath → Bool
  | root => true
  | child .. => false

/-- The fragments from the root down. -/
def fragments : KeyPath → List Text
  | root => []
  | child parent fragment => parent.fragments ++ [fragment]

/-- The scope under fragments of a scope, the first one outermost. -/
def descend (path : KeyPath) (fragments : List Text) : KeyPath := fragments.foldl child path

end KeyPath

example : ((KeyPath.root.child "a").child "b").resolve "c" = ("a.b.c" : Text) := by decide

end ConfigReader
