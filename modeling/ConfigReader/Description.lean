import ConfigReader.Program

/-!
# Descriptions

A *description* lists what a program reads, one line for each read, without a
source.  The elements of a list of records are unknown, so a placeholder stands
for their ids.  Functions and constants add nothing.
-/

namespace ConfigReader

/-- A leaf of a program that is no constant. -/
inductive Leaf where
  /-- A read at a path, with the name of what is read. -/
  | read (path typeName : Text)
  /-- An object of another type in the place of a program. -/
  | unsupported (typeName : Text)
deriving DecidableEq

/-- The segment that stands for the id of any element. -/
def anyElement : Text := "[]"

/-- The reads of a program in a scope, from left to right, function sides first. -/
def Program.leaves : {α : Type} → Program α → KeyPath → List Leaf
  | _, pure _, _ => []
  | _, scalar kind key, path => [.read (path.resolve key.text) kind.typeName]
  | _, scalars key kind, path => [.read (path.resolve key.text) (kind.typeName ++ "[]")]
  | _, records key item, path => item.leaves ((path.child key.text).child anyElement)
  | _, nested key inner, path => inner.leaves (path.child key.text)
  | _, map program _, path => program.leaves path
  | _, ap fnProgram program, path => fnProgram.leaves path ++ program.leaves path
  | _, unsupported typeName, _ => [.unsupported typeName]

/-- The line of a read. -/
def Leaf.line (path typeName : Text) : Text := "- " ++ path ++ ": " ++ typeName ++ "\n"

/-- The lines of leaves, up to the first one that is no read. -/
def describeLeaves : List Leaf → Except Failure Text
  | [] => .ok []
  | .read path typeName :: rest => (describeLeaves rest).map (Leaf.line path typeName ++ ·)
  | .unsupported typeName :: _ => .error (.program (.unsupportedNode typeName))

/-- The description of a program in a scope. -/
def Program.describeIn {α : Type} (p : Program α) (path : KeyPath) : Except Failure Text :=
  describeLeaves (p.leaves path)

/-- The description of a program. -/
def Program.describe {α : Type} (p : Program α) : Except Failure Text := p.describeIn .root

end ConfigReader
