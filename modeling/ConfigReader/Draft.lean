import ConfigReader.Combinator
import ConfigReader.Program

/-!
# Drafts

A *draft* is a program as data.  Its parts may be any values, so it is checked
when it is built: keys must be keys, functions must be functions, and programs
must be programs.  What is built is a *blueprint*, that is a program of values
together with its outermost node, or an object of another type.  The parts of a
node are blueprints again, so every part of a program can be looked at and run by
itself.
-/

namespace ConfigReader

/-- A program as data. -/
inductive Draft where
  /-- A value in the place of a program. -/
  | value (v : Value)
  /-- A kind, as the item of a list. -/
  | kind (k : Kind)
  /-- A type object, as the item of a list. -/
  | typeObject (name : Text)
  /-- A constant. -/
  | pure (v : Value)
  /-- A scalar at a key. -/
  | scalar (kind : Kind) (key : Value)
  /-- A scalar at a key, the kind given by an item. -/
  | scalarRead (kind : Draft) (key : Value)
  /-- A list at a key, of scalars or of records, as the item says. -/
  | list (key : Value) (item : Draft)
  /-- A list of scalars at a key. -/
  | scalars (key : Value) (kind : Draft)
  /-- A list of records at a key. -/
  | records (key : Value) (item : Draft)
  /-- A scope under a key. -/
  | nested (key : Value) (inner : Draft)
  /-- A function called with a result. -/
  | map (program : Draft) (fn : Value)
  /-- A yielded function called with a result. -/
  | ap (program fnProgram : Draft)
  /-- A function called with the results of several programs. -/
  | join (programs : List Draft) (fn : Value)
  /-- A value taken for a node without a check. -/
  | lift (v : Value)

mutual

/-- A program of values with its outermost node. -/
inductive Blueprint : Type 1 where
  /-- The blueprint of a program and a node. -/
  | mk (program : Program Value) (node : Node)

/-- A node of a program. -/
inductive Node : Type 1 where
  /-- A node by its name, with its parts by their names. -/
  | expression (form : Text) (parts : List (Text × Part))
  /-- A value in the place of a node. -/
  | other (v : Value)

/-- A part of a node. -/
inductive Part : Type 1 where
  /-- A program. -/
  | program (b : Blueprint)
  /-- A kind. -/
  | kind (k : Kind)
  /-- A value. -/
  | value (v : Value)
  /-- The function that takes the first of several joined results. -/
  | joiner

end

/-- The name of a node. -/
def Node.form : Node → Text
  | expression form _ => form
  | other v => v.typeName

namespace Blueprint

/-- The program of a blueprint. -/
def program : Blueprint → Program Value
  | mk program _ => program

/-- The outermost node. -/
def node : Blueprint → Node
  | mk _ node => node

/-- How messages show a program. -/
def shown (b : Blueprint) : Text := "Program(" ++ b.node.form ++ ")"

/-- The blueprint of a program by the name and the parts of its node. -/
def ofParts (form : Text) (parts : List (Text × Part)) (program : Program Value) : Blueprint :=
  mk program (.expression form parts)

end Blueprint

/-- What a draft is built into. -/
inductive Built where
  /-- A program. -/
  | program (b : Blueprint)
  /-- A kind. -/
  | kind (k : Kind)
  /-- A type object. -/
  | typeObject (name : Text)
  /-- A value. -/
  | value (v : Value)

namespace Built

/-- The name of the type of what was built. -/
def typeName : Built → Text
  | program _ => "Program"
  | kind _ => "ElementKind"
  | typeObject _ => "type"
  | value v => v.typeName

/-- How messages show what was built. -/
def shown : Built → Text
  | program b => b.shown
  | kind k => "<ElementKind." ++ k.name.upperAscii ++ ": " ++ k.name.quoted ++ ">"
  | typeObject name => "<class '" ++ name ++ "'>"
  | value v => v.quoted?.getD []

end Built

/-- The kind that a type object stands for as the item of a list. -/
def kindOfType? (name : Text) : Option Kind :=
  if name = Text.ofString "str" then some .string
  else if name = Text.ofString "int" then some .integer
  else if name = Text.ofString "bool" then some .boolean
  else none

/-- Uses a result that may live in a larger universe. -/
def andThen {ε : Type} {α : Type u} {β : Type v} (x : Except ε α) (use : α → Except ε β) :
    Except ε β :=
  match x with
  | .ok a => use a
  | .error e => .error e

namespace Built

/-- The name of the node that reads a scalar of a kind. -/
def scalarForm : Kind → Text
  | .string => "ReadString"
  | .integer => "ReadInt"
  | .boolean => "ReadBool"

/-- A program built from a checked key. -/
def atKey (key : Value) (use : Key → Built) : Except Failure Built :=
  match Key.check key with
  | .ok k => .ok (use k)
  | .error f => .error (.program f)

/-- A scalar at a key. -/
def scalar (kind : Kind) (key : Value) : Except Failure Built :=
  atKey key fun k => program <|
    .ofParts (scalarForm kind) [("key", .value key), ("kind", .kind kind)] <|
      (Program.scalar kind k).map fun a => Run.pure (kind.toValue a)

/-- A list of scalars at a key. -/
def scalars (kind : Kind) (key : Value) : Except Failure Built :=
  atKey key fun k => program <|
    .ofParts "ReadPrimitiveList" [("key", .value key), ("element_kind", .kind kind)] <|
      (Program.scalars k kind).map fun as => Run.pure (.list (as.map kind.toValue))

/-- A list of records at a key. -/
def records (item : Built) (key : Value) : Except Failure Built :=
  match Key.check key, item with
  | .error f, _ => .error (.program f)
  | .ok k, program b => .ok <| program <|
      .ofParts "ReadList" [("key", .value key), ("item", .program b)] <|
        (Program.records k b.program).map fun vs => Run.pure (.list vs)
  | .ok _, other => .error (.program (.needsProgram "ReadList" other.typeName))

/-- A scope under a key. -/
def nested (inner : Built) (key : Value) : Except Failure Built :=
  match Key.check key, inner with
  | .error f, _ => .error (.program f)
  | .ok k, program b => .ok <| program <|
      .ofParts "ReadNested" [("key", .value key), ("inner", .program b)]
        (Program.nested k b.program)
  | .ok _, other => .error (.program (.needsProgram "ReadNested" other.typeName))

/-- A list at a key, of scalars or of records. -/
def list (item : Built) (key : Value) : Except Failure Built :=
  let refuse : Except Failure Built := .error (.program (.listItem item.shown))
  match item with
  | program b => records (program b) key
  | kind k => scalars k key
  | typeObject name => match kindOfType? name with
      | some k => scalars k key
      | none => refuse
  | value _ => refuse

/-- A list of scalars at a key, the kind given by an item. -/
def scalarsOf (item : Built) (key : Value) : Except Failure Built :=
  match Key.check key, item with
  | .error f, _ => .error (.program f)
  | .ok _, kind k => scalars k key
  | .ok _, other => .error (.program (.elementKind other.shown))

/-- A scalar at a key, the kind given by an item or by its name. -/
def scalarOf (item : Built) (key : Value) : Except Failure Built :=
  let refuse : Except Failure Built := .error (.builtin "KeyError" item.shown)
  match item with
  | kind k => scalar k key
  | value (.text name) => match Kind.ofName? name with
      | some k => scalar k key
      | none => refuse
  | value (.list _) => .error (.builtin "TypeError" "unhashable type: 'list'")
  | value (.map _) => .error (.builtin "TypeError" "unhashable type: 'dict'")
  | _ => refuse

/-- Only functions can be called. -/
def requireFunction (owner : Text) : Value → Except Failure Unit
  | .function .. => .ok ()
  | v => .error (.program (.needsFunction owner v.typeName))

/-- Only programs have a method. -/
def requireMethod (name : Text) : Built → Except Failure Blueprint
  | program b => .ok b
  | other => .error (.noAttribute other.typeName name)

/-- A function called with a result. -/
def map (table : FunctionTable) (fn : Value) (b : Blueprint) : Except Failure Built :=
  match requireFunction "map" fn with
  | .error f => .error f
  | .ok () => .ok <| program <|
      .ofParts "Mapped" [("program", .program b), ("fn", .value fn)] <|
        b.program.map fun v => table.call fn [v]

/-- A yielded function called with a result. -/
def ap (table : FunctionTable) (argument : Blueprint) : Built → Except Failure Built
  | program f => .ok <| program <|
      .ofParts "Applied" [("fn_program", .program f), ("arg_program", .program argument)] <|
        Program.ap (f.program.map fun g => Run.pure fun v => table.call g [v]) argument.program
  | other => .error (.program (.needsProgram "ap" other.typeName))

/-- The programs among what was built, all of it or the first other object. -/
def programs? : List Built → Except Built (List Blueprint)
  | [] => .ok []
  | program b :: rest => match programs? rest with
      | .ok bs => .ok (b :: bs)
      | .error other => .error other
  | other :: _ => .error other

/-- A program that yields a function with the results of programs held as its first
arguments.  The programs are given from the last one on. -/
def holding (fn : Value) : Blueprint → List Blueprint → Blueprint
  | last, [] => .ofParts "Mapped" [("program", .program last), ("fn", .joiner)] <|
      last.program.map fun v => Run.pure (fn.hold v)
  | last, before :: rest =>
      let side := holding fn before rest
      .ofParts "Applied" [("fn_program", .program side), ("arg_program", .program last)] <|
        Program.ap (side.program.map fun g => Run.pure fun v => Run.pure (g.hold v)) last.program

/-- A function called with the results of several programs. -/
def join (table : FunctionTable) (fn : Value) (parts : List Built) : Except Failure Built :=
  let owner : Text := "map" ++ Text.ofNat parts.length
  match programs? parts with
  | .error other => .error (.program (.needsPrograms owner other.typeName))
  | .ok bs => match requireFunction owner fn with
    | .error f => .error f
    | .ok () => match bs.reverse with
      | last :: before :: rest =>
        let joined (p : Program Value) : Except Failure Built := .ok <| program <|
          .ofParts "Applied"
            [("fn_program", .program (holding fn before rest)), ("arg_program", .program last)] p
        match bs.map Blueprint.program with
        | [a, b] => joined (.map2 a b fun x y => table.call fn [x, y])
        | [a, b, c] => joined (.map3 a b c fun x y z => table.call fn [x, y, z])
        | [a, b, c, d] => joined (.map4 a b c d fun x y z w => table.call fn [x, y, z, w])
        | [a, b, c, d, e] =>
            joined (.map5 a b c d e fun x y z w v => table.call fn [x, y, z, w, v])
        | _ => .error joinable
      | _ => .error joinable
where
  /-- Other numbers of programs are not joined. -/
  joinable : Failure := .builtin "TypeError" "two to five programs are joined"

end Built

mutual

/-- Builds a draft, its parts from left to right. -/
def Draft.build (table : FunctionTable) : Draft → Except Failure Built
  | .value v => .ok (.value v)
  | .kind k => .ok (.kind k)
  | .typeObject name => .ok (.typeObject name)
  | .pure v => .ok (.program (.ofParts "Pure" [("value", .value v)] (.pure v)))
  | .scalar k key => Built.scalar k key
  | .scalarRead item key => andThen (item.build table) fun i => Built.scalarOf i key
  | .list key item => andThen (item.build table) fun i => Built.list i key
  | .scalars key item => andThen (item.build table) fun i => Built.scalarsOf i key
  | .records key item => andThen (item.build table) fun i => Built.records i key
  | .nested key inner => andThen (inner.build table) fun i => Built.nested i key
  | .map program fn => andThen (program.build table) fun p =>
      andThen (p.requireMethod "map") fun b => Built.map table fn b
  | .ap program fnProgram => andThen (program.build table) fun p =>
      andThen (p.requireMethod "ap") fun b =>
        andThen (fnProgram.build table) fun f => Built.ap table b f
  | .join programs fn => andThen (buildAll table programs) fun ps => Built.join table fn ps
  | .lift v => .ok (.program (.mk (.unsupported v.typeName) (.other v)))

/-- Builds drafts from left to right. -/
def Draft.buildAll (table : FunctionTable) : List Draft → Except Failure (List Built)
  | [] => .ok []
  | d :: rest => andThen (d.build table) fun b => andThen (buildAll table rest) fun bs =>
      .ok (b :: bs)

end

end ConfigReader
