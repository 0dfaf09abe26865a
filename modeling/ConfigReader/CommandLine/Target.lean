import ConfigReader.CommandLine.Attribute
import ConfigReader.CommandLine.Refusal
import ConfigReader.Description

/-!
# Targets

A *target* names a program: a module, a colon, and the way from the module to the
program, attribute by attribute.  At its end stands a program, or something that
gives one when it is called.
-/

namespace ConfigReader

/-! ## Objects -/

/-- What an attribute may be. -/
inductive Thing : Type 1 where
  /-- A program. -/
  | program (b : Blueprint)
  /-- A node of a program. -/
  | node (form : Text) (parts : List (Text × Part))
  /-- A kind. -/
  | kind (k : Kind)
  /-- A value. -/
  | value (v : Value)
  /-- An object of a named type with attributes of its own. -/
  | object (typeName : Text) (attributes : List (Text × Thing))
  /-- Something that can be called without arguments, and what comes of it. -/
  | routine (result : Except Raised Thing)

/-- The modules that can be imported, each with its attributes. -/
abbrev Modules := List (Text × List (Text × Thing))

namespace Thing

/-- The name of the type of an object. -/
def typeName : Thing → Text
  | program _ => "Program"
  | node form _ => form
  | kind _ => "ElementKind"
  | value v => v.typeName
  | object typeName _ => typeName
  | routine _ => "function"

/-- A routine that raises an error. -/
def failing (f : Failure) : Thing := routine (.error f.raised)

/-- A routine that is called without the argument it needs. -/
def lacking (name argument : Text) : Thing :=
  failing (.builtin "TypeError"
    (name ++ "() missing 1 required positional argument: " ++ argument.quoted))

/-- Plain values that stand for all others of their types. -/
def samples : List Value := [.null, .bool false, .int 0, .text [], .list [], .tuple [], .map []]

/-- An object of a type.  A sample of the type stands for it if there is one. -/
def ofType (typeName : Text) : Thing :=
  match samples.find? (·.typeName = typeName) with
  | some v => value v
  | none => object typeName []

/-- An attribute as an object. -/
def ofAttribute : Attribute → Thing
  | .object typeName => ofType typeName
  | .method (.ok typeName) => routine (.ok (object typeName []))
  | .method (.error f) => failing f

/-- A node as an object. -/
def ofNode : Node → Thing
  | .expression form parts => node form parts
  | .other v => value v

/-- A part of a node as an object. -/
def ofPart : Part → Thing
  | .program b => program b
  | .kind k => kind k
  | .value v => value v
  | .joiner => lacking "map2.<locals>.<lambda>" "a"

/-- The methods of a program that need an argument, and what it is called. -/
def programMethods : List (Text × Text) :=
  [("map", "fn"), ("ap", "fn_program"), ("run", "strategy"), ("run_eager", "source"),
   ("run_optional", "source"), ("run_validating", "source")]

/-- The attributes of a program. -/
def ofProgram (b : Blueprint) : List (Text × Thing) :=
  let description : Except Raised Thing := match b.program.describe with
    | .ok t => .ok (value (.text t))
    | .error f => .error f.raised
  [(("node" : Text), ofNode b.node), ("describe", routine description)] ++
    programMethods.map fun (name, argument) => (name, lacking ("Program." ++ name) argument)

/-- The kinds as attributes of a kind. -/
def kinds : List (Text × Thing) := Kind.all.map fun k => (k.name.upperAscii, kind k)

/-- The attributes that stand for themselves in a routine. -/
def routineAttributes : Attributes :=
  Attributes.objects "str" ["__name__", "__qualname__", "__module__", "__doc__"] ++
    Attributes.common "builtin_function_or_method"

/-- The attributes that objects of a type have besides their own. -/
def besides (typeName : Text) : Attributes :=
  if typeName = Text.ofString "module" then
    Attributes.objects "str" ["__name__"] ++ Attributes.objects "dict" ["__dict__"] ++
      Attributes.objects "NoneType" ["__doc__", "__loader__", "__package__", "__spec__"] ++
      Attributes.refuse "module() missing required argument 'name' (pos 1)" ["__class__"] ++
      Attributes.plain typeName
  else if typeName = Text.ofString "SimpleNamespace" then
    Attributes.objects "dict" ["__dict__"] ++ Attributes.objects "NoneType" ["__hash__"] ++
      Attributes.gives "dict" ["__getstate__"] ++ Attributes.common typeName
  else Attributes.common typeName

/-- An attribute of an object. -/
def attribute? (thing : Thing) (name : Text) : Option Thing :=
  let known (attributes : Attributes) : Option Thing := (attributes.lookup name).map ofAttribute
  match thing with
  | program b => ((ofProgram b).lookup name).or (known Attributes.ofProgram)
  | node form parts => ((parts.lookup name).map ofPart).or <|
      known <| Attributes.ofNode form <|
        (parts.map (·.1)).filter fun part => part ≠ Text.ofString "kind"
  | kind k => (kinds.lookup name).or (known (Attributes.ofKind k))
  | value v => if isCall name && isFunction v then some thing else known (Attributes.ofValue v)
  | object typeName attributes => (attributes.lookup name).or (known (besides typeName))
  | routine _ => if isCall name then some thing else known routineAttributes
where
  /-- The attribute by which an object is called. -/
  isCall (name : Text) : Bool := name = Text.ofString "__call__"
  /-- The value is a function. -/
  isFunction : Value → Bool
    | .function .. => true
    | _ => false

/-- Follows attributes from an object. -/
def follow? : Thing → List Text → Option Thing
  | thing, [] => some thing
  | thing, name :: rest => (thing.attribute? name).bind fun next => next.follow? rest

/-- What comes of an object if it can be called. -/
def called (table : FunctionTable) : Thing → Except Raised Thing
  | routine result => result
  | value (.function entry held) => match (table.call (.function entry held) []).outcome with
      | .ok v => .ok (value v)
      | .error e => .error e
  | thing => .ok thing

end Thing

/-! ## Modules -/

/-- Why a module is missing, its name given by its parts in reverse.  The modules
above are imported first, and none of them is a package. -/
def Modules.missingReason (modules : Modules) : List Text → Text
  | [] => []
  | [part] => "No module named " ++ part.quoted
  | part :: above =>
      let parent := Text.join "." above.reverse
      let name := parent ++ "." ++ part
      if (modules.lookup parent).isSome then
        "No module named " ++ name.quoted ++ "; " ++ parent.quoted ++ " is not a package"
      else missingReason modules above

/-- The attributes of a module. -/
def Modules.find (modules : Modules) (name : Text) : Except Stop (List (Text × Thing)) :=
  if name.startsWith "." then
    .error (.raised (Failure.builtin "TypeError"
      ("the 'package' argument is required to perform a relative import for " ++
        name.quoted)).raised)
  else match modules.lookup name with
    | some attributes => .ok attributes
    | none => .error (.refused (.noModule name
        (modules.missingReason (name.splitOn separator).reverse)))

/-- The program that a target names. -/
def Modules.program (modules : Modules) (table : FunctionTable) (target : Text) :
    Except Stop Blueprint :=
  let refuse (r : Refusal) : Except Stop Blueprint := .error (.refused r)
  match target.cut? ':' with
  | none => refuse (.badTarget target)
  | some (moduleName, way) =>
      if moduleName.isEmpty || way.isEmpty then refuse (.badTarget target)
      else match modules.find moduleName with
        | .error stop => .error stop
        | .ok attributes =>
            match (Thing.object "module" attributes).follow? (way.splitOn separator) with
            | none => refuse (.noAttribute moduleName way)
            | some thing => match thing.called table with
                | .error e => .error (.raised e)
                | .ok (.program b) => .ok b
                | .ok other => refuse (.notAProgram target other.typeName)

end ConfigReader
