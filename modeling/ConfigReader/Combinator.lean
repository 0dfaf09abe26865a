import ConfigReader.Run
import ConfigReader.Number.Literal

/-!
# Combinators

Functions on values that programs written as data call by entry of a table.  Each
one takes the list of its arguments.  A function value holds arguments that come
before those of a call.
-/

namespace ConfigReader

/-- A function of a list of arguments. -/
abbrev Combinator := List Value → Run Value

/-- The functions that function values refer to, by entry. -/
abbrev FunctionTable := List Combinator

/-- Calls a value.  Only functions can be called. -/
def FunctionTable.call (table : FunctionTable) (f : Value) (arguments : List Value) : Run Value :=
  match f with
  | .function entry held => match table[entry]? with
      | some fn => fn (held ++ arguments)
      | none => Run.raise (Failure.builtin "LookupError" "no such function").raised
  | v => Run.raise
      (Failure.builtin "TypeError" ("'" ++ v.typeName ++ "' object is not callable")).raised

namespace Combinator

/-- A type error. -/
def typeError (message : Text) : Run Value := Run.raise (Failure.builtin "TypeError" message).raised

/-- The plain text of a value. -/
def plain (v : Value) : Run Text :=
  match v.plain? with
  | some t => Run.pure t
  | none => Run.raise (Failure.integerTooLong none).raised

/-- A function that leaves its label in the trace before it is called. -/
def labelled (label : Text) (fn : Combinator) : Combinator := fun xs =>
  (Run.emit (.call label)).bind fun _ => fn xs

/-- The list of the arguments. -/
def list : Combinator := fun xs => Run.pure (.list xs)

/-- The mapping from names to the arguments. -/
def mapping (names : List Text) : Combinator := fun xs =>
  Run.pure (Value.ofPairs ((names.map Value.text).zip xs))

/-- The record with the arguments as fields. -/
def record (type : Text) (names : List Text) : Combinator := fun xs =>
  Run.pure (.record type (names.zip xs))

/-- The plain texts of the arguments with a text between them. -/
def join (sep : Text) : Combinator := fun xs => do
  let ts ← xs.mapM plain
  return .text (Text.join sep ts)

/-- The first argument. -/
def first : Combinator := fun xs => match xs with
  | x :: _ => Run.pure x
  | [] => Run.raise (Failure.builtin "IndexError" "tuple index out of range").raised

/-- The last argument. -/
def last : Combinator := fun xs => first xs.reverse

/-- The length of the first argument. -/
def length : Combinator := fun xs => do
  match ← first xs with
  | .text t => return .int t.length
  | .list items => return .int items.length
  | .tuple items => return .int items.length
  | .map entries => return .int entries.length
  | v => typeError ("object of type '" ++ v.typeName ++ "' has no len()")

/-- A constant. -/
def const (v : Value) : Combinator := fun _ => Run.pure v

/-- Half of an integer as a floating point number. -/
def halfOf (n : Int) : Run Value :=
  match Binary64.ofRatio (n < 0) n.natAbs 2 with
  | .infinite _ => Run.raise
      (Failure.builtin "OverflowError" "integer division result too large for a float").raised
  | x => Run.pure (.float (if n = 0 then .zero false else x))

/-- Half of the first argument. -/
def half : Combinator := fun xs => do
  match ← first xs with
  | .bool b => halfOf (if b then 1 else 0)
  | .int n => halfOf n
  | .float x => return .float x.half
  | v => typeError ("unsupported operand type(s) for /: '" ++ v.typeName ++ "' and 'int'")

/-- The first argument in a box of a named type. -/
def box (type : Text) : Combinator := fun xs => do return .boxed type (← first xs)

/-- The integer that the first argument stands for. -/
def toInt : Combinator := fun xs => do
  match ← first xs with
  | .text t =>
      match integerLiteral 10 t with
      | .ok n => return .int n
      | .error f => Run.raise (Failure.ofLiteral 10 t f).raised
  | .bool b => return .int (if b then 1 else 0)
  | .int n => return .int n
  | .float .nan =>
      Run.raise (Failure.builtin "ValueError" "cannot convert float NaN to integer").raised
  | .float (.infinite _) =>
      Run.raise (Failure.builtin "OverflowError" "cannot convert float infinity to integer").raised
  | .float (.finite negative m e) =>
      let (n, d) := Binary64.ratio m e
      return .int (if negative then -((n / d : Nat) : Int) else (n / d : Nat))
  | v =>
      typeError ("int() argument must be a string, a bytes-like object or a real number, not '" ++
        v.typeName ++ "'")

/-- A function that answers with another one, which holds the arguments. -/
def partly (entry : Nat) (held : List Value) : Combinator := fun xs =>
  Run.pure (.function entry (held ++ xs))

/-- A function that raises an error. -/
def fail (e : Raised) : Combinator := fun _ => Run.raise e

end Combinator

end ConfigReader
