import ConfigReader.Logging.Call
import ConfigReader.Logging.Template

/-!
# A bound logger

The bound logger that programs use by default.  A message that does not count is dropped.
Some fields are not shown but used.  Positional arguments fill the message as a template.
A field that asks for the error at hand is replaced by the text of that error, and there is
none here, so the text says so.  A field that asks for the stack is dropped.

The method for errors at hand asks for one unless it is told not to, and shows one in
any case.
-/

namespace ConfigReader

/-! ## Fields that are used -/

namespace Fields

/-- The field that holds positional arguments. -/
def positional : Text := "positional_args"

/-- The field that asks for the error at hand. -/
def asksError : Text := "exc_info"

/-- The field that asks for the stack. -/
def asksStack : Text := "stack_info"

/-- A field that cannot be given, since the logger gives it itself. -/
def clash? (fields : Fields) (method : Method) : Option Failure :=
  let refuse (caller name : Text) : Failure := .builtin "TypeError"
    ("BoundLogger." ++ caller ++ "() got multiple values for argument " ++ name.quoted)
  let has (name : Text) : Bool := fields.any (·.1 = name)
  if has "self" then some (refuse method.name "self")
  else if has "event" then some (refuse method.name "event")
  else if has "method_name" then some (refuse "_proxy_to_logger" "method_name")
  else none

/-- The fields without one of them. -/
def without (fields : Fields) (name : Text) : Fields := fields.filter (·.1 ≠ name)

/-- The fields with one set: in place if it is there, else at the end. -/
def set (name : Text) (v : Value) : Fields → Fields
  | [] => [(name, v)]
  | (n, w) :: rest => if n = name then (name, v) :: rest else (n, w) :: set name v rest

/-- The fields with the error at hand in the place of the field that asks for it. -/
def withError (fields : Fields) : Fields :=
  let asked := (List.lookup asksError fields).any Value.isTruthy
  let kept := fields.without asksError
  if asked then set "exception" (.text "MISSING") kept else kept

end Fields

/-- The value that positional arguments stand for.  A mapping that is not empty and
alone among them stands for itself. -/
def Value.positional : Value → Except Failure Value
  | .list items => .ok (alone items (.list items))
  | .tuple items => .ok (alone items (.tuple items))
  | .map entries =>
      if entries.length ≠ 1 then .ok (.map entries)
      else match entries.find? fun (key, _) => key.sameKey (.int 0) with
        | some (_, v) => .ok (alone [v] (.map entries))
        | none => .error (.builtin "KeyError" "0")
  | .text t => .ok (.text t)
  | v => .error (.builtin "TypeError" ("object of type '" ++ v.typeName ++ "' has no len()"))
where
  /-- The mapping that is alone among items, or something else. -/
  alone : List Value → Value → Value
    | [.map (entry :: entries)], _ => .map (entry :: entries)
    | _, other => other

/-- A message filled with the positional arguments among its fields, and the other
fields. -/
def fillPositional (event : Text) (fields : Fields) : Except Failure (Text × Fields) :=
  match List.lookup Fields.positional fields with
  | none => .ok (event, fields)
  | some .null => .ok (event, fields)
  | some v =>
      let others := fields.without Fields.positional
      if v.isTruthy then do
        let filled ← fillTemplate event (← v.positional)
        return (filled, others)
      else .ok (event, others)

/-- The message of a call before any handler has seen it. -/
def LogCall.filled (c : LogCall) : Except Failure LogEntry :=
  let fields := match c.method with
    | .exception =>
        if c.fields.any (·.1 = Fields.asksError) then c.fields
        else Fields.set Fields.asksError (.bool true) c.fields
    | _ => c.fields
  (fillPositional c.event fields).map fun (message, fields) =>
    { logger := c.logger
      level := c.method.level
      message
      fields := (fields.without Fields.asksStack).withError
      exception := match c.method with
        | .exception => some "NoneType: None"
        | _ => none }

/-- The bound logger that programs use by default.  A message that does not count is not
looked at. -/
def BoundLogger.usual : BoundLogger where
  handOn counts c := match c.fields.clash? c.method with
    | some f => .error f
    | none => if counts c.method.level then c.filled.map some else .ok none

end ConfigReader
