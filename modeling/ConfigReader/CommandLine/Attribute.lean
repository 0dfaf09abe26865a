import ConfigReader.Draft
import ConfigReader.Text.Utf8

/-!
# Attributes of plain objects

Objects have *attributes*, which are found by name.  An attribute is an object of
some type, or a *method*.  A target follows attributes and calls what it finds at
the end without arguments, so all that counts of a method is what becomes of such a
call: an object of some type, or an error.  Most methods need arguments, and each
says so in its own words.

Attributes of one name are listed once for every type of object, and the first entry
of a list counts.
-/

namespace ConfigReader

/-- An attribute of an object. -/
inductive Attribute where
  /-- An object of a named type. -/
  | object (typeName : Text)
  /-- A method, and what becomes of a call without arguments. -/
  | method (result : Except Failure Text)

/-- Attributes by name. -/
abbrev Attributes := List (Text × Attribute)

namespace Attributes

/-! ## Groups of attributes -/

/-- One attribute under several names. -/
def alike (names : List Text) (a : Attribute) : Attributes := names.map (·, a)

/-- Objects of a type. -/
def objects (typeName : Text) (names : List Text) : Attributes := alike names (.object typeName)

/-- Methods that give an object of a type. -/
def gives (typeName : Text) (names : List Text) : Attributes :=
  alike names (.method (.ok typeName))

/-- A method that refuses a call. -/
def refusal (message : Text) : Attribute := .method (.error (.builtin "TypeError" message))

/-- Methods that refuse a call in the same words. -/
def refuse (message : Text) (names : List Text) : Attributes := alike names (refusal message)

/-- Methods of a type that take one argument and name both. -/
def takeOne (typeName : Text) (names : List Text) : Attributes :=
  names.map fun name =>
    (name, refusal (typeName ++ "." ++ name ++ "() takes exactly one argument (0 given)"))

/-- Methods that take some argument. -/
def takeSome (names : List Text) : Attributes :=
  names.map fun name => (name, refusal (name ++ "() takes at least 1 argument (0 given)"))

/-- Methods that expect a number of arguments. -/
def expect (count : Text) (names : List Text) : Attributes :=
  names.map fun name => (name, refusal (name ++ " expected " ++ count ++ ", got 0"))

/-- Operators with another operand. -/
def operators (names : List Text) : Attributes := refuse "expected 1 argument, got 0" names

/-- Operators that repeat an object. -/
def repeaters (names : List Text) : Attributes := refuse " expected 1 argument, got 0" names

/-- A method that gives an object of a type, or fails. -/
def attempt (typeName name : Text) (failure : Option Failure) : Text × Attribute :=
  (name, .method (match failure with
    | none => .ok typeName
    | some f => .error f))

/-! ## What all objects have -/

/-- The attributes of every object of a type. -/
def common (typeName : Text) : Attributes :=
  operators ["__eq__", "__ne__", "__lt__", "__le__", "__gt__", "__ge__", "__delattr__",
    "__getattribute__"] ++
  refuse " expected 2 arguments, got 0" ["__setattr__"] ++
  takeOne typeName ["__format__", "__reduce_ex__"] ++
  gives "str" ["__repr__", "__str__"] ++
  gives "int" ["__hash__", "__sizeof__"] ++
  gives "list" ["__dir__"] ++
  gives "NoneType" ["__init__", "__init_subclass__", "__getstate__"] ++
  gives "NotImplementedType" ["__subclasshook__"] ++
  gives "tuple" ["__reduce__"] ++
  gives typeName ["__class__"] ++
  refuse (typeName ++ ".__new__(): not enough arguments") ["__new__"] ++
  objects "str" ["__doc__"]

/-- The attributes of every plain value of a type, which cannot be taken apart. -/
def plain (typeName : Text) : Attributes :=
  refuse ("cannot pickle '" ++ typeName ++ "' object") ["__reduce__"] ++ common typeName

/-! ## Texts -/

/-- The name in the front of a field of a template, and what ends it. -/
def fieldName : (fuel : Nat) → Text → Except Text (Text × Option CodePoint × Text)
  | 0, _ => .ok ([], none, [])
  | _ + 1, [] => .ok ([], none, [])
  | fuel + 1, c :: rest =>
      if c = .scalar '\x7b' then .error "unexpected '\x7b' in field name"
      else if c = .scalar '\x7d' || c = .scalar ':' || c = .scalar '!' then .ok ([], some c, rest)
      else
        let skipped : Text := if c = .scalar '[' then rest.takeWhile (· ≠ .scalar ']') else []
        let rest : Text := if c = .scalar '[' then rest.dropWhile (· ≠ .scalar ']') else rest
        (fieldName fuel rest).map fun (name, stop, after) => (c :: skipped ++ name, stop, after)

/-- The format behind a field ends with the bracket that closes the field. -/
def formatEnds : (depth : Nat) → Text → Bool
  | _, [] => false
  | depth, c :: rest =>
      if c = .scalar '\x7b' then formatEnds (depth + 1) rest
      else if c = .scalar '\x7d' then depth ≤ 1 || formatEnds (depth - 1) rest
      else formatEnds depth rest

/-- Why a field of a template cannot be read, by what stands behind its name. -/
def fieldFault? : Option CodePoint → Text → Option Text
  | none, _ => some "expected '\x7d' before end of string"
  | some stop, rest =>
      let unmatched : Option Text :=
        if formatEnds 1 rest then none else some "unmatched '\x7b' in format spec"
      if stop = .scalar ':' then unmatched
      else if stop = .scalar '!' then match rest with
        | [] => some "end of string while looking for conversion specifier"
        | [_] => some "unmatched '\x7b' in format spec"
        | _ :: c :: more =>
            if c = .scalar '\x7d' then none
            else if c = .scalar ':' then
              if formatEnds 1 more then none else some "unmatched '\x7b' in format spec"
            else some "expected ':' after conversion specifier"
      else none

/-- The failure of a field that nothing is given for. -/
def missingField (name : Text) : Failure :=
  let first : Text := name.takeWhile fun c => c ≠ .scalar '.' && c ≠ .scalar '['
  let outOfRange (n : Nat) : Failure := .builtin "IndexError"
    ("Replacement index " ++ Text.ofNat n ++ " out of range for positional args tuple")
  if first.isEmpty then outOfRange 0
  else match first.mapM CodePoint.decimal? with
    | some digits =>
        let n := digits.foldl (fun n d => n * 10 + d) 0
        if n ≥ 0x8000000000000000 then
          .builtin "ValueError" "Too many decimal digits in format string"
        else outOfRange n
    | none => .builtin "KeyError" first.quoted

/-- Why a text cannot be filled in as a template without arguments: its first field
has nothing to show, or a bracket is out of place before. -/
def templateFailure? : Text → Option Failure
  | [] => none
  | c :: rest =>
      let wrong (message : Text) : Option Failure := some (.builtin "ValueError" message)
      if c = .scalar '\x7d' then match rest with
        | .scalar '\x7d' :: more => templateFailure? more
        | _ => wrong "Single '\x7d' encountered in format string"
      else if c = .scalar '\x7b' then match rest with
        | [] => wrong "Single '\x7b' encountered in format string"
        | .scalar '\x7b' :: more => templateFailure? more
        | field => match fieldName field.length field with
            | .error message => wrong message
            | .ok (name, stop, after) => match fieldFault? stop after with
                | some message => wrong message
                | none => some (missingField name)
      else templateFailure? rest

/-- Surrogates have no bytes. -/
def encodingFailure? (t : Text) : Option Failure :=
  (Utf8.encodingFault? (fun _ => false) 0 t).map (.builtin "UnicodeEncodeError" ·)

/-- The attributes of a text. -/
def ofText (t : Text) : Attributes :=
  gives "str" ["capitalize", "casefold", "expandtabs", "lower", "lstrip", "rstrip", "strip",
    "swapcase", "title", "upper"] ++
  gives "list" ["split", "rsplit", "splitlines"] ++
  gives "bool" ["isalnum", "isalpha", "isascii", "isdecimal", "isdigit", "isidentifier",
    "islower", "isnumeric", "isprintable", "isspace", "istitle", "isupper"] ++
  [attempt "str" "format" (templateFailure? t), attempt "bytes" "encode" (encodingFailure? t)] ++
  takeOne "str" ["format_map", "join", "partition", "removeprefix", "removesuffix",
    "rpartition", "translate", "zfill"] ++
  takeSome ["count", "endswith", "find", "index", "rfind", "rindex", "startswith"] ++
  expect "at least 1 argument" ["center", "ljust", "maketrans", "rjust"] ++
  expect "at least 2 arguments" ["replace"] ++
  operators ["__add__", "__contains__", "__getitem__", "__mod__", "__rmod__"] ++
  repeaters ["__mul__", "__rmul__"] ++
  gives "int" ["__len__"] ++
  gives "tuple" ["__getnewargs__"] ++
  gives (if t.all (·.toNat < 128) then "str_ascii_iterator" else "str_iterator") ["__iter__"] ++
  plain "str"

/-! ## Numbers -/

/-- The operators of all numbers. -/
def arithmetic : Attributes :=
  operators ["__add__", "__radd__", "__sub__", "__rsub__", "__mul__", "__rmul__", "__mod__",
    "__rmod__", "__divmod__", "__rdivmod__", "__floordiv__", "__rfloordiv__", "__truediv__",
    "__rtruediv__"] ++
  refuse " expected at least 1 argument, got 0" ["__pow__", "__rpow__"] ++
  gives "bool" ["__bool__"] ++
  gives "tuple" ["__getnewargs__"]

/-- An integer does not fit into one byte. -/
def byteFailure? (n : Int) : Option Failure :=
  if n < 0 then some (.builtin "OverflowError" "can't convert negative int to unsigned")
  else if n > 255 then some (.builtin "OverflowError" "int too big to convert")
  else none

/-- An integer is beyond all floating point numbers. -/
def floatFailure? (n : Int) : Option Failure :=
  match Binary64.ofInt n with
  | .infinite _ => some (.builtin "OverflowError" "int too large to convert to float")
  | _ => none

/-- An integer is too long to be written. -/
def lengthFailure? (v : Value) : Option Failure :=
  if v.quoted?.isSome then none else some (.integerTooLong none)

/-- The attributes of an integer, which may be a truth value. -/
def ofInteger (typeName : Text) (n : Int) : Attributes :=
  gives "int" ["bit_count", "bit_length", "conjugate", "__abs__", "__ceil__", "__floor__",
    "__index__", "__int__", "__invert__", "__neg__", "__pos__", "__round__", "__trunc__"] ++
  objects "int" ["denominator", "imag", "numerator", "real"] ++
  gives "tuple" ["as_integer_ratio"] ++
  refuse "from_bytes() missing required argument 'bytes' (pos 1)" ["from_bytes"] ++
  operators ["__and__", "__rand__", "__or__", "__ror__", "__xor__", "__rxor__", "__lshift__",
    "__rlshift__", "__rshift__", "__rrshift__"] ++
  [attempt "bytes" "to_bytes" (byteFailure? n), attempt "float" "__float__" (floatFailure? n)] ++
  [attempt "str" "__repr__" (lengthFailure? (.int n)),
   attempt "str" "__str__" (lengthFailure? (.int n))] ++
  arithmetic ++ plain typeName

/-- Infinities and what is no number have no integer. -/
def wholeFailure? : Binary64 → Option Failure
  | .nan => some (.builtin "ValueError" "cannot convert float NaN to integer")
  | .infinite _ => some (.builtin "OverflowError" "cannot convert float infinity to integer")
  | _ => none

/-- Infinities and what is no number are no ratio. -/
def ratioFailure? : Binary64 → Option Failure
  | .nan => some (.builtin "ValueError" "cannot convert NaN to integer ratio")
  | .infinite _ => some (.builtin "OverflowError" "cannot convert Infinity to integer ratio")
  | _ => none

/-- The attributes of a floating point number. -/
def ofFloat (x : Binary64) : Attributes :=
  gives "float" ["conjugate", "__abs__", "__float__", "__neg__", "__pos__"] ++
  objects "float" ["imag", "real"] ++
  gives "str" ["hex"] ++
  gives "bool" ["is_integer"] ++
  takeOne "float" ["fromhex", "__getformat__"] ++
  attempt "tuple" "as_integer_ratio" (ratioFailure? x) ::
  (["__ceil__", "__floor__", "__int__", "__round__", "__trunc__"] : List Text).map
    (attempt "int" · (wholeFailure? x)) ++
  arithmetic ++ plain "float"

/-! ## Collections -/

/-- A value that can be no key. -/
def unhashable? : Value → Option Failure
  | .list _ => some (.builtin "TypeError" "unhashable type: 'list'")
  | .map _ => some (.builtin "TypeError" "unhashable type: 'dict'")
  | _ => none

/-- The first neighbours that have no order. -/
def orderFailure? : List Value → Option Failure
  | v :: w :: rest =>
      let ordered : Bool := match v, w with
        | .text _, .text _ => true
        | .list _, .list _ => true
        | .tuple _, .tuple _ => true
        | .float _, w => isNumber w
        | v, w => v.integer?.isSome && isNumber w
      if ordered then orderFailure? (w :: rest)
      else some (.builtin "TypeError" ("'<' not supported between instances of '" ++
        w.typeName ++ "' and '" ++ v.typeName ++ "'"))
  | _ => none
where
  /-- Numbers and truth values. -/
  isNumber : Value → Bool
    | .bool _ => true
    | .int _ => true
    | .float _ => true
    | _ => false

/-- The failure of taking the last item out of nothing. -/
def emptyFailure? (failure : Failure) {α : Type} (items : List α) : Option Failure :=
  if items.isEmpty then some failure else none

/-- How collections are written and counted. -/
def collection (v : Value) : Attributes :=
  gives "int" ["__len__"] ++
  takeOne v.typeName ["__class_getitem__"] ++
  [attempt "str" "__repr__" (lengthFailure? v), attempt "str" "__str__" (lengthFailure? v)]

/-- The attributes of a list. -/
def ofList (items : List Value) : Attributes :=
  gives "NoneType" ["clear", "reverse"] ++
  gives "list" ["copy"] ++
  takeOne "list" ["append", "count", "extend", "remove", "__getitem__"] ++
  expect "2 arguments" ["insert"] ++
  expect "at least 1 argument" ["index"] ++
  [attempt (items.getLast?.getD .null).typeName "pop"
     (emptyFailure? (.builtin "IndexError" "pop from empty list") items),
   attempt "NoneType" "sort" (orderFailure? items)] ++
  operators ["__add__", "__contains__", "__delitem__", "__iadd__"] ++
  repeaters ["__mul__", "__rmul__", "__imul__"] ++
  refuse " expected 2 arguments, got 0" ["__setitem__"] ++
  gives "list_iterator" ["__iter__"] ++
  gives "list_reverseiterator" ["__reversed__"] ++
  objects "NoneType" ["__hash__"] ++
  collection (.list items) ++ plain "list"

/-- The attributes of a tuple. -/
def ofTuple (items : List Value) : Attributes :=
  takeOne "tuple" ["count"] ++
  expect "at least 1 argument" ["index"] ++
  operators ["__add__", "__contains__", "__getitem__"] ++
  repeaters ["__mul__", "__rmul__"] ++
  gives "tuple_iterator" ["__iter__"] ++
  gives "tuple" ["__getnewargs__"] ++
  attempt "int" "__hash__" (items.findSome? unhashable?) ::
  collection (.tuple items) ++ plain "tuple"

/-- The attributes of a mapping. -/
def ofMap (entries : List (Value × Value)) : Attributes :=
  gives "NoneType" ["clear", "update"] ++
  gives "dict" ["copy"] ++
  gives "dict_items" ["items"] ++
  gives "dict_keys" ["keys"] ++
  gives "dict_values" ["values"] ++
  expect "at least 1 argument" ["get", "pop", "setdefault", "fromkeys"] ++
  attempt "tuple" "popitem"
    (emptyFailure? (.builtin "KeyError" "'popitem(): dictionary is empty'") entries) ::
  takeOne "dict" ["__contains__", "__getitem__"] ++
  operators ["__delitem__", "__or__", "__ror__", "__ior__"] ++
  refuse " expected 2 arguments, got 0" ["__setitem__"] ++
  gives "dict_keyiterator" ["__iter__"] ++
  gives "dict_reversekeyiterator" ["__reversed__"] ++
  objects "NoneType" ["__hash__"] ++
  collection (.map entries) ++ plain "dict"

/-! ## Values -/

/-- The attributes of a function. -/
def ofFunction : Attributes :=
  objects "str" ["__name__", "__qualname__", "__module__"] ++
  objects "dict" ["__annotations__", "__builtins__", "__dict__", "__globals__"] ++
  objects "NoneType" ["__defaults__", "__doc__", "__kwdefaults__"] ++
  objects "tuple" ["__closure__"] ++
  objects "code" ["__code__"] ++
  refuse " expected at least 1 argument, got 0" ["__get__"] ++
  refuse "function() missing required argument 'code' (pos 1)" ["__class__"] ++
  plain "function"

/-- The attributes of a value. -/
def ofValue : Value → Attributes
  | .null => objects "NoneType" ["__doc__"] ++ gives "bool" ["__bool__"] ++ plain "NoneType"
  | .bool b => ofInteger "bool" (if b then 1 else 0)
  | .int n => ofInteger "int" n
  | .float x => ofFloat x
  | .text t => ofText t
  | .list items => ofList items
  | .tuple items => ofTuple items
  | .map entries => ofMap entries
  | .function .. => ofFunction
  | v => common v.typeName

/-! ## Kinds, programs and nodes -/

/-- The attributes of a kind, which is a text as well. -/
def ofKind (k : Kind) : Attributes :=
  objects "str" ["name", "value", "type_name", "_name_", "_value_", "__module__"] ++
  objects "dict" ["__dict__"] ++
  refuse "EnumType.__call__() missing 1 required positional argument: 'value'"
    ["__class__", "__objclass__"] ++
  gives "ElementKind" ["__copy__"] ++
  ofText k.name

/-- The attributes of a frozen record of a type by the names of its fields, the last
ones first. -/
def frozen (typeName : Text) (fields : List Text) : Attributes :=
  let owned (method : Text) : Text := typeName ++ "." ++ method ++ "() missing "
  let lacking : Text := match fields with
    | [field] => "1 required positional argument: " ++ field.quoted
    | fields => Text.ofNat fields.length ++ " required positional arguments: " ++
        Text.join " and " (fields.map Text.quoted)
  refuse (owned "__init__" ++ lacking) ["__init__", "__class__"] ++
  refuse (owned "__setattr__" ++ "2 required positional arguments: 'name' and 'value'")
    ["__setattr__"] ++
  refuse (owned "__delattr__" ++ "1 required positional argument: 'name'") ["__delattr__"] ++
  refuse "_dataclass_setstate() missing 1 required positional argument: 'state'"
    ["__setstate__"] ++
  gives "list" ["__getstate__"] ++
  objects "tuple" ["__slots__", "__match_args__"] ++
  objects "dict" ["__annotations__", "__dataclass_fields__"] ++
  objects "_DataclassParams" ["__dataclass_params__"] ++
  objects "str" ["__module__"] ++
  refuse "object.__new__(): not enough arguments" ["__new__"]

/-- What types with a parameter have. -/
def generic : Attributes :=
  objects "tuple" ["__orig_bases__", "__parameters__"] ++
  objects "bool" ["_is_protocol"] ++
  refuse "Generic.__class_getitem__() missing 1 required positional argument: 'params'"
    ["__class_getitem__"]

/-- The attributes that a program has besides its node and its methods. -/
def ofProgram : Attributes := frozen "Program" ["node"] ++ generic ++ common "Program"

/-- The attributes that a node has besides its parts. -/
def ofNode (form : Text) (fields : List Text) : Attributes :=
  let isGeneric := (["Pure", "ReadList", "ReadNested"] : List Text).contains form
  let isChecked := Text.startsWith form "Read"
  refuse (form ++ ".__eq__() missing 1 required positional argument: 'other'") ["__eq__"] ++
  (if isGeneric then generic else []) ++
  (if isChecked then gives "NoneType" ["__post_init__"] else []) ++
  frozen form fields ++ common form

end Attributes

end ConfigReader
