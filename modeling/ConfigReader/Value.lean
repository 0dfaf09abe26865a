import ConfigReader.Number.Shortest
import ConfigReader.Text.Quoted

/-!
# Values

A *value* is what a document holds, what a program yields and what an error
shows: scalars, lists, mappings with any keys, records, and a few kinds of other
objects.  Two texts belong to a value.  Its *plain* text stands where a value is
turned into a string, and its *quoted* text where a message shows it.  They
differ for texts and for the kinds of objects that say so.

An integer of more than `digitLimit` digits has no text, and neither has a value
that holds one, so both texts are options.
-/

namespace ConfigReader

/-- A value. -/
inductive Value where
  /-- No value. -/
  | null
  /-- A truth value. -/
  | bool (b : Bool)
  /-- An integer. -/
  | int (n : Int)
  /-- A floating point number. -/
  | float (x : Binary64)
  /-- A text. -/
  | text (t : Text)
  /-- A list. -/
  | list (items : List Value)
  /-- A tuple: a list that no source takes for a list. -/
  | tuple (items : List Value)
  /-- A mapping in insertion order. -/
  | map (entries : List (Value × Value))
  /-- A set, each item once. -/
  | set (items : List Value)
  /-- Bytes. -/
  | bytes (bs : List UInt8)
  /-- A record of a named type. -/
  | record (type : Text) (fields : List (Text × Value))
  /-- An object of a named type around one value. -/
  | boxed (type : Text) (inner : Value)
  /-- A file path. -/
  | path (t : Text)
  /-- A date, a time of day or both, by type and texts.  A time with an offset names
  an instant, which is counted in microseconds. -/
  | moment (type plain quoted : Text) (instant : Option Int)
  /-- A function: an entry of a table of functions and the arguments it holds. -/
  | function (entry : Nat) (held : List Value)
  /-- A collection of a named type that stands within itself, by what is shown of it. -/
  | again (type shown : Text)

namespace Value

instance : Inhabited Value := ⟨null⟩

/-- The name of the type of a value. -/
def typeName : Value → Text
  | null => "NoneType"
  | bool _ => "bool"
  | int _ => "int"
  | float _ => "float"
  | text _ => "str"
  | list _ => "list"
  | tuple _ => "tuple"
  | map _ => "dict"
  | set _ => "set"
  | bytes _ => "bytes"
  | record type _ => type
  | boxed type _ => type
  | path _ => "PosixPath"
  | moment type .. => type
  | function .. => "function"
  | again type _ => type

/-- Commas between texts. -/
def commaed (ts : List Text) : Text := Text.join ", " ts

mutual

/-- The text of a value in a message, if its integers can be written. -/
def quoted? : Value → Option Text
  | null => some "None"
  | bool b => some (if b then "True" else "False")
  | int n => if hasDecimalText n then some (Text.ofInt n) else none
  | float x => some x.text
  | text t => some t.quoted
  | list items => (quotedItems? items).map fun ts => "[" ++ commaed ts ++ "]"
  | tuple items => (quotedItems? items).map fun ts => match ts with
      | [t] => "(" ++ t ++ ",)"
      | _ => "(" ++ commaed ts ++ ")"
  | map entries => (quotedEntries? entries).map fun ts => "\x7b" ++ commaed ts ++ "\x7d"
  | set [] => some "set()"
  | set items => (quotedItems? items).map fun ts => "\x7b" ++ commaed ts ++ "\x7d"
  | bytes bs => some (quotedBytes bs)
  | record type fields => (quotedFields? fields).map fun ts =>
      type ++ "(" ++ commaed ts ++ ")"
  | boxed type inner => (quoted? inner).map fun t => type ++ "(" ++ t ++ ")"
  | path t => some ("PosixPath(" ++ t.quoted ++ ")")
  | moment _ _ quoted _ => some quoted
  | function .. => some "<function>"
  | again _ shown => some shown

/-- The quoted texts of items. -/
def quotedItems? : List Value → Option (List Text)
  | [] => some []
  | v :: rest => (quoted? v).bind fun t => (quotedItems? rest).map (t :: ·)

/-- The quoted texts of entries, a colon between key and value. -/
def quotedEntries? : List (Value × Value) → Option (List Text)
  | [] => some []
  | (k, v) :: rest =>
      (quoted? k).bind fun kt => (quoted? v).bind fun vt =>
        (quotedEntries? rest).map ((kt ++ ": " ++ vt) :: ·)

/-- The quoted texts of fields, an equals sign between name and value. -/
def quotedFields? : List (Text × Value) → Option (List Text)
  | [] => some []
  | (name, v) :: rest =>
      (quoted? v).bind fun t => (quotedFields? rest).map ((name ++ "=" ++ t) :: ·)

end

/-- The plain text of a value, if its integers can be written. -/
def plain? : Value → Option Text
  | text t => some t
  | path t => some t
  | moment _ plain _ _ => some plain
  | v => v.quoted?

/-- The value is null. -/
def isNull : Value → Bool
  | null => true
  | _ => false

/-- A function that holds one more argument. -/
def hold (f v : Value) : Value :=
  match f with
  | function entry held => function entry (held ++ [v])
  | other => other

/-- The text that a value is. -/
def text? : Value → Option Text
  | text t => some t
  | _ => none

/-- A value counts as true unless it is null, false, zero or empty. -/
def isTruthy : Value → Bool
  | null => false
  | bool b => b
  | int n => n != 0
  | float x => !x.isZero
  | text t => !t.isEmpty
  | list items => !items.isEmpty
  | tuple items => !items.isEmpty
  | map entries => !entries.isEmpty
  | set items => !items.isEmpty
  | bytes bs => !bs.isEmpty
  | _ => true

/-- The integer a key counts as: truth values are zero and one. -/
def integer? : Value → Option Int
  | bool b => some (if b then 1 else 0)
  | int n => some n
  | float x => x.toInt?
  | _ => none

mutual

/-- Two values are the same key of a mapping. -/
def sameKey : Value → Value → Bool
  | null, null => true
  | text s, text t => s == t
  | float x, float y => (x == y && x != .nan) || (x.isZero && y.isZero)
  | tuple xs, tuple ys => sameKeys xs ys
  | bytes bs, bytes bs' => bs == bs'
  | moment type _ quoted instant, moment type' _ quoted' instant' => type == type' &&
      match instant, instant' with
      | none, none => quoted == quoted'
      | i, i' => i == i'
  | v, w => match v.integer?, w.integer? with
      | some m, some n => m == n
      | _, _ => false

/-- Keys of equal length that agree one by one. -/
def sameKeys : List Value → List Value → Bool
  | [], [] => true
  | v :: vs, w :: ws => sameKey v w && sameKeys vs ws
  | _, _ => false

end

/-- A mapping with an entry set: in place if the key is there, else at the end. -/
def insert (entries : List (Value × Value)) (key value : Value) : List (Value × Value) :=
  match entries with
  | [] => [(key, value)]
  | (k, v) :: rest =>
      if k.sameKey key then (k, value) :: rest else (k, v) :: insert rest key value

/-- The mapping of pairs, a later pair overriding an earlier one with its key. -/
def ofPairs (pairs : List (Value × Value)) : Value :=
  map (pairs.foldl (fun entries (k, v) => insert entries k v) [])

/-- The member of a mapping at a text key. -/
def member? (entries : List (Value × Value)) (name : Text) : Option Value :=
  entries.findSome? fun (k, v) => match k with
    | text t => if t = name then some v else none
    | _ => none

end Value

end ConfigReader
