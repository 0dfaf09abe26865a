import ConfigReader.Source

/-!
# Flat sources

A *flat source* is a table of paths and texts.  A list has no entry of its own.
Its elements are found by the segment after the list's path: each distinct one
that is all digits is the id of an element, and the ids are put in the order of
their numbers.  A list without elements is not there.

The entries are kept in ascending order of paths, so two tables with the same
entries are equal.
-/

namespace ConfigReader

/-- Paths and texts, in ascending order of paths. -/
abbrev Entries := List (Text × Text)

namespace Entries

/-- The table with an entry set. -/
def insert (path text : Text) : Entries → Entries
  | [] => [(path, text)]
  | (p, t) :: rest =>
      if p = path then (path, text) :: rest
      else if Text.le path p then (path, text) :: (p, t) :: rest
      else (p, t) :: insert path text rest

/-- The table of pairs, a later pair overriding an earlier one. -/
def ofPairs (pairs : List (Text × Text)) : Entries :=
  pairs.foldl (fun entries (path, text) => insert path text entries) []

/-- The text at a path. -/
def get? (entries : Entries) (path : Text) : Option Text := List.lookup path entries

/-- The segment after a path and a separator. -/
def segmentAfter? (path key : Text) : Option Text :=
  (Text.after? (path ++ [separator]) key).map fun rest =>
    rest.takeWhile (· ≠ separator)

/-- Element ids are ordered by number, equal numbers by text. -/
def idLe (a b : Text) : Bool :=
  if a.toNat = b.toNat then Text.le a b else a.toNat < b.toNat

/-- The ids of the elements of the list at a path. -/
def elementIds (entries : Entries) (path : Text) : Except Failure (List Text) :=
  let found := ((entries.filterMap fun (key, _) => segmentAfter? path key).filter
    Text.isDigits).eraseDups
  match found.find? (·.length > digitLimit) with
  | some id => .error (.integerTooLong (some id.length))
  | none => .ok (found.mergeSort idLe)

/-- The answer of a table to a lookup. -/
def answer (entries : Entries) : (q : Lookup) → Except Failure (Option q.Answer)
  | .scalar kind path => match entries.get? path with
      | none => .ok none
      | some text => (parseScalar text path kind).map some
  | .elements path _ => present (entries.elementIds path)
  | .records path => present (entries.elementIds path)
where
  /-- No elements, no list. -/
  present : Except Failure (List Text) → Except Failure (Option (List Text))
    | .error f => .error f
    | .ok [] => .ok none
    | .ok ids => .ok (some ids)

end Entries

/-- The source of a table. -/
def Source.flat (origin : Text) (entries : Entries) : Source where
  shown := "FlatSource(origin=" ++ origin.quoted ++ ", keys=" ++ Text.ofNat entries.length ++ ")"
  keys := .ok (entries.map (·.1))
  answer q := Run.ofExcept (entries.answer q)

/-- How a value stands in a table: truth values in small letters. -/
def Value.entryText : Value → Except Failure Text
  | .bool b => .ok (if b then "true" else "false")
  | v => match v.plain? with
      | some t => .ok t
      | none => .error (.integerTooLong none)

/-- The source of a mapping.  Its keys must be texts. -/
def Source.ofMapping (origin : Text) (entries : List (Value × Value)) :
    Except Failure Source := do
  let pairs ← entries.mapM fun (k, v) => match k with
    | .text key => do return (key, ← v.entryText)
    | other => .error (.source (.entryKey origin other.typeName))
  return Source.flat origin (Entries.ofPairs pairs)

/-- The flat source of a value, which must be a mapping. -/
def Source.ofTable (origin : Text) : Value → Except Failure Source
  | .map entries => ofMapping origin entries
  | v => .error (.noAttribute v.typeName "items")

end ConfigReader
