import ConfigReader.Source

/-!
# Layered sources

Sources in layers, the first one on top.  A lookup goes down the layers and stops
at the first one that does not answer with nothing.  An error stops it as well,
so a malformed value is reported and does not fall through.  The answers of the layers
are items of a list that is made as it goes, so the error that marks the end of items
becomes another one.
-/

namespace ConfigReader.Source

/-- The answer of the first source that has one. -/
def firstAnswer (q : Lookup) : List Source → Run (Option q.Answer)
  | [] => Run.pure none
  | s :: rest => (s.answer q).asItem.bind fun a => match a with
      | some answer => Run.pure (some answer)
      | none => firstAnswer q rest

/-- The keys of all sources, each once. -/
def allKeys : List Source → Except Failure (List Text)
  | [] => .ok []
  | s :: rest => do
      let keys ← s.keys
      let others ← allKeys rest
      return keys ++ others

/-- Sources as layers, the first one on top. -/
def layered (layers : List Source) : Source where
  shown := "LayeredSource(" ++ Value.commaed (layers.map Source.shown) ++ ")"
  keys := (allKeys layers).map fun keys => (Text.sort keys).eraseDups
  answer q := firstAnswer q layers

/-- A single source as it is, several ones as layers. -/
def stack : List Source → Except SourceFault Source
  | [] => .error .noLayer
  | [s] => .ok s
  | layers => .ok (layered layers)

end ConfigReader.Source
