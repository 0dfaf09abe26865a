import ConfigReader.Format.Yaml.Node

/-!
# Merging

A mapping can bring in the pairs of other mappings.  What stands at a merge key is
a mapping or a sequence of mappings, and its pairs go in front of the mapping's own
ones, which override them.  A mapping that is brought in merges first.

Merging takes the merge keys out of the graph one by one.  So their number bounds
the steps, even if a mapping is brought into itself.
-/

namespace ConfigReader.Yaml

/-- The tag of merge keys. -/
def mergeTag : Text := coreTag "merge"

/-- The tag of the sign for a value. -/
def valueTag : Text := coreTag "value"

namespace Graph

/-- The number of merge keys. -/
def mergeCount (g : Graph) : Nat :=
  g.foldl (fun n node => n + match node.content with
    | .mapping pairs => pairs.countP fun (key, _) => (g.node key).tag = mergeTag
    | _ => 0) 0

/-- A graph with other pairs for the mapping at a place. -/
def withPairs (g : Graph) (place : Nat) (pairs : List (Nat × Nat)) : Graph :=
  g.setIfInBounds place { g.node place with content := .mapping pairs }

/-- A graph in which the sign for a value is a text where it is a key of the mapping
at a place. -/
def withTextKeys (g : Graph) (place : Nat) : Graph :=
  (g.pairs place).foldl (fun g (key, _) =>
    let node := g.node key
    if node.tag = valueTag then g.setIfInBounds key { node with tag := coreTag "str" } else g) g

/-- The pairs before the first merge key, what stands at the key, and the pairs behind
it. -/
def splitMerge (g : Graph) :
    List (Nat × Nat) → Option (List (Nat × Nat) × Nat × List (Nat × Nat))
  | [] => none
  | pair :: rest =>
      if (g.node pair.1).tag = mergeTag then some ([], pair.2, rest)
      else (g.splitMerge rest).map fun (before, source, after) => (pair :: before, source, after)

/-- The pairs of mappings that have merged, those of the last mapping in front. -/
def broughtByAll (merge : Graph → Nat → Parsed Graph) (g : Graph) :
    List Nat → Parsed (List (Nat × Nat) × Graph)
  | [] => .ok ([], g)
  | item :: rest => match (g.node item).content with
      | .mapping _ => do
          let g ← merge g item
          let (others, after) ← broughtByAll merge g rest
          return (others ++ g.pairs item, after)
      | _ => malformed

/-- The pairs that a node at a merge key brings in. -/
def broughtBy (merge : Graph → Nat → Parsed Graph) (g : Graph) (source : Nat) :
    Parsed (List (Nat × Nat) × Graph) :=
  match (g.node source).content with
  | .mapping _ => g.broughtByAll merge [source]
  | .sequence items => g.broughtByAll merge items
  | .scalar _ => malformed

/-- The graph in which the mapping at a place has no merge key left. -/
def merged : (fuel : Nat) → Graph → Nat → Parsed Graph
  | 0, _, _ => malformed
  | fuel + 1, g, place => do
      let g := g.withTextKeys place
      match g.splitMerge (g.pairs place) with
      | none => return g
      | some (before, source, after) =>
          let g := g.withPairs place (before ++ after)
          let (pairs, g) ← g.broughtBy (merged fuel) source
          let g ← merged fuel g place
          return g.withPairs place (pairs ++ g.pairs place)

/-- The graph in which the mapping at a place has merged all it brings in. -/
def merge (g : Graph) (place : Nat) : Parsed Graph := merged (g.mergeCount + 1) g place

end Graph

end ConfigReader.Yaml
