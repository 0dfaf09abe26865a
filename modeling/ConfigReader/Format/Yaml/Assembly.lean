import ConfigReader.Format.Yaml.ScalarValue
import ConfigReader.Web

/-!
# Assembling a YAML document

The nodes of a document become a web.  A scalar becomes a value at once.  A
collection is announced first and filled later, when all collections that were
announced before it are filled.  So a collection can be its own part, and of two
faults the one nearer to the root is reported.

Each node becomes one thing, however many aliases stand for it.
-/

namespace ConfigReader.Yaml

/-! ## The state -/

/-- A document in the making. -/
structure Assembly where
  /-- The nodes.  A mapping merges when it is filled. -/
  nodes : Graph
  /-- What the nodes have become so far. -/
  made : Array (Option Web.Item)
  /-- The collections that are announced. -/
  collections : Array Web.Collection
  /-- The places of nodes and of collections that are to be filled, the last one first. -/
  waiting : List (Nat × Nat)

/-- A step of assembling. -/
abbrev Assembler := StateT Assembly Parsed

/-! ## Keys -/

/-- Two values are the same key of a mapping.  All that is no number is one key. -/
def isSameKey (v w : Value) : Bool :=
  match v, w with
  | .float .nan, .float .nan => true
  | v, w => v.sameKey w

/-- Entries with one more: in place if its key is there, else at the end. -/
def insertEntry (entries : List (Value × Web.Item)) (key : Value) (item : Web.Item) :
    List (Value × Web.Item) :=
  match entries with
  | [] => [(key, item)]
  | (k, i) :: rest =>
      if isSameKey k key then (k, item) :: rest else (k, i) :: insertEntry rest key item

/-- The order of the items of a set: integers ascend, all else stays in order. -/
def inSetOrder (items : List Value) : List Value :=
  match items.mapM fun v => match v with
    | .int n => some n
    | _ => none with
  | some ns => (ns.mergeSort (· ≤ ·)).map .int
  | none => items

namespace Assembler

/-! ## Announcing -/

/-- The tags of collections, and what each collection is before it is filled. -/
def emptyCollections : List (Text × Web.Collection) :=
  [("seq", .list []), ("map", .map []), ("set", .set []), ("omap", .list []), ("pairs", .list [])]

/-- A place for a collection. -/
def place (c : Web.Collection) : Assembler Nat :=
  modifyGet fun a => (a.collections.size, { a with collections := a.collections.push c })

/-- What the node at a place becomes. -/
def item (node : Nat) : Assembler Web.Item := do
  let a ← get
  match a.made[node]?.join with
  | some item => return item
  | none =>
      let tag := (a.nodes.node node).tag
      match (Text.after? coreLead tag).bind fun name => emptyCollections.lookup name with
      | some empty =>
          let here ← place empty
          modify fun a => { a with
            made := a.made.setIfInBounds node (some (.collection here))
            waiting := (node, here) :: a.waiting }
          return .collection here
      | none =>
          let v ← (a.nodes.scalar node : Parsed Value)
          modify fun a => { a with made := a.made.setIfInBounds node (some (.leaf v)) }
          return .leaf v

/-! ## Filling -/

/-- The document has something in a wrong place. -/
def refuse {α : Type} : Assembler α := fun _ => malformed

/-- The entries of pairs.  A collection is no key. -/
def entries (found : List (Value × Web.Item)) :
    List (Nat × Nat) → Assembler (List (Value × Web.Item))
  | [] => return found
  | (key, value) :: rest => do
      match ← item key with
      | .collection _ => refuse
      | .leaf k => entries (insertEntry found k (← item value)) rest

/-- The entries of the mapping at a place, with all that it brings in. -/
def mapping (node : Nat) : Assembler (List (Value × Web.Item)) := do
  let a ← get
  match (a.nodes.node node).content with
  | .mapping _ =>
      let nodes ← (a.nodes.merge node : Parsed Graph)
      set { a with nodes }
      entries [] (nodes.pairs node)
  | _ => refuse

/-- The pair that a mapping with a single entry is. -/
def pair (node : Nat) : Assembler Web.Item := do
  match ((← get).nodes.node node).content with
  | .mapping [(key, value)] =>
      let k ← item key
      let v ← item value
      return .collection (← place (.tuple [k, v]))
  | _ => refuse

/-- The collection that the node at a place is. -/
def collection (node : Nat) : Assembler Web.Collection := do
  let n := (← get).nodes.node node
  if n.tag = coreTag "map" then return .map (← mapping node)
  else if n.tag = coreTag "set" then
    return .set (inSetOrder ((← mapping node).map Prod.fst))
  else match n.content with
    | .sequence items =>
        if n.tag = coreTag "seq" then return .list (← items.mapM item)
        else return .list (← items.mapM pair)
    | _ => refuse

/-- Fills a collection from its node. -/
def fill (node here : Nat) : Assembler Unit := do
  let c ← collection node
  modify fun a => { a with collections := a.collections.setIfInBounds here c }

/-- Fills all collections.  No node is filled twice, so the number of nodes bounds the
rounds. -/
def rounds : (fuel : Nat) → Assembler Unit
  | 0 => return ()
  | fuel + 1 => do
      let waiting := (← get).waiting
      if waiting.isEmpty then return ()
      else
        modify fun a => { a with waiting := [] }
        waiting.reverse.forM fun (node, here) => fill node here
        rounds fuel

end Assembler

/-- The web of a graph from the node at a place on. -/
def Graph.web (g : Graph) (root : Nat) : Parsed Web := do
  let start : Assembly := ⟨g, .replicate g.size none, #[], []⟩
  let (item, a) ← (do
    let item ← Assembler.item root
    Assembler.rounds (g.size + 1)
    return item : Assembler Web.Item) start
  return ⟨a.collections, item⟩

end ConfigReader.Yaml
