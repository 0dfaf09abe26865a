import ConfigReader.Value

/-!
# Webs

A *web* is a document whose collections stand beside each other and refer to each
other by place.  Two collections can refer to the same one, and a collection can
refer to itself.

`Web.unfold` turns what stands in a web into a value.  A collection that is met
within itself is not unfolded again, so the number of collections bounds how deep
the unfolding goes.
-/

namespace ConfigReader

namespace Web

/-- What stands in a collection. -/
inductive Item where
  /-- A value that refers to nothing. -/
  | leaf (v : Value)
  /-- The collection at a place. -/
  | collection (place : Nat)

/-- A collection. -/
inductive Collection where
  /-- A list. -/
  | list (items : List Item)
  /-- A tuple. -/
  | tuple (items : List Item)
  /-- A mapping. -/
  | map (entries : List (Value × Item))
  /-- A set. -/
  | set (items : List Value)

namespace Collection

/-- What stands for a collection within itself. -/
def again : Collection → Value
  | list _ => .again "list" "[...]"
  | tuple _ => .again "tuple" "(...)"
  | map _ => .again "dict" "\x7b...\x7d"
  | set _ => .again "set" "set(...)"

/-- What a collection refers to. -/
def items : Collection → List Item
  | list items => items
  | tuple items => items
  | map entries => entries.map Prod.snd
  | set _ => []

/-- What paths lead to within a collection. -/
def members : Collection → List Item
  | tuple _ => []
  | c => c.items

/-- The value of a collection by the values of its items. -/
def value (unfold : Item → Value) : Collection → Value
  | list items => .list (items.map unfold)
  | tuple items => .tuple (items.map unfold)
  | map entries => .map (entries.map fun (k, item) => (k, unfold item))
  | set items => .set items

end Collection

end Web

/-- Collections, and where to begin. -/
structure Web where
  /-- The collections. -/
  collections : Array Web.Collection
  /-- The root. -/
  root : Web.Item

namespace Web

/-- The web of a value that refers to nothing. -/
def ofValue (v : Value) : Web := ⟨#[], .leaf v⟩

/-- The value of an item within some collections. -/
def unfoldWithin (w : Web) : (fuel : Nat) → (within : List Nat) → Item → Value
  | _, _, .leaf v => v
  | 0, _, .collection _ => .null
  | fuel + 1, within, .collection place => match w.collections[place]? with
      | none => .null
      | some c =>
          if within.contains place then c.again
          else c.value (w.unfoldWithin fuel (place :: within))

/-- The value of an item. -/
def unfold (w : Web) (item : Item) : Value := w.unfoldWithin (w.collections.size + 1) [] item

/-- An item leads to a collection that it stands within, by the parts of collections
that count. -/
def returnsWithin (w : Web) (parts : Collection → List Item) :
    (fuel : Nat) → (within : List Nat) → Item → Bool
  | _, _, .leaf _ => false
  | 0, _, .collection _ => true
  | fuel + 1, within, .collection place =>
      within.contains place || match w.collections[place]? with
        | none => false
        | some c => (parts c).any (w.returnsWithin parts fuel (place :: within))

/-- The root leads to a collection that stands within itself. -/
def returns (w : Web) (parts : Collection → List Item) : Bool :=
  w.returnsWithin parts (w.collections.size + 1) [] w.root

/-- Some collection stands within itself. -/
def isCyclic (w : Web) : Bool := w.returns Collection.items

/-- Some path leads to ever more paths. -/
def isEndless (w : Web) : Bool := w.returns Collection.members

/-- The same document as a single value, if no collection stands within itself. -/
def simplified (w : Web) : Web := if w.isCyclic then w else ofValue (w.unfold w.root)

/-- The number of entries, if the root is a mapping. -/
def entryCount? (w : Web) : Option Nat :=
  match w.root with
  | .leaf (.map entries) => some entries.length
  | .leaf _ => none
  | .collection place => match w.collections[place]? with
      | some (.map entries) => some entries.length
      | _ => none

/-! ## Tests -/

/-- A list that holds itself. -/
def loop : Web := ⟨#[.list [.leaf (.int 1), .collection 0]], .collection 0⟩

example : (loop.unfold loop.root).quoted? = some "[1, [...]]" := by decide +kernel

example : loop.isCyclic = true := by decide +kernel

end Web

end ConfigReader
