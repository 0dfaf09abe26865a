import ConfigReader.Proofs.Segments
import ConfigReader.Source.Document

/-!
# Leaves of documents

The *leaves* of a document are its values that are neither null nor collections.  A step
leads into a collection, by the key of a member as it is, whatever value that is, or by
the index of an item.  `Value.Reaches` is a walk by steps, and `Value.leaves` are the
leaves and the steps to them.

A document lists a path for each leaf: the texts of its steps, one behind the other
(`Document.spell`).  A listing has these paths in the order of the leaves, except that a
leaf with the empty path is left out, and there is one if all keys have texts
(`Document.listing?_eq_some`).
-/

namespace ConfigReader

namespace Value

/-! ## Trees -/

/-- A list or a mapping. -/
def isCollection : Value → Bool
  | list _ => true
  | map _ => true
  | _ => false

/-- A value that is neither null nor a list nor a mapping. -/
def isLeaf : Value → Bool
  | null => false
  | list _ => false
  | map _ => false
  | _ => true

theorem isNull_of_isLeaf {v : Value} (h : v.isLeaf = true) : v.isNull = false := by
  cases v <;> first | rfl | cases h

theorem eq_null_or_isLeaf {v : Value} (h : v.isCollection = false) :
    v = null ∨ v.isLeaf = true := by
  cases v with
  | null => exact .inl rfl
  | list items => cases h
  | map entries => cases h
  | _ => exact .inr rfl

/-- A value is a list, a mapping, or nothing that paths lead into. -/
@[elab_as_elim]
theorem tree_induction {motive : Value → Prop}
    (list : ∀ items, (∀ v ∈ items, motive v) → motive (list items))
    (map : ∀ entries, (∀ entry ∈ entries, motive entry.2) → motive (map entries))
    (other : ∀ v, v.isCollection = false → motive v) (v : Value) : motive v := by
  cases v with
  | list items => exact list items fun v hv => tree_induction list map other v
  | map entries => exact map entries fun entry hentry => tree_induction list map other entry.2
  | _ => exact other _ rfl
termination_by sizeOf v
decreasing_by
  · have := List.sizeOf_lt_of_mem hv
    simp_wf
    omega
  · obtain ⟨k, u⟩ := entry
    have := List.sizeOf_lt_of_mem hentry
    simp only [Prod.mk.sizeOf_spec] at this
    simp_wf
    omega

/-- Every mapping in a tree has a property. -/
inductive Everywhere (P : List (Value × Value) → Prop) : Value → Prop
  | other {v : Value} (h : v.isCollection = false) : Everywhere P v
  | list {items : List Value} (h : ∀ v ∈ items, Everywhere P v) : Everywhere P (list items)
  | map {entries : List (Value × Value)} (here : P entries)
      (h : ∀ entry ∈ entries, Everywhere P entry.2) : Everywhere P (map entries)

theorem Everywhere.imp {P Q : List (Value × Value) → Prop} (h : ∀ entries, P entries → Q entries)
    {v : Value} (hv : v.Everywhere P) : v.Everywhere Q := by
  induction hv with
  | other hv => exact .other hv
  | list _ ih => exact .list ih
  | map here _ ih => exact .map (h _ here) ih

theorem everywhere_list {P : List (Value × Value) → Prop} {items : List Value} :
    (list items).Everywhere P ↔ ∀ v ∈ items, v.Everywhere P := by
  refine ⟨fun h => ?_, .list⟩
  cases h with
  | other h => cases h
  | list h => exact h

theorem everywhere_map {P : List (Value × Value) → Prop} {entries : List (Value × Value)} :
    (map entries).Everywhere P ↔ P entries ∧ ∀ entry ∈ entries, entry.2.Everywhere P := by
  refine ⟨fun h => ?_, fun h => .map h.1 h.2⟩
  cases h with
  | other h => cases h
  | map here h => exact ⟨here, h⟩

/-! ## Steps -/

/-- A step into a collection: to the member at a key, or to the item with an index. -/
inductive Step where
  | key (k : Value)
  | index (i : Nat)

/-- Steps lead from a value to one in it. -/
inductive Reaches : Value → List Step → Value → Prop
  | here (v : Value) : Reaches v [] v
  | member {entries : List (Value × Value)} {k v u : Value} {rest : List Step}
      (h : (k, v) ∈ entries) (hrest : Reaches v rest u) : Reaches (map entries) (.key k :: rest) u
  | item {items : List Value} {i : Nat} {v u : Value} {rest : List Step}
      (h : items[i]? = some v) (hrest : Reaches v rest u) :
      Reaches (list items) (.index i :: rest) u

/-! ## Leaves -/

/-- A leaf and the steps to it, from one step further out. -/
def behind (step : Step) (leaf : List Step × Value) : List Step × Value := (step :: leaf.1, leaf.2)

mutual

/-- The leaves of a tree and the steps to them. -/
def leaves : Value → List (List Step × Value)
  | null => []
  | list items => itemLeaves items 0
  | map entries => entryLeaves entries
  | v => [([], v)]

/-- The leaves of members. -/
def entryLeaves : List (Value × Value) → List (List Step × Value)
  | [] => []
  | (k, v) :: rest => (leaves v).map (behind (.key k)) ++ entryLeaves rest

/-- The leaves of items, from an index on. -/
def itemLeaves : List Value → Nat → List (List Step × Value)
  | [], _ => []
  | v :: rest, index => (leaves v).map (behind (.index index)) ++ itemLeaves rest (index + 1)

end

mutual

/-- How many leaves a tree has. -/
def leafCount : Value → Nat
  | null => 0
  | list items => itemsLeafCount items
  | map entries => entriesLeafCount entries
  | _ => 1

/-- How many leaves items have. -/
def itemsLeafCount : List Value → Nat
  | [] => 0
  | v :: rest => leafCount v + itemsLeafCount rest

/-- How many leaves members have. -/
def entriesLeafCount : List (Value × Value) → Nat
  | [] => 0
  | (_, v) :: rest => leafCount v + entriesLeafCount rest

end

theorem leaves_of_isLeaf {v : Value} (h : v.isLeaf = true) : leaves v = [([], v)] := by
  cases v <;> first | rfl | cases h

theorem entryLeaves_eq (entries : List (Value × Value)) :
    entryLeaves entries =
      entries.flatMap fun entry => (leaves entry.2).map (behind (.key entry.1)) := by
  induction entries with
  | nil => rfl
  | cons entry rest ih => rw [entryLeaves, ih, List.flatMap_cons]

theorem itemLeaves_eq (items : List Value) (index : Nat) :
    itemLeaves items index =
      (items.zipIdx index).flatMap fun item => (leaves item.1).map (behind (.index item.2)) := by
  induction items generalizing index with
  | nil => rfl
  | cons v rest ih => rw [itemLeaves, ih, List.zipIdx_cons, List.flatMap_cons]

/-- The leaves are what steps lead to. -/
theorem mem_leaves {v leaf : Value} {steps : List Step} :
    (steps, leaf) ∈ leaves v ↔ v.Reaches steps leaf ∧ leaf.isLeaf = true := by
  constructor
  · intro h
    induction v using tree_induction generalizing steps with
    | list items ih =>
        rw [leaves, itemLeaves_eq, List.mem_flatMap] at h
        rcases h with ⟨⟨v, i⟩, hitem, h⟩
        rcases List.mem_map.mp h with ⟨⟨rest, leaf⟩, hleaf, heq⟩
        cases heq
        have hi : items[i]? = some v := List.mem_zipIdx_iff_getElem?.mp hitem
        exact (ih v (List.mem_of_getElem? hi) hleaf).imp_left (.item hi)
    | map entries ih =>
        rw [leaves, entryLeaves_eq, List.mem_flatMap] at h
        rcases h with ⟨⟨k, v⟩, hentry, h⟩
        rcases List.mem_map.mp h with ⟨⟨rest, leaf⟩, hleaf, heq⟩
        cases heq
        exact (ih _ hentry hleaf).imp_left (.member hentry)
    | other v hv =>
        rcases eq_null_or_isLeaf hv with rfl | hleaf
        · cases h
        · rw [leaves_of_isLeaf hleaf, List.mem_singleton] at h
          cases h
          exact ⟨.here leaf, hleaf⟩
  · rintro ⟨h, hleaf⟩
    induction h with
    | here v =>
        rw [leaves_of_isLeaf hleaf]
        exact List.mem_cons_self
    | @member entries k v u rest h _ ih =>
        rw [leaves, entryLeaves_eq, List.mem_flatMap]
        exact ⟨(k, v), h, List.mem_map_of_mem (ih hleaf)⟩
    | @item items i v u rest h _ ih =>
        rw [leaves, itemLeaves_eq, List.mem_flatMap]
        exact ⟨(v, i), List.mem_zipIdx_iff_getElem?.mpr h, List.mem_map_of_mem (ih hleaf)⟩

mutual

theorem length_leaves : ∀ v : Value, (leaves v).length = leafCount v
  | null => rfl
  | list items => length_itemLeaves items 0
  | map entries => length_entryLeaves entries
  | bool _ | int _ | float _ | text _ | tuple _ | set _ | bytes _ | record .. | boxed .. | path _
  | moment .. | function .. | again .. => rfl

theorem length_entryLeaves : ∀ entries : List (Value × Value),
    (entryLeaves entries).length = entriesLeafCount entries
  | [] => rfl
  | (_, v) :: rest => by
      rw [entryLeaves, entriesLeafCount, List.length_append, List.length_map, length_leaves v,
        length_entryLeaves rest]

theorem length_itemLeaves : ∀ (items : List Value) (index : Nat),
    (itemLeaves items index).length = itemsLeafCount items
  | [], _ => rfl
  | v :: rest, index => by
      rw [itemLeaves, itemsLeafCount, List.length_append, List.length_map, length_leaves v,
        length_itemLeaves rest]

end

end Value

namespace Document

open Value (Step leaves entryLeaves itemLeaves behind Everywhere)

/-! ## Paths of leaves -/

/-- How a step is written. -/
def stepText? : Step → Option Text
  | .key k => k.plain?
  | .index i => some (Text.ofNat i)

/-- The path of steps that go on from a path. -/
def spell (path : Text) : List Step → Option Text
  | [] => some path
  | step :: rest => (stepText? step).bind fun segment => spell (extend path segment) rest

/-- The path that is listed for a leaf. -/
def listed? (path : Text) (leaf : List Step × Value) : Option Text :=
  (spell path leaf.1).filter fun listed => listed ≠ []

/-- The paths that are listed for a value under a path.  There is none for null. -/
def listing? (path : Text) (v : Value) : Option (List Text) :=
  if v.isNull then some [] else paths? v path

/-- All keys of a mapping have a text. -/
def Named (entries : List (Value × Value)) : Prop :=
  ∀ entry ∈ entries, ∃ segment, entry.1.plain? = some segment

theorem listed?_behind (step : Step) {segment : Text} (h : stepText? step = some segment)
    (path : Text) (here : List (List Step × Value)) :
    (here.map (behind step)).filterMap (listed? path) =
      here.filterMap (listed? (extend path segment)) := by
  rw [List.filterMap_map]
  congr 1
  funext leaf
  simp only [Function.comp, listed?, behind, spell, h, Option.bind_some]

theorem listed?_here (path : Text) (v : Value) :
    listed? path ([], v) = if path = [] then none else some path := by
  by_cases h : path = [] <;> simp [listed?, spell, h]

theorem paths?_of_isLeaf {v : Value} (h : v.isLeaf = true) (path : Text) :
    paths? v path = some (if path = [] then [] else [path]) := by
  have hpaths : paths? v path = some (if path.isEmpty then [] else [path]) := by
    cases v <;> first | rfl | cases h
  rw [hpaths]
  cases path <;> rfl

/-- The paths that are listed are those of the leaves, and they are if the keys have texts. -/
def ListsLeaves (v : Value) : Prop :=
  ∀ path paths, listing? path v = some paths ↔
    v.Everywhere Named ∧ paths = (leaves v).filterMap (listed? path)

theorem entryPaths?_eq_some {entries : List (Value × Value)}
    (h : ∀ entry ∈ entries, ListsLeaves entry.2) {path : Text} {paths : List Text} :
    entryPaths? entries path = some paths ↔
      (Named entries ∧ ∀ entry ∈ entries, entry.2.Everywhere Named) ∧
        paths = (entryLeaves entries).filterMap (listed? path) := by
  induction entries generalizing paths with
  | nil => simp [entryPaths?, Named, entryLeaves, eq_comm]
  | cons entry rest ih =>
      obtain ⟨k, v⟩ := entry
      have hfirst := h _ List.mem_cons_self
      have hrest := fun ps => @ih (fun e he => h e (List.mem_cons_of_mem _ he)) ps
      rw [entryPaths?, entryLeaves, List.filterMap_append, Named, List.forall_mem_cons,
        List.forall_mem_cons]
      simp only [Option.bind_eq_some_iff, Option.map_eq_some_iff]
      constructor
      · rintro ⟨segment, hk, here, hhere, there, hthere, rfl⟩
        rcases (hfirst _ _).mp hhere with ⟨hv, rfl⟩
        rcases (hrest _).mp hthere with ⟨⟨hnamed, hbelow⟩, rfl⟩
        rw [listed?_behind (.key k) hk]
        exact ⟨⟨⟨⟨segment, hk⟩, hnamed⟩, hv, hbelow⟩, rfl⟩
      · rintro ⟨⟨⟨⟨segment, hk⟩, hnamed⟩, hv, hbelow⟩, rfl⟩
        rw [listed?_behind (.key k) hk]
        exact ⟨segment, hk, _, (hfirst _ _).mpr ⟨hv, rfl⟩, _,
          (hrest _).mpr ⟨⟨hnamed, hbelow⟩, rfl⟩, rfl⟩

theorem itemPaths?_eq_some {items : List Value} (h : ∀ v ∈ items, ListsLeaves v) {path : Text}
    {index : Nat} {paths : List Text} :
    itemPaths? items path index = some paths ↔
      (∀ v ∈ items, v.Everywhere Named) ∧
        paths = (itemLeaves items index).filterMap (listed? path) := by
  induction items generalizing index paths with
  | nil => simp [itemPaths?, itemLeaves, eq_comm]
  | cons v rest ih =>
      have hfirst := h _ List.mem_cons_self
      have hrest := fun ps => @ih (fun w hw => h w (List.mem_cons_of_mem _ hw)) (index + 1) ps
      rw [itemPaths?, itemLeaves, List.filterMap_append, List.forall_mem_cons,
        listed?_behind (.index index) rfl]
      simp only [Option.bind_eq_some_iff, Option.map_eq_some_iff]
      constructor
      · rintro ⟨here, hhere, there, hthere, rfl⟩
        rcases (hfirst _ _).mp hhere with ⟨hv, rfl⟩
        rcases (hrest _).mp hthere with ⟨hbelow, rfl⟩
        exact ⟨⟨hv, hbelow⟩, rfl⟩
      · rintro ⟨⟨hv, hbelow⟩, rfl⟩
        exact ⟨_, (hfirst _ _).mpr ⟨hv, rfl⟩, _, (hrest _).mpr ⟨hbelow, rfl⟩, rfl⟩

theorem listing?_eq_some (v : Value) : ListsLeaves v := by
  intro path paths
  induction v using Value.tree_induction generalizing path paths with
  | list items ih =>
      rw [Value.everywhere_list]
      exact itemPaths?_eq_some ih
  | map entries ih =>
      rw [Value.everywhere_map]
      exact entryPaths?_eq_some ih
  | other v hv =>
      have hlisting : listing? path v = some ((leaves v).filterMap (listed? path)) := by
        rcases Value.eq_null_or_isLeaf hv with rfl | hleaf
        · rfl
        · rw [listing?, Value.isNull_of_isLeaf hleaf, if_neg (by simp), paths?_of_isLeaf hleaf,
            Value.leaves_of_isLeaf hleaf, List.filterMap_cons, listed?_here]
          by_cases hpath : path = [] <;> simp [hpath]
      rw [hlisting, Option.some.injEq, eq_comm]
      exact (and_iff_right (.other hv)).symm

/-- The paths that a document lists are spelled by the steps to its leaves. -/
theorem mem_listed {v : Value} {path listed : Text} :
    listed ∈ (leaves v).filterMap (listed? path) ↔
      listed ≠ [] ∧ ∃ steps leaf, v.Reaches steps leaf ∧ leaf.isLeaf = true ∧
        spell path steps = some listed := by
  simp only [List.mem_filterMap, listed?, Option.filter_eq_some_iff, decide_eq_true_eq]
  constructor
  · rintro ⟨⟨steps, leaf⟩, hleaf, hspell, hne⟩
    rcases Value.mem_leaves.mp hleaf with ⟨hreaches, hleaf⟩
    exact ⟨hne, steps, leaf, hreaches, hleaf, hspell⟩
  · rintro ⟨hne, steps, leaf, hreaches, hleaf, hspell⟩
    exact ⟨(steps, leaf), Value.mem_leaves.mpr ⟨hreaches, hleaf⟩, hspell, hne⟩

end Document

/-- The keys of a document are the paths of its leaves, and it has keys if the keys of its
mappings have texts. -/
theorem Source.keys_ofDocument_eq_ok {origin : Text} {entries : List (Value × Value)}
    {keys : List Text} :
    (ofDocument origin entries).keys = .ok keys ↔
      (Value.map entries).Everywhere Document.Named ∧
        keys = Text.sort ((Value.map entries).leaves.filterMap (Document.listed? [])) := by
  have h := Document.listing?_eq_some (.map entries) []
  change ∀ paths, Document.entryPaths? entries [] = some paths ↔ _ at h
  unfold ofDocument
  cases hpaths : Document.entryPaths? entries [] with
  | none =>
      have hnone : ¬ (Value.map entries).Everywhere Document.Named := fun hnamed =>
        nomatch hpaths.symm.trans ((h _).mpr ⟨hnamed, rfl⟩)
      simp [hnone]
  | some paths =>
      rcases (h paths).mp hpaths with ⟨hnamed, rfl⟩
      simp [hnamed, eq_comm]

end ConfigReader
