import ConfigReader.Proofs.Trees
import ConfigReader.Source.Cyclic

/-!
# Answers of webs

A web without a collection within itself is unfolded into a tree, and the tree is asked.  Any
other web is followed from item to item.  Both ways come to the same answers
(`Source.answer_ofWeb`), so a document can be followed whatever it is.

What an item unfolds to depends on the collections around it only if one of them is met
again.  If none is, the collections around do not matter (`Web.unfoldWithin_eq`), so the
value of a collection is made of the values of its items (`Web.unfold_collection`).
-/

namespace ConfigReader

theorem Value.member?_cons (k v : Value) (rest : List (Value × Value)) (name : Text) :
    member? ((k, v) :: rest) name =
      if k.text? = some name then some v else member? rest name := by
  rw [member?, List.findSome?_cons]
  cases k with
  | text t =>
      by_cases ht : t = name <;> simp [ht, text?, member?]
  | _ => rfl

namespace Web

variable {w : Web}

/-! ## Items that unfold -/

/-- The same collections, seen from an item. -/
def rooted (w : Web) (item : Item) : Web := { w with root := item }

/-- The item is there. -/
def Stands (w : Web) : Item → Prop
  | .leaf _ => True
  | .collection place => place < w.collections.size

/-- Everything that is referred to is there. -/
structure Closed (w : Web) : Prop where
  /-- The root is there. -/
  root : w.Stands w.root
  /-- The items of collections are there. -/
  items : ∀ (place : Nat) (c : Collection), w.collections[place]? = some c →
    ∀ item ∈ c.items, w.Stands item

/-- The item leads to no collection that it stands within. -/
def Unfolds (w : Web) (item : Item) : Prop :=
  w.returnsWithin Collection.items (w.collections.size + 1) [] item = false

theorem returnsWithin_eq_false {fuel : Nat} {within : List Nat} {place : Nat} :
    w.returnsWithin Collection.items (fuel + 1) within (.collection place) = false ↔
      place ∉ within ∧ ∀ c, w.collections[place]? = some c → ∀ item ∈ c.items,
        w.returnsWithin Collection.items fuel (place :: within) item = false := by
  rw [returnsWithin]
  cases w.collections[place]? with
  | none => simp
  | some c => simp

/-- Fewer collections around and more fuel do not make an item return. -/
theorem returnsWithin_mono {fuel fuel' : Nat} (hfuel : fuel ≤ fuel') {within within' : List Nat}
    (hwithin : within' ⊆ within) {item : Item}
    (h : w.returnsWithin Collection.items fuel within item = false) :
    w.returnsWithin Collection.items fuel' within' item = false := by
  induction fuel generalizing fuel' within within' item with
  | zero => cases item with
    | leaf v => cases fuel' <;> rfl
    | collection place => cases h
  | succ fuel ih => cases item with
    | leaf v => cases fuel' <;> rfl
    | collection place =>
        obtain ⟨n, rfl⟩ : ∃ n, fuel' = n + 1 := ⟨fuel' - 1, by omega⟩
        obtain ⟨hplace, hitems⟩ := returnsWithin_eq_false.mp h
        refine returnsWithin_eq_false.mpr ⟨fun hmem => hplace (hwithin hmem), ?_⟩
        intro c hc item hitem
        exact ih (by omega) (List.cons_subset_cons place hwithin) (hitems c hc item hitem)

theorem Collection.value_congr {c : Collection} {f g : Item → Value}
    (h : ∀ item ∈ c.items, f item = g item) : c.value f = c.value g := by
  cases c with
  | list items => exact congrArg Value.list (List.map_congr_left h)
  | tuple items => exact congrArg Value.tuple (List.map_congr_left h)
  | map entries =>
      refine congrArg Value.map (List.map_congr_left fun entry hentry => ?_)
      exact congrArg (Prod.mk entry.1) (h entry.2 (List.mem_map_of_mem hentry))
  | set items => rfl

/-- An item that does not return has the same value wherever it is met. -/
theorem unfoldWithin_eq {fuel fuel' : Nat} {within within' : List Nat} {item : Item}
    (h : w.returnsWithin Collection.items fuel within item = false)
    (h' : w.returnsWithin Collection.items fuel' within' item = false) :
    w.unfoldWithin fuel within item = w.unfoldWithin fuel' within' item := by
  induction fuel generalizing fuel' within within' item with
  | zero => cases item with
    | leaf v => cases fuel' <;> rfl
    | collection place => cases h
  | succ fuel ih => cases item with
    | leaf v => cases fuel' <;> rfl
    | collection place => cases fuel' with
      | zero => cases h'
      | succ fuel' =>
          obtain ⟨hplace, hitems⟩ := returnsWithin_eq_false.mp h
          obtain ⟨hplace', hitems'⟩ := returnsWithin_eq_false.mp h'
          rw [unfoldWithin, unfoldWithin]
          cases hc : w.collections[place]? with
          | none => rfl
          | some c =>
              simp only [List.contains_iff_mem, hplace, hplace', if_false]
              exact Collection.value_congr fun item hitem =>
                ih (hitems c hc item hitem) (hitems' c hc item hitem)

namespace Unfolds

variable {place : Nat} {c : Collection} (h : w.Unfolds (.collection place))
  (hc : w.collections[place]? = some c)
include h hc

theorem item {item : Item} (hitem : item ∈ c.items) : w.Unfolds item :=
  returnsWithin_mono (Nat.le_succ _) (List.nil_subset _)
    ((returnsWithin_eq_false.mp h).2 c hc item hitem)

/-- The value of a collection is made of the values of its items. -/
theorem unfold_collection : w.unfold (.collection place) = c.value w.unfold := by
  obtain ⟨-, hitems⟩ := returnsWithin_eq_false.mp h
  rw [unfold, unfoldWithin, hc]
  exact Collection.value_congr fun item hitem =>
    unfoldWithin_eq (hitems c hc item hitem) (h.item hc hitem)

end Unfolds

/-! ## Following a web and its unfolding -/

theorem member?_cons (k : Value) (item : Item) (rest : List (Value × Item)) (name : Text) :
    descend?.member? ((k, item) :: rest) name =
      if k.text? = some name then some item else descend?.member? rest name := by
  rw [descend?.member?, List.findSome?_cons]
  split <;> simp_all [descend?.member?]

theorem member?_unfold (entries : List (Value × Item)) (name : Text) :
    Value.member? (entries.map fun (k, item) => (k, w.unfold item)) name =
      (descend?.member? entries name).map w.unfold := by
  induction entries with
  | nil => rfl
  | cons entry rest ih =>
      obtain ⟨k, item⟩ := entry
      rw [List.map_cons, Value.member?_cons, ih, member?_cons]
      split <;> rfl

theorem mem_of_member? {entries : List (Value × Item)} {name : Text} {item : Item}
    (h : descend?.member? entries name = some item) : item ∈ (Collection.map entries).items := by
  obtain ⟨entry, hentry, hfound⟩ := List.exists_of_findSome?_eq_some h
  obtain ⟨-, hitem⟩ := Option.ite_none_right_eq_some.mp hfound
  obtain rfl := Option.some.inj hitem
  exact List.mem_map_of_mem hentry

theorem element?_map {α β : Type} (f : α → β) (items : List α) (segment : Text) :
    Document.element? (items.map f) segment =
      (Document.element? items segment).map (·.map f) := by
  unfold Document.element?
  split
  · rfl
  · split
    · rfl
    · rw [List.getElem?_map]
      rfl

theorem descend?_nil (place : Nat) :
    w.descend? [] (.collection place) = .ok (some (.collection place)) := by
  rw [descend?]
  nofun

/-- Following a web comes to the item whose value the unfolding has there. -/
theorem descend?_unfold (hclosed : w.Closed) :
    ∀ {segments : List Text} {item : Item}, w.Stands item → w.Unfolds item →
      Document.descend? segments (w.unfold item) =
        (w.descend? segments item).map (·.map w.unfold)
  | segments, .leaf v, _, _ => by
      rw [descend?]
      change Document.descend? segments v = _
      cases Document.descend? segments v with
      | error f => rfl
      | ok found => cases found <;> rfl
  | [], .collection place, hstands, h => by
      have hvalue := h.unfold_collection (Array.getElem?_eq_getElem hstands)
      rw [descend?_nil, hvalue]
      change _ = Except.ok (some (w.unfold (.collection place)))
      rw [hvalue]
      cases w.collections[place] <;> rfl
  | segment :: rest, .collection place, hstands, h => by
      have hc := Array.getElem?_eq_getElem hstands
      have hitem : ∀ item ∈ w.collections[place].items,
          Document.descend? rest (w.unfold item) = (w.descend? rest item).map (·.map w.unfold) :=
        fun item hmem => descend?_unfold hclosed (hclosed.items place _ hc item hmem) (h.item hc hmem)
      rw [descend?, h.unfold_collection hc, hc]
      generalize w.collections[place] = c at hitem
      cases c with
      | list items =>
          simp only [Collection.value, Document.descend?, element?_map]
          cases hfound : Document.element? items segment with
          | error f => rfl
          | ok found => cases found with
            | none => rfl
            | some item =>
                exact hitem item (List.mem_of_getElem? (Document.item_of_element? hfound).2)
      | tuple items => rfl
      | map entries =>
          simp only [Collection.value, Document.descend?, member?_unfold]
          cases hfound : descend?.member? entries segment with
          | none => rfl
          | some item => exact hitem item (mem_of_member? hfound)
      | set items => rfl

/-! ## Webs seen from their items -/

section Rooted

variable (w : Web) (root : Item)

theorem unfoldWithin_rooted (fuel : Nat) (within : List Nat) (item : Item) :
    (w.rooted root).unfoldWithin fuel within item = w.unfoldWithin fuel within item := by
  induction fuel generalizing within item with
  | zero => cases item <;> rfl
  | succ fuel ih => cases item with
    | leaf v => rfl
    | collection place =>
        rw [unfoldWithin, unfoldWithin, funext (ih (place :: within))]
        rfl

theorem descend?_rooted (segments : List Text) (item : Item) :
    (w.rooted root).descend? segments item = w.descend? segments item := by
  induction segments generalizing item with
  | nil => cases item with
    | leaf v => rw [descend?, descend?]
    | collection place => rw [descend?_nil, descend?_nil]
  | cons segment rest ih => cases item with
    | leaf v => rw [descend?, descend?]
    | collection place =>
        rw [descend?, descend?]
        simp only [ih]
        rfl

end Rooted

/-! ## Answers -/

/-- A web that can be unfolded answers like its unfolding. -/
theorem answer_unfold (hclosed : w.Closed) (h : w.Unfolds w.root) (q : Lookup) :
    Document.answer (w.unfold w.root) q = w.answer q := by
  rw [Document.answer, Document.lookup?, descend?_unfold hclosed hclosed.root h, answer]
  cases w.descend? (q.path.splitOn separator) w.root with
  | error f => rfl
  | ok found => cases found <;> rfl

/-- A mapping unfolds to a mapping. -/
theorem unfold_mapping (hroot : w.entryCount?.isSome = true) (h : w.Unfolds w.root) :
    ∃ entries, w.unfold w.root = .map entries := by
  unfold entryCount? at hroot
  split at hroot
  · next entries heq =>
      rw [heq]
      exact ⟨entries, rfl⟩
  · cases hroot
  · next place heq =>
      split at hroot
      · next entries hc =>
          rw [heq] at h ⊢
          exact ⟨_, h.unfold_collection hc⟩
      · cases hroot

end Web

/-- The source of a mapping answers by following it, cyclic or not. -/
theorem Source.answer_ofWeb (origin : Text) {w : Web} (hclosed : w.Closed)
    (hroot : w.entryCount?.isSome = true) (q : Lookup) :
    (ofWeb origin w).answer q = Run.ofExcept (w.answer q) := by
  unfold ofWeb
  cases hcyclic : w.isCyclic with
  | true => rfl
  | false =>
      obtain ⟨entries, hentries⟩ := Web.unfold_mapping hroot hcyclic
      rw [← Web.answer_unfold hclosed hcyclic, hentries]
      rfl

end ConfigReader
