import ConfigReader.Proofs.Scopes
import ConfigReader.Proofs.Webs

/-!
# Parts of documents

A segment leads a lookup from one item of a document to another one, and the rest of the
path leads on from there.  So a document has under a segment what the item has that the
segment leads to (`Source.Moved.of_step`), with the segment in front of the paths of what
does not fit.

An element of a list is two steps away from the document: the key leads to the list, and
the index to the element.  `Web.Lists` is a document with a list of mappings at a key.  Its
elements are documents of their own, and a program that is run under the key and the
index runs as over the element alone (`Web.Lists.run_element`).
-/

namespace ConfigReader

/-! ## A scope in a scope -/

theorem Text.under_under (scope inner path : Text) :
    under scope (under inner path) = under (under scope inner) path := by
  simp [under]

theorem ReadFailure.under_under (scope inner : Text) (f : ReadFailure) :
    (f.under inner).under scope = f.under (Text.under scope inner) := by
  cases f <;> simp [under, Text.under_under]

theorem Halt.under_under (scope inner : Text) (halt : Halt) :
    (halt.under inner).under scope = halt.under (Text.under scope inner) := by
  cases halt with
  | unread f => exact congrArg unread (f.under_under scope inner)
  | raised e => rfl

theorem Collected.under_under {α : Type} (scope inner : Text) (x : Collected α) :
    (x.under inner).under scope = x.under (Text.under scope inner) := by
  cases x with
  | value a => rfl
  | failed first rest => simp [under, ReadFailure.under_under]

section Inside

variable {α : Type} {scope segment : Text} {inner middle outer : Source}
  (hinner : Source.Moved segment inner middle) (houter : Source.Moved scope middle outer)
include hinner houter

/-- What is under a segment of what is under a scope is under both. -/
theorem Source.Moved.run_inside (p : Program α) :
    p.run collecting outer ((KeyPath.root.child scope).child segment) =
      (p.run collecting inner .root).map (Collected.under (Text.under scope segment)) := by
  have hrun := Program.run_moved houter p (KeyPath.root.under segment)
  rw [Program.run_moved hinner p .root] at hrun
  refine hrun.trans ?_
  generalize p.run collecting inner .root = x
  obtain ⟨trace, outcome⟩ := x
  cases outcome with
  | error e => rfl
  | ok y =>
      change (⟨trace, .ok ((y.under _).under scope)⟩ : Run (Collected α)) = ⟨trace, .ok (y.under _)⟩
      rw [y.under_under]

theorem Source.Moved.ending_inside (p : Program α) :
    p.ending outer ((KeyPath.root.child scope).child segment) =
      (p.ending inner .root).mapError (Halt.under (Text.under scope segment)) := by
  have hend := Program.ending_moved houter p (KeyPath.root.under segment)
  rw [Program.ending_moved hinner p .root] at hend
  refine hend.trans ?_
  cases p.ending inner .root with
  | ok a => rfl
  | error halt => exact congrArg Except.error (halt.under_under scope _)

end Inside

/-! ## Answers a step further down -/

namespace Document

variable (scope path : Text) (v : Value)

theorem toScalar_under (kind : Kind) :
    toScalar (Text.under scope path) v kind =
      (toScalar path v kind).mapError (Failure.under scope) := by
  have hmalformed : ∀ {α : Type} (expected : Text),
      (.error (.malformed (Text.under scope path) expected v) : Except Failure α) =
        Except.mapError (Failure.under scope) (.error (.malformed path expected v)) :=
    fun expected => congrArg Except.error (Failure.malformed_under scope path expected v)
  cases kind with
  | string => cases v with
    | map entries => exact hmalformed _
    | list items => exact hmalformed _
    | int n =>
        simp only [toScalar, toText]
        cases (Value.int n).plain? <;> rfl
    | _ =>
        simp only [toScalar, toText]
        split <;> rfl
  | integer => cases v with
    | int n => rfl
    | text t => exact parseScalar_under scope t path .integer
    | _ => exact hmalformed _
  | boolean => cases v with
    | bool b => rfl
    | text t => exact parseScalar_under scope t path .boolean
    | _ => exact hmalformed _

theorem elementIds_under (expected : Text) :
    elementIds (Text.under scope path) expected v =
      (elementIds path expected v).mapError (Failure.under scope) := by
  unfold elementIds
  split
  · rfl
  · rw [Failure.malformed_under]
    rfl

end Document

namespace Web

variable {α : Type} {w : Web} {parent child : Item} {segment : Text}

/-- A segment leads from one item to another one. -/
def Step (w : Web) (segment : Text) (parent child : Item) : Prop :=
  ∀ rest, w.descend? (segment :: rest) parent = w.descend? rest child

/-- What is made of the value that segments lead to. -/
def readAt (w : Web) (segments : List Text) (item : Item) (use : Value → Except Failure α) :
    Except Failure (Option α) := do
  match ← w.descend? segments item with
  | none => return none
  | some found => return some (← use (w.unfold found))

theorem answer_rooted (w : Web) (root : Item) (q : Lookup) :
    (w.rooted root).answer q =
      w.readAt (q.path.splitOn separator) root fun v => Document.answerBy v q := by
  have hunfold : (w.rooted root).unfold = w.unfold := funext (w.unfoldWithin_rooted root _ [])
  rw [answer, readAt, hunfold]
  change (do match ← (w.rooted root).descend? (q.path.splitOn separator) root with
    | none => return none
    | some item => return some (← Document.answerBy (w.unfold item) q)) = _
  rw [descend?_rooted]

/-- An error on the way is that of an index that is too long, so it names no path. -/
theorem descend?_overflow {segments : List Text} {item : Item} {f : Failure}
    (h : w.descend? segments item = .error f) : ∃ digits, f = .integerTooLong digits := by
  have hempty : f.OfRead [] := descend?_error h
  have hother : f.OfRead [separator] := descend?_error h
  obtain ⟨_, _, rfl⟩ | hlong := hempty
  · obtain ⟨_, _, he⟩ | ⟨_, he⟩ := hother <;> cases he
  · exact hlong

theorem readAt_step (h : w.Step segment parent child) {use use' : Value → Except Failure α}
    (huse : ∀ v, use' v = (use v).mapError (Failure.under segment)) (segments : List Text) :
    w.readAt (segment :: segments) parent use' =
      (w.readAt segments child use).mapError (Failure.under segment) := by
  rw [readAt, readAt, h]
  cases hfound : w.descend? segments child with
  | error f =>
      obtain ⟨digits, rfl⟩ := descend?_overflow hfound
      rfl
  | ok found => cases found with
    | none => rfl
    | some item =>
        simp only [Bind.bind, Except.bind, huse]
        cases use (w.unfold item) <;> rfl

theorem replyAt_step (h : w.Step segment parent child) (hsegment : separator ∉ segment)
    {use use' : Value → Except Failure α}
    (huse : ∀ v, use' v = (use v).mapError (Failure.under segment)) (path : Text) :
    replyAt (Text.under segment path)
        (w.readAt ((Text.under segment path).splitOn separator) parent use') =
      (replyAt path (w.readAt (path.splitOn separator) child use)).mapError
        (Halt.under segment) := by
  have hsplit : (Text.under segment path).splitOn separator =
      segment :: path.splitOn separator := by
    rw [Text.under, Text.splitOn_append_separator, Text.splitOn_of_not_mem hsegment]
    rfl
  rw [hsplit, readAt_step h huse, replyAt_under]

end Web

namespace Source

variable {w : Web} {root : Web.Item}

/-- The source answers like an item of a web. -/
def Follows (source : Source) (w : Web) (root : Web.Item) : Prop :=
  ∀ q, source.answer q = Run.ofExcept ((w.rooted root).answer q)

theorem Follows.reply {source : Source} (h : source.Follows w root) (q : Lookup) :
    source.reply q =
      replyAt q.path (w.readAt (q.path.splitOn separator) root fun v => Document.answerBy v q) := by
  rw [reply_of_answer (h q), Web.answer_rooted]

theorem Follows.silent {source : Source} (h : source.Follows w root) (q : Lookup) :
    (source.answer q).trace = [] := by
  rw [h q]
  cases (w.rooted root).answer q <;> rfl

/-- Under a segment a source has what the source of the item has that it leads to. -/
theorem Moved.of_step {inner outer : Source} {parent child : Web.Item} {segment : Text}
    (hinner : inner.Follows w child) (houter : outer.Follows w parent)
    (hsegment : separator ∉ segment) (h : w.Step segment parent child) :
    Moved segment inner outer where
  scalar kind path := by
    rw [hinner.reply, houter.reply]
    exact Web.replyAt_step h hsegment (fun v => Document.toScalar_under segment path v kind) path
  elements path kind := by
    rw [hinner.reply, houter.reply]
    exact Web.replyAt_step h hsegment (fun v => Document.elementIds_under segment path v _) path
  records path := by
    rw [hinner.reply, houter.reply]
    exact Web.replyAt_step h hsegment (fun v => Document.elementIds_under segment path v _) path
  inner_silent := hinner.silent
  outer_silent := houter.silent

end Source

/-! ## Lists of mappings -/

namespace Web

/-- The member of a mapping. -/
def member? (w : Web) (name : Text) : Item → Option Item
  | .leaf (.map entries) => (Value.member? entries name).map .leaf
  | .leaf _ => none
  | .collection place => match w.collections[place]? with
      | some (.map entries) => descend?.member? entries name
      | _ => none

/-- The elements of a list. -/
def elements? (w : Web) : Item → Option (List Item)
  | .leaf (.list items) => some (items.map .leaf)
  | .leaf _ => none
  | .collection place => match w.collections[place]? with
      | some (.list items) => some items
      | _ => none

/-- A document that has a list of mappings at a key.  The indices of a list can be read
back if they are not too long, and there is no machine with room for a longer list. -/
structure Lists (w : Web) (key : Text) (elements : List Item) : Prop where
  /-- Everything in the document is there. -/
  closed : w.Closed
  /-- The key leads to the list. -/
  list : (w.member? key w.root).bind w.elements? = some elements
  /-- The elements of the list are mappings. -/
  mappings : ∀ d ∈ elements, (w.rooted d).entryCount?.isSome = true
  /-- The indices are not too long. -/
  short : ∀ i < elements.length, (Text.ofNat i).length ≤ digitLimit

/-- A tree that has a list of mappings at a key. -/
theorem lists_ofValue {entries : List (Value × Value)} {key : Text}
    {ds : List (List (Value × Value))}
    (hlist : Value.member? entries key = some (.list (ds.map .map)))
    (hshort : ∀ i < ds.length, (Text.ofNat i).length ≤ digitLimit) :
    (ofValue (.map entries)).Lists key (ds.map fun d => .leaf (.map d)) where
  closed := ⟨trivial, fun place c hc => nomatch hc⟩
  list := by
    change ((Value.member? entries key).map Item.leaf).bind _ = _
    rw [hlist]
    exact congrArg some List.map_map
  mappings := by
    intro d hd
    obtain ⟨entries, -, rfl⟩ := List.mem_map.mp hd
    rfl
  short := by simpa using hshort

variable {w : Web} {parent child : Item}

theorem member?_cases {name : Text} (h : w.member? name parent = some child) :
    (∃ entries v, parent = .leaf (.map entries) ∧ child = .leaf v ∧
      Value.member? entries name = some v) ∨
    ∃ place entries, parent = .collection place ∧
      w.collections[place]? = some (.map entries) ∧
      descend?.member? entries name = some child := by
  unfold member? at h
  split at h
  · next entries =>
      obtain ⟨v, hv, rfl⟩ := Option.map_eq_some_iff.mp h
      exact .inl ⟨entries, v, rfl, rfl, hv⟩
  · cases h
  · next place =>
      split at h
      · next entries hc => exact .inr ⟨place, entries, rfl, hc, h⟩
      · cases h

theorem elements?_cases {items : List Item} (h : w.elements? parent = some items) :
    (∃ vs : List Value, parent = .leaf (.list vs) ∧ items = vs.map .leaf) ∨
    ∃ place, parent = .collection place ∧ w.collections[place]? = some (.list items) := by
  unfold elements? at h
  split at h
  · next vs => exact .inl ⟨vs, rfl, (Option.some.inj h).symm⟩
  · cases h
  · next place =>
      split at h
      · next hc =>
          cases h
          exact .inr ⟨place, rfl, hc⟩
      · cases h

theorem step_of_member {name : Text} (h : w.member? name parent = some child) :
    w.Step name parent child := by
  intro rest
  obtain ⟨entries, v, rfl, rfl, hv⟩ | ⟨place, entries, rfl, hc, hchild⟩ := member?_cases h
  · rw [descend?, descend?, Document.descend?, hv]
  · rw [descend?, hc]
    simp only [hchild]

theorem step_of_element {items : List Item} (h : w.elements? parent = some items) {i : Nat}
    (hi : items[i]? = some child) (hshort : (Text.ofNat i).length ≤ digitLimit) :
    w.Step (Text.ofNat i) parent child := by
  intro rest
  obtain ⟨vs, rfl, rfl⟩ | ⟨place, rfl, hc⟩ := elements?_cases h
  · obtain ⟨v, hv, rfl⟩ := Option.map_eq_some_iff.mp (List.getElem?_map.symm.trans hi)
    rw [descend?, descend?, Document.descend?_item hv hshort]
  · rw [descend?, hc]
    simp only [Document.element?_ofNat, gt_iff_lt, Nat.not_lt.mpr hshort, if_false, hi]

/-- What has a member is a mapping. -/
theorem isSome_entryCount? {name : Text} (h : w.member? name w.root = some child) :
    w.entryCount?.isSome = true := by
  obtain ⟨entries, v, hroot, -, -⟩ | ⟨place, entries, hroot, hc, -⟩ := member?_cases h
  · simp only [entryCount?, hroot, Option.isSome_some]
  · simp only [entryCount?, hroot, hc, Option.isSome_some]

/-- A list is found where it is. -/
theorem descend?_list {items : List Item} (h : w.elements? parent = some items) :
    w.descend? [] parent = .ok (some parent) := by
  obtain ⟨vs, rfl, -⟩ | ⟨place, rfl, -⟩ := elements?_cases h
  · rfl
  · exact descend?_nil place

/-- A list unfolds to a list of its length, even if it stands within itself. -/
theorem unfold_list {items : List Item} (h : w.elements? parent = some items) :
    ∃ vs, w.unfold parent = .list vs ∧ vs.length = items.length := by
  obtain ⟨vs, rfl, rfl⟩ | ⟨place, rfl, hc⟩ := elements?_cases h
  · exact ⟨vs, rfl, (List.length_map _).symm⟩
  · rw [unfold, unfoldWithin, hc]
    exact ⟨_, rfl, List.length_map _⟩

/-- The elements of a list in a closed web are there. -/
theorem Closed.elements {items : List Item} (hclosed : w.Closed)
    (h : w.elements? parent = some items) : ∀ d ∈ items, w.Stands d := by
  obtain ⟨vs, rfl, rfl⟩ | ⟨place, rfl, hc⟩ := elements?_cases h
  · intro d hd
    obtain ⟨v, -, rfl⟩ := List.mem_map.mp hd
    trivial
  · exact hclosed.items _ _ hc

end Web

/-- The source of an item, be it a mapping or a list. -/
def Source.ofItem (w : Web) (item : Web.Item) : Source where
  shown := []
  keys := .ok []
  answer q := Run.ofExcept ((w.rooted item).answer q)

namespace Web.Lists

variable {α : Type} {w : Web} {key : Text} {elements : List Web.Item} (h : w.Lists key elements)
include h

theorem follows (origin : Text) : (Source.ofWeb origin w).Follows w w.root := by
  obtain ⟨list, hlist, -⟩ := Option.bind_eq_some_iff.mp h.list
  exact Source.answer_ofWeb origin h.closed (isSome_entryCount? hlist)

theorem follows_element (origin : Text) {d : Item} (hd : d ∈ elements) :
    (Source.ofWeb origin (w.rooted d)).Follows w d := by
  obtain ⟨list, -, helements⟩ := Option.bind_eq_some_iff.mp h.list
  have hclosed : (w.rooted d).Closed := ⟨h.closed.elements helements d hd, h.closed.items⟩
  exact Source.answer_ofWeb origin hclosed (h.mappings d hd)

/-- The document has an element under the key and the index. -/
theorem moved_element (origin origin' : Text) (hkey : separator ∉ key) {i : Nat} {d : Item}
    (hd : elements[i]? = some d) :
    ∃ list, Source.Moved (Text.ofNat i) (.ofWeb origin' (w.rooted d)) (.ofItem w list) ∧
      Source.Moved key (.ofItem w list) (.ofWeb origin w) := by
  obtain ⟨list, hlist, helements⟩ := Option.bind_eq_some_iff.mp h.list
  have hi : i < elements.length := (List.getElem?_eq_some_iff.mp hd).1
  have hitem : (Source.ofItem w list).Follows w list := fun _ => rfl
  refine ⟨list, ?_, ?_⟩
  · exact .of_step (h.follows_element origin' (List.mem_of_getElem? hd)) hitem
      (Text.separator_notMem_ofNat i) (step_of_element helements hd (h.short i hi))
  · exact .of_step hitem (h.follows origin) hkey (step_of_member hlist)

/-- The program of an element runs in its scope as it does over the element alone, with the
scope in front of the paths of its failed reads. -/
theorem run_element (origin origin' : Text) (hkey : separator ∉ key) (item : Program α) {i : Nat}
    {d : Item} (hd : elements[i]? = some d) :
    item.run collecting (.ofWeb origin w) ((KeyPath.root.child key).child (Text.ofNat i)) =
      (item.run collecting (.ofWeb origin' (w.rooted d)) .root).map
        (Collected.under (Text.under key (Text.ofNat i))) := by
  obtain ⟨list, hinner, houter⟩ := h.moved_element origin origin' hkey hd
  exact hinner.run_inside houter item

theorem ending_element (origin origin' : Text) (hkey : separator ∉ key) (item : Program α)
    {i : Nat} {d : Item} (hd : elements[i]? = some d) :
    item.ending (.ofWeb origin w) ((KeyPath.root.child key).child (Text.ofNat i)) =
      (item.ending (.ofWeb origin' (w.rooted d)) .root).mapError
        (Halt.under (Text.under key (Text.ofNat i))) := by
  obtain ⟨list, hinner, houter⟩ := h.moved_element origin origin' hkey hd
  exact hinner.ending_inside houter item

/-- The document lists the indices of the elements. -/
theorem reply_records (origin : Text) (hkey : separator ∉ key) :
    (Source.ofWeb origin w).reply (.records key) =
      .ok ((List.range elements.length).map Text.ofNat) := by
  obtain ⟨list, hlist, helements⟩ := Option.bind_eq_some_iff.mp h.list
  obtain ⟨vs, hvs, hlength⟩ := unfold_list helements
  have hread : w.readAt (key.splitOn separator) w.root
      (fun v => Document.answerBy v (.records key)) =
        .ok (some ((List.range elements.length).map Text.ofNat)) := by
    rw [Text.splitOn_of_not_mem hkey, readAt, step_of_member hlist, descend?_list helements,
      ← hlength]
    simp only [Bind.bind, Except.bind, hvs]
    rfl
  rw [(h.follows origin).reply, Lookup.path, hread]
  rfl

end Web.Lists

end ConfigReader
