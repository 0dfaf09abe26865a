import ConfigReader.Proofs.Flattening
import ConfigReader.Proofs.Sources
import ConfigReader.Proofs.Traces

/-!
# Paths and their fragments

A path is spelt out by one recursion and taken apart by another.  The scope is extended from the
root down and asked for its text from the leaf up, and a source cuts the text at its separators.
For fragments without separators the two undo each other (`KeyPath.splitOn_resolve`), so that
different scopes or leaves never share a path.

A lookup in a document follows the fragments one at a time.  What one of them does is
`Document.step?`, and in a document that may hold itself `Web.step?`.  A lookup takes these steps
until one of them comes to nothing (`foldlM_of_steps`).

`KeyPath.resolve_fragments` has both, and says that runs ask for such paths only.  Their fragments
are the keys of the program and the element ids that the source tells.
-/

namespace ConfigReader

/-! ## Fragments -/

namespace KeyPath

/-- At the root a path is its leaf, and elsewhere the scope stands in front of it. -/
theorem resolve_eq (path : KeyPath) (leaf : Text) :
    path.resolve leaf = if path.isRoot then leaf else path.scope ++ separator :: leaf := by
  cases path <;> rfl

theorem descend_concat (path : KeyPath) (fragments : List Text) (fragment : Text) :
    path.descend (fragments ++ [fragment]) = (path.descend fragments).child fragment :=
  List.foldl_concat ..

/-- The path of a leaf is cut into the fragments of its scope and the leaf. -/
theorem splitOn_resolve {fragments : List Text} {leaf : Text}
    (hfree : ∀ f ∈ fragments ++ [leaf], separator ∉ f) :
    ((root.descend fragments).resolve leaf).splitOn separator = fragments ++ [leaf] := by
  induction fragments using List.reverseRecOn generalizing leaf with
  | nil => exact Text.splitOn_of_not_mem (hfree leaf List.mem_cons_self)
  | append_singleton fragments fragment ih =>
      obtain ⟨hscope, hleaf⟩ := List.forall_mem_append.mp hfree
      have hleaf : separator ∉ leaf := hleaf leaf List.mem_cons_self
      rw [descend_concat, resolve, Text.splitOn_append_separator, ih hscope,
        Text.splitOn_of_not_mem hleaf]

end KeyPath

/-! ## Steps -/

/-- The value that a segment leads to: the member of a mapping, or the item of a list that digits
number.  Null counts as nothing. -/
def Document.step? (v : Value) (segment : Text) : Option Value :=
  (match v with
    | .map entries => Value.member? entries segment
    | .list items => if segment.isDigits then items[segment.toNat]? else none
    | _ => none).filter fun v => !v.isNull

/-- Null, and no collection. -/
def Web.Item.isNull : Web.Item → Bool
  | .leaf v => v.isNull
  | .collection _ => false

/-- The item that a segment leads to in a web. -/
def Web.step? (w : Web) (item : Web.Item) (segment : Text) : Option Web.Item :=
  match item with
  | .leaf v => (Document.step? v segment).map .leaf
  | .collection place =>
      (match w.collections[place]? with
        | some (.map entries) => Web.descend?.member? entries segment
        | some (.list items) => if segment.isDigits then items[segment.toNat]? else none
        | _ => none).filter fun item => !item.isNull

/-- The number that a segment spells is not too long to be read. -/
def Text.Short (segment : Text) : Prop := segment.isDigits = true → segment.length ≤ digitLimit

instance (segment : Text) : Decidable segment.Short :=
  inferInstanceAs (Decidable (_ = true → _ ≤ _))

theorem Document.element?_of_short {α : Type} (items : List α) {segment : Text}
    (h : segment.Short) :
    element? items segment = .ok (if segment.isDigits then items[segment.toNat]? else none) := by
  by_cases hdigits : segment.isDigits = true
  · rw [element?_of_isDigits hdigits, if_neg (Nat.not_lt.mpr (h hdigits)), if_pos hdigits]
  · rw [element?, if_pos (by simpa using hdigits), if_neg hdigits]

/-- A descent that takes a step for each segment, as long as the steps come to something, takes all
of them in turn. -/
theorem foldlM_of_steps {α : Type} {descend : List Text → α → Except Failure (Option α)}
    {step : α → Text → Option α} {F : α → Prop}
    (hnil : ∀ a, F a → descend [] a = .ok (some a))
    (hcons : ∀ a segment rest, segment.Short →
      descend (segment :: rest) a = (step a segment).elim (.ok none) (descend rest))
    (hfull : ∀ a segment b, step a segment = some b → F b)
    {segments : List Text} (hshort : ∀ s ∈ segments, s.Short) {a : α}
    (ha : segments = [] → F a) :
    descend segments a = .ok (segments.foldlM step a) := by
  induction segments generalizing a with
  | nil => exact hnil a (ha rfl)
  | cons segment rest ih =>
      obtain ⟨hsegment, hrest⟩ := List.forall_mem_cons.mp hshort
      rw [hcons a segment rest hsegment, List.foldlM_cons]
      cases hstep : step a segment with
      | none => rfl
      | some b => exact ih hrest fun _ => hfull a segment b hstep

namespace Document

theorem descend?_null (segments : List Text) : descend? segments .null = .ok none := by
  cases segments <;> rfl

theorem isNull_of_step? {v u : Value} {segment : Text} (h : step? v segment = some u) :
    u.isNull = false := by
  simpa using (Option.filter_eq_some_iff.mp h).2

/-- To go on at null comes to the same as to find nothing. -/
theorem descend?_filter (found : Option Value) (rest : List Text) :
    (found.filter fun v => !v.isNull).elim (.ok none) (descend? rest) =
      found.elim (.ok none) (descend? rest) := by
  cases found with
  | none => rfl
  | some v =>
      cases v with
      | null => exact (descend?_null rest).symm
      | _ => rfl

theorem descend?_cons (v : Value) (segment : Text) (rest : List Text) (h : segment.Short) :
    descend? (segment :: rest) v = (step? v segment).elim (.ok none) (descend? rest) := by
  cases v with
  | map entries =>
      rw [step?, descend?_filter, descend?]
      cases Value.member? entries segment <;> rfl
  | list items =>
      rw [step?, descend?_filter, descend?, element?_of_short items h]
      cases if segment.isDigits then items[segment.toNat]? else none <;> rfl
  | _ => rfl

/-- A lookup takes the steps of its segments. -/
theorem descend?_eq_steps {segments : List Text} (hne : segments ≠ [])
    (hshort : ∀ s ∈ segments, s.Short) (v : Value) :
    descend? segments v = .ok (segments.foldlM step? v) :=
  foldlM_of_steps (F := fun v => v.isNull = false) (fun _ => descend?_nil) descend?_cons
    (fun _ _ _ => isNull_of_step?) hshort fun h => absurd h hne

end Document

namespace Web

variable (w : Web)

theorem descend?_leaf (segments : List Text) (v : Value) :
    w.descend? segments (.leaf v) = (Document.descend? segments v).map (·.map .leaf) := by
  rw [descend?]

theorem isNull_of_step? {item item' : Item} {segment : Text}
    (h : w.step? item segment = some item') : item'.isNull = false := by
  cases item with
  | leaf v =>
      obtain ⟨u, hu, rfl⟩ := Option.map_eq_some_iff.mp h
      exact Document.isNull_of_step? hu
  | collection place => simpa using (Option.filter_eq_some_iff.mp h).2

theorem descend?_here {item : Item} (h : item.isNull = false) :
    w.descend? [] item = .ok (some item) := by
  cases item with
  | leaf v =>
      have hv : v.isNull = false := h
      rw [descend?_leaf, Document.descend?_nil hv]
      rfl
  | collection place => rfl

/-- To go on at null comes to the same as to find nothing. -/
theorem descend?_filter (found : Option Item) (rest : List Text) :
    (found.filter fun item => !item.isNull).elim (.ok none) (w.descend? rest) =
      found.elim (.ok none) (w.descend? rest) := by
  cases found with
  | none => rfl
  | some item =>
      cases item with
      | collection place => rfl
      | leaf v =>
          cases v with
          | null =>
              rw [Option.elim_some, descend?_leaf, Document.descend?_null]
              rfl
          | _ => rfl

theorem descend?_cons (item : Item) (segment : Text) (rest : List Text) (h : segment.Short) :
    w.descend? (segment :: rest) item =
      (w.step? item segment).elim (.ok none) (w.descend? rest) := by
  cases item with
  | leaf v =>
      rw [descend?_leaf, Document.descend?_cons v segment rest h, step?]
      cases Document.step? v segment with
      | none => rfl
      | some u => exact (w.descend?_leaf rest u).symm
  | collection place =>
      rw [step?, descend?_filter, descend?]
      cases w.collections[place]? with
      | none => rfl
      | some c =>
          cases c with
          | list items =>
              simp only [Document.element?_of_short items h]
              cases if segment.isDigits then items[segment.toNat]? else none <;> rfl
          | map entries =>
              simp only
              cases descend?.member? entries segment <;> rfl
          | _ => rfl

/-- A lookup in a web takes the steps of its segments. -/
theorem descend?_eq_steps {segments : List Text} (hne : segments ≠ [])
    (hshort : ∀ s ∈ segments, s.Short) (item : Item) :
    w.descend? segments item = .ok (segments.foldlM w.step? item) :=
  foldlM_of_steps (F := fun item => item.isNull = false) (fun _ => w.descend?_here)
    w.descend?_cons (fun _ _ _ => w.isNull_of_step?) hshort fun h => absurd h hne

end Web

/-! ## Fragments of lookups -/

/-- The element ids in an answer. -/
def Lookup.ids : (q : Lookup) → q.Answer → List Text
  | scalar _ _, _ => []
  | elements _ _, ids => ids
  | records _, ids => ids

namespace Source

/-- The source tells the id of an element, in answer to some lookup. -/
def Tells (source : Source) (id : Text) : Prop :=
  ∃ q a, (source.answer q).outcome = .ok (some a) ∧ id ∈ q.ids a

theorem answer_of_reply {source : Source} {q : Lookup} {a : q.Answer}
    (h : source.reply q = .ok a) : (source.answer q).outcome = .ok (some a) := by
  unfold reply at h
  split at h
  · next b hb => rw [hb, Except.ok.inj h]
  · cases h
  · split at h <;> cases h

theorem tells_of_reply {source : Source} {q : Lookup} {ids : q.Answer} {id : Text}
    (h : source.reply q = .ok ids) (hid : id ∈ q.ids ids) : source.Tells id :=
  ⟨q, ids, answer_of_reply h, hid⟩

theorem tells_of_elementIds {source : Source} {path : Text} {kind : Kind} {id : Text}
    (h : id ∈ source.elementIds path kind) : source.Tells id := by
  cases hr : source.reply (.elements path kind) with
  | error halt =>
      rw [elementIds_of_error hr] at h
      cases h
  | ok ids => exact tells_of_reply hr (elementIds_of_ok hr ▸ h)

theorem tells_of_recordIds {source : Source} {path : Text} {id : Text}
    (h : id ∈ source.recordIds path) : source.Tells id := by
  cases hr : source.reply (.records path) with
  | error halt =>
      rw [recordIds_of_error hr] at h
      cases h
  | ok ids => exact tells_of_reply hr (recordIds_of_ok hr ▸ h)

end Source

/-- The ids of a list in a document are numbers. -/
theorem Document.separator_notMem_of_answerBy {v : Value} {q : Lookup} {a : q.Answer}
    (h : answerBy v q = .ok a) : ∀ id ∈ q.ids a, separator ∉ id := by
  have hids : ∀ {path expected : Text} {ids : List Text}, elementIds path expected v = .ok ids →
      ∀ id ∈ ids, separator ∉ id := by
    intro path expected ids hids id hid
    obtain ⟨items, -, rfl⟩ := elementIds_eq_ok hids
    obtain ⟨i, -, rfl⟩ := List.mem_map.mp hid
    exact Text.separator_notMem_ofNat i
  cases q with
  | scalar kind path => exact nofun
  | elements path kind => exact hids h
  | records path => exact hids h

/-- The ids of a list in a table are digits. -/
theorem Entries.separator_notMem_of_answer {entries : Entries} {q : Lookup} {a : q.Answer}
    (h : entries.answer q = .ok (some a)) : ∀ id ∈ q.ids a, separator ∉ id := by
  have hids : ∀ {path : Text} {ids : List Text},
      answer.present (entries.elementIds path) = .ok (some ids) → ∀ id ∈ ids, separator ∉ id := by
    intro path ids hids id hid
    rw [elementIds_def] at hids
    split at hids
    · cases hids
    · unfold answer.present at hids
      split at hids
      · cases hids
      · cases hids
      · next heq =>
          cases hids
          cases heq
          have hmem := List.mem_mergeSort.mp hid
          exact Text.separator_notMem_of_isDigits (mem_elementSegments.mp hmem).1
  cases q with
  | scalar kind path => exact nofun
  | elements path kind => exact hids h
  | records path => exact hids h

theorem Web.answer_eq_ok {w : Web} {q : Lookup} {a : q.Answer} (h : w.answer q = .ok (some a)) :
    ∃ v, Document.answerBy v q = .ok a := by
  obtain ⟨found, -, h⟩ := Except.bind_eq_ok.mp h
  cases found with
  | none => cases h
  | some item =>
      obtain ⟨b, hb, h⟩ := Except.bind_eq_ok.mp h
      cases h
      exact ⟨_, hb⟩

namespace Source

theorem exists_of_firstAnswer {q : Lookup} {a : q.Answer} {layers : List Source}
    (h : (firstAnswer q layers).outcome = .ok (some a)) :
    ∃ s ∈ layers, (s.answer q).outcome = .ok (some a) := by
  induction layers with
  | nil => cases h
  | cons s rest ih =>
      obtain ⟨found, hfound, h⟩ := Run.bind_eq_ok.mp h
      cases found with
      | none =>
          obtain ⟨s', hs', ha⟩ := ih h
          exact ⟨s', List.mem_cons_of_mem s hs', ha⟩
      | some b =>
          cases h
          exact ⟨s, List.mem_cons_self, Run.asItem_eq_ok.mp hfound⟩

/-- The ids that a source tells are single segments. -/
theorem Built.separator_notMem {source : Source} (hs : source.Built) {id : Text}
    (h : source.Tells id) : separator ∉ id := by
  obtain ⟨q, a, ha, hid⟩ := h
  induction hs with
  | flat origin entries =>
      exact Entries.separator_notMem_of_answer (Run.ofExcept_eq_ok.mp ha) id hid
  | document origin entries =>
      obtain ⟨v, -, hv⟩ := Document.answer_eq_ok.mp (Run.ofExcept_eq_ok.mp ha)
      exact Document.separator_notMem_of_answerBy hv id hid
  | web origin w =>
      unfold ofWeb at ha
      simp only at ha
      split at ha
      · obtain ⟨v, -, hv⟩ := Document.answer_eq_ok.mp (Run.ofExcept_eq_ok.mp ha)
        exact Document.separator_notMem_of_answerBy hv id hid
      · obtain ⟨v, hv⟩ := Web.answer_eq_ok (Run.ofExcept_eq_ok.mp ha)
        exact Document.separator_notMem_of_answerBy hv id hid
  | layered layers _ ih =>
      obtain ⟨s, hs, hs'⟩ := exists_of_firstAnswer ha
      exact ih s hs hs'

end Source

namespace Program

variable {α : Type}

/-- The keys of a program. -/
def keys : {α : Type} → Program α → List Key
  | _, pure _ => []
  | _, scalar _ key => [key]
  | _, scalars key _ => [key]
  | _, records key item => key :: item.keys
  | _, nested key inner => key :: inner.keys
  | _, map program _ => program.keys
  | _, ap fnProgram program => fnProgram.keys ++ program.keys
  | _, unsupported _ => []

/-- A run of the program makes the lookup, with one of the strategies. -/
def Asks (p : Program α) (source : Source) (q : Lookup) : Prop :=
  q ∈ p.lookups eager source .root ∨ q ∈ p.lookups optional source .root ∨
    q ∈ p.lookups validating source .root

theorem Asks.mem_reads {p : Program α} {source : Source} {q : Lookup} (h : p.Asks source q) :
    q ∈ p.reads source .root := by
  have hvalidating := (p.lookups_validating_isPrefix source .root).subset
  obtain h | h | h := h
  · exact hvalidating ((p.lookups_eager_isPrefix source .root).subset h)
  · rw [lookups_optional] at h
    exact hvalidating h
  · exact hvalidating h

/-- What is true of the keys of a program and of the ids that the source tells is true of the
fragments of its lookups. -/
theorem fragments_of_reads {source : Source} {P : Text → Prop}
    (hids : ∀ id, source.Tells id → P id) {p : Program α} (hkeys : ∀ key ∈ p.keys, P key.text)
    (scope : List Text) (hscope : ∀ f ∈ scope, P f) {q : Lookup}
    (hq : q ∈ p.reads source (KeyPath.root.descend scope)) :
    ∃ fragments leaf, q.path = (KeyPath.root.descend fragments).resolve leaf ∧
      ∀ f ∈ fragments ++ [leaf], P f := by
  have hsnoc : ∀ {fs : List Text} {f : Text}, (∀ g ∈ fs, P g) → P f → ∀ g ∈ fs ++ [f], P g :=
    fun hfs hf => List.forall_mem_append.mpr ⟨hfs, fun _ hg => List.mem_singleton.mp hg ▸ hf⟩
  induction p generalizing scope with
  | pure value => cases hq
  | scalar kind key =>
      rw [List.mem_singleton.mp hq]
      exact ⟨scope, key.text, rfl, hsnoc hscope (hkeys key List.mem_cons_self)⟩
  | scalars key kind =>
      have hkey := hkeys key List.mem_cons_self
      obtain rfl | hq := List.mem_cons.mp hq
      · exact ⟨scope, key.text, rfl, hsnoc hscope hkey⟩
      · obtain ⟨id, hid, rfl⟩ := List.mem_map.mp hq
        refine ⟨scope ++ [key.text], id, ?_,
          hsnoc (hsnoc hscope hkey) (hids id (Source.tells_of_elementIds hid))⟩
        rw [KeyPath.descend_concat]
        rfl
  | records key item ih =>
      obtain ⟨hkey, hitem⟩ := List.forall_mem_cons.mp hkeys
      obtain rfl | hq := List.mem_cons.mp hq
      · exact ⟨scope, key.text, rfl, hsnoc hscope hkey⟩
      · obtain ⟨id, hid, hq⟩ := List.mem_flatMap.mp hq
        rw [← KeyPath.descend_concat, ← KeyPath.descend_concat] at hq
        have hid := hids id (Source.tells_of_recordIds hid)
        exact ih hitem _ (hsnoc (hsnoc hscope hkey) hid) hq
  | nested key inner ih =>
      obtain ⟨hkey, hinner⟩ := List.forall_mem_cons.mp hkeys
      rw [reads, ← KeyPath.descend_concat] at hq
      exact ih hinner _ (hsnoc hscope hkey) hq
  | map program fn ih => exact ih hkeys scope hscope hq
  | ap fnProgram program ihf iha =>
      obtain ⟨hfn, hargument⟩ := List.forall_mem_append.mp hkeys
      obtain hq | hq := List.mem_append.mp hq
      · exact ihf hfn scope hscope hq
      · exact iha hargument scope hscope hq
  | unsupported typeName => cases hq

end Program

/-! ## Paths of runs -/

namespace KeyPath

/-- The path of a leaf is the leaf at the root, and follows its scope elsewhere.  It comes to the
fragments of the scope and the leaf, with a separator between each two.  If no separator is in any
of them, they are the segments that the path is cut into, and no other fragments or leaf have this
path.  A lookup of the path in a document, which may hold itself, takes one step after another by
these segments, as long as the steps come to something.

Every path that a run asks for is of this form.  The fragments are keys of the program and element
ids that the source tells, and no separator is in those that a source of the library tells. -/
theorem resolve_fragments :
    (∀ (fragments : List Text) (leaf : Text), (∀ f ∈ fragments ++ [leaf], separator ∉ f) →
      let scope := root.descend fragments
      let path := scope.resolve leaf
      (path = (if scope.isRoot then leaf else scope.scope ++ separator :: leaf) ∧
        path = Text.join [separator] (fragments ++ [leaf]) ∧
        path.splitOn separator = fragments ++ [leaf]) ∧
      (∀ fragments' leaf', (∀ f ∈ fragments' ++ [leaf'], separator ∉ f) →
        (root.descend fragments').resolve leaf' = path → fragments' = fragments ∧ leaf' = leaf) ∧
      ((∀ f ∈ fragments ++ [leaf], f.Short) →
        (∀ document, Document.lookup? document path =
          .ok ((fragments ++ [leaf]).foldlM Document.step? document)) ∧
        ∀ w : Web, w.descend? (path.splitOn separator) w.root =
          .ok ((fragments ++ [leaf]).foldlM w.step? w.root))) ∧
    ∀ {α : Type} (p : Program α) (source : Source) (q : Lookup), p.Asks source q →
      ∃ fragments leaf, q.path = (root.descend fragments).resolve leaf ∧
        (∀ f ∈ fragments ++ [leaf], (∃ key ∈ p.keys, f = key.text) ∨ source.Tells f) ∧
        (source.Built → ∀ f ∈ fragments ++ [leaf], separator ∉ f) := by
  constructor
  · intro fragments leaf hfree scope path
    have hsplit : path.splitOn separator = fragments ++ [leaf] := splitOn_resolve hfree
    have hne : fragments ++ [leaf] ≠ [] := by simp
    refine ⟨⟨resolve_eq scope leaf, ?_, hsplit⟩, ?_, fun hshort => ⟨?_, ?_⟩⟩
    · rw [← hsplit, Text.join_splitOn]
    · intro fragments' leaf' hfree' hpath
      rw [← hpath, splitOn_resolve hfree'] at hsplit
      exact List.append_singleton_inj.mp hsplit
    · intro document
      rw [Document.lookup?, hsplit]
      exact Document.descend?_eq_steps hne hshort document
    · intro w
      rw [hsplit]
      exact w.descend?_eq_steps hne hshort w.root
  · intro α p source q hq
    obtain ⟨fragments, leaf, hpath, htold⟩ := Program.fragments_of_reads
      (P := fun f => (∃ key ∈ p.keys, f = key.text) ∨ source.Tells f)
      (fun _ hid => .inr hid) (fun key hkey => .inl ⟨key, hkey, rfl⟩) [] (List.forall_mem_nil _)
      hq.mem_reads
    refine ⟨fragments, leaf, hpath, htold, fun hsource f hf => ?_⟩
    obtain ⟨key, -, rfl⟩ | hid := htold f hf
    · exact key.separator_notMem
    · exact hsource.separator_notMem hid

/-- A number in the path of a record leads to an item of a list. -/
theorem resolve_fragments_of_record :
    let servers : Key := ⟨"servers", by decide⟩
    let host : Key := ⟨"host", by decide⟩
    let p : Program (List Text) := .records servers (.scalar .string host)
    let entries : List (Value × Value) :=
      [(.text "servers", .list [.map [(.text "host", .text "a")]])]
    let source := Source.ofDocument "<document>" entries
    Document.lookup? (.map entries) "servers.0.host" = .ok (some (.text "a")) ∧
      p.Asks source (.scalar .string "servers.0.host") ∧
      ∃ fragments leaf, ("servers.0.host" : Text) = (root.descend fragments).resolve leaf ∧
        ∀ f ∈ fragments ++ [leaf], separator ∉ f := by
  intro servers host p entries source
  have hasks : p.Asks source (.scalar .string "servers.0.host") := .inl (by decide)
  obtain ⟨hpaths, hruns⟩ := resolve_fragments
  obtain ⟨-, -, hsteps⟩ := hpaths ["servers", "0"] "host" (by decide)
  obtain ⟨fragments, leaf, hpath, -, hfree⟩ := hruns p source _ hasks
  refine ⟨?_, hasks, fragments, leaf, hpath, hfree (.document _ _)⟩
  exact (hsteps (by decide)).1 (.map entries)

end KeyPath

end ConfigReader
