import ConfigReader.Proofs.Agreement
import ConfigReader.Proofs.Issues
import ConfigReader.Proofs.Replies
import ConfigReader.Proofs.Segments

/-!
# Scopes

A program in the scope under a key reads the entries whose paths begin with the key and
a separator, and no others.  The rest of such a path is what the program would ask for
without the scope.  So its run over a table is the run over the entries below the key,
with the key in front of every path that it reports: `Program.nested_relocates`.

`Source.Moved` says what two sources must have in common for this, and `Program.run_moved`
and `Program.ending_moved` follow by induction over the program.  Tables are such sources
(`Entries.moved_below`): the text at a path and the elements of a list depend on the
entries below the key only.
-/

namespace ConfigReader

/-! ## Paths under a scope -/

namespace Text

/-- A path under a scope. -/
def under (scope path : Text) : Text := scope ++ separator :: path

/-- What follows the scope in a path under it. -/
def below? (scope path : Text) : Option Text := after? (scope ++ [separator]) path

theorem under_eq_append (scope path : Text) : under scope path = scope ++ [separator] ++ path := by
  simp [under]

theorem below?_eq_some {scope path rest : Text} :
    below? scope path = some rest ↔ path = under scope rest := by
  rw [below?, after?_eq_some, under_eq_append]

@[simp] theorem below?_under (scope path : Text) : below? scope (under scope path) = some path :=
  below?_eq_some.mpr rfl

theorem under_injective {scope s t : Text} (h : under scope s = under scope t) : s = t := by
  have hs := below?_under scope s
  rw [h, below?_under] at hs
  exact (Option.some.inj hs).symm

theorem le_under (scope s t : Text) : Text.le (under scope s) (under scope t) = Text.le s t := by
  induction scope with
  | nil => simp [under, Text.le]
  | cons c scope ih =>
      rw [under, under, List.cons_append, List.cons_append, Text.le, if_pos rfl]
      exact ih

end Text

/-- The scope under a fragment in front of a scope. -/
def KeyPath.under (scope : Text) : KeyPath → KeyPath
  | root => root.child scope
  | child parent fragment => (parent.under scope).child fragment

@[simp] theorem KeyPath.resolve_under (scope : Text) (path : KeyPath) (leaf : Text) :
    (path.under scope).resolve leaf = Text.under scope (path.resolve leaf) := by
  induction path generalizing leaf with
  | root => rfl
  | child parent fragment ih => simp [under, resolve, ih, Text.under]

/-! ## Failures under a scope -/

/-- A failed read under a scope. -/
def ReadFailure.under (scope : Text) : ReadFailure → ReadFailure
  | missing path => missing (Text.under scope path)
  | malformed path expected raw => malformed (Text.under scope path) expected raw

/-- What stops a run under a scope.  An error that is not about a failed read stays as it
is. -/
def Halt.under (scope : Text) : Halt → Halt
  | unread failure => unread (failure.under scope)
  | raised error => raised error

/-- The failure of a lookup under a scope. -/
def Failure.under (scope : Text) : Failure → Failure
  | read (.malformed path expected raw) => read (.malformed (Text.under scope path) expected raw)
  | f => f

/-- An issue under a scope.  Its message names the path again. -/
def Issue.under (scope : Text) (issue : Issue) : Issue where
  path := Text.under scope issue.path
  kind := issue.kind
  message := keyNotFound (Text.under scope issue.path)

/-- What a validating run carries under a scope. -/
def Validated.under {α : Type} (scope : Text) : Validated α → Validated α
  | valid value => valid value
  | invalid issues => invalid (issues.map (Issue.under scope))

/-- What a collecting run carries under a scope. -/
def Collected.under {α : Type} (scope : Text) : Collected α → Collected α
  | value a => value a
  | failed first rest => failed (first.under scope) (rest.map (ReadFailure.under scope))

section Failures

variable {α : Type} (scope : Text)

theorem Halt.leavingItem_under (halt : Halt) :
    (halt.under scope).leavingItem = halt.leavingItem.under scope := by
  cases halt <;> rfl

theorem Failure.malformed_under (path expected : Text) (raw : Value) :
    malformed (Text.under scope path) expected raw =
      (malformed path expected raw).under scope := by
  unfold malformed
  split <;> rfl

/-- The reply to a lookup under a scope. -/
theorem replyAt_under (path : Text) (r : Except Failure (Option α)) :
    replyAt (Text.under scope path) (r.mapError (Failure.under scope)) =
      (replyAt path r).mapError (Halt.under scope) := by
  match r with
  | .ok (some a) => rfl
  | .ok none => rfl
  | .error f => cases f with
    | read cause => cases cause <;> rfl
    | _ => rfl

@[simp] theorem Collected.toOption_under (x : Collected α) :
    (x.under scope).toOption = x.toOption := by
  cases x <;> rfl

@[simp] theorem Collected.failures_under (x : Collected α) :
    (x.under scope).failures = x.failures.map (ReadFailure.under scope) := by
  cases x <;> rfl

theorem Collected.snoc_under (items : Collected (List α)) (item : Collected α) :
    (items.under scope).snoc (item.under scope) = (items.snoc item).under scope := by
  cases items with
  | value as => cases item <;> rfl
  | failed first rest =>
      change failed _ (rest.map _ ++ (item.under scope).failures) =
        failed _ ((rest ++ item.failures).map _)
      rw [failures_under, List.map_append]

/-- Moving failed reads keeps their order, and which of them are the same. -/
theorem reported_under (failures : List ReadFailure) :
    reported (failures.map (ReadFailure.under scope)) =
      (reported failures).map (Issue.under scope) := by
  -- An issue under a scope has a new message, so paths and kinds are compared instead.
  let moved : Text × FailureKind → Text × FailureKind := Prod.map (Text.under scope) id
  have hinjective : ∀ a b, moved a = moved b → a = b := by
    rintro ⟨path, kind⟩ ⟨path', kind'⟩ h
    obtain ⟨hpath, hkind⟩ := Prod.mk.inj h
    exact Prod.ext (Text.under_injective hpath) hkind
  have hfailures : ∀ f : ReadFailure, ((f.under scope).path, (f.under scope).kind) =
      moved (f.path, f.kind) := by
    intro f
    cases f <;> rfl
  rw [reported_eq, reported_eq, List.map_map, List.map_map]
  have hmap : ((fun f : ReadFailure => (f.path, f.kind)) ∘ ReadFailure.under scope) =
      moved ∘ fun f => (f.path, f.kind) := funext hfailures
  rw [hmap, ← List.map_map, ← List.map_reverse, distinct_map hinjective, List.map_map]
  rfl

theorem Collected.toValidated_under (x : Collected α) :
    (x.under scope).toValidated = x.toValidated.under scope := by
  cases x with
  | value a => rfl
  | failed first rest =>
      exact congrArg Validated.invalid (reported_under scope (first :: rest))

end Failures

/-! ## Runs under a scope -/

/-- The outer source has under a scope what the inner one has, and neither leaves events. -/
structure Source.Moved (scope : Text) (inner outer : Source) : Prop where
  /-- Scalars are found under the scope, and fail there. -/
  scalar : ∀ kind path, outer.reply (.scalar kind (Text.under scope path)) =
    (inner.reply (.scalar kind path)).mapError (Halt.under scope)
  /-- Lists of scalars have the same elements. -/
  elements : ∀ path kind, outer.reply (.elements (Text.under scope path) kind) =
    (inner.reply (.elements path kind)).mapError (Halt.under scope)
  /-- Lists of records have the same elements. -/
  records : ∀ path, outer.reply (.records (Text.under scope path)) =
    (inner.reply (.records path)).mapError (Halt.under scope)
  /-- The inner source leaves no events. -/
  inner_silent : ∀ q, (inner.answer q).trace = []
  /-- The outer source leaves no events. -/
  outer_silent : ∀ q, (outer.answer q).trace = []

section Runs

variable {α β : Type} {scope : Text} {inner outer : Source}

/-- What a collecting run does with a reply. -/
def resume (r : Except Halt α) (use : α → Run (Collected β)) : Run (Collected β) :=
  match r with
  | .ok a => use a
  | .error (.unread f) => collecting.failed f
  | .error (.raised e) => Run.raise e

theorem withAnswer_of_silent {source : Source} {q : Lookup} (h : (source.answer q).trace = [])
    (use : q.Answer → Run (Collected β)) :
    collecting.withAnswer source q use = resume (source.reply q) use := by
  rw [Strategy.withAnswer_eq, h]
  cases source.reply q with
  | ok a => rfl
  | error halt => cases halt <;> rfl

theorem resume_under {use use' : α → Run (Collected β)}
    (h : ∀ a, use' a = (use a).map (Collected.under scope)) (r : Except Halt α) :
    resume (r.mapError (Halt.under scope)) use' = (resume r use).map (Collected.under scope) := by
  cases r with
  | ok a => exact h a
  | error halt => cases halt <;> rfl

theorem gather_under {ι : Type} {element element' : ι → Run (Collected α)}
    (h : ∀ i, element' i = (element i).map (Collected.under scope)) :
    ∀ (ids : List ι) (items : Collected (List α)),
      collecting.gather element' (items.under scope) ids =
        (collecting.gather element items ids).map (Collected.under scope)
  | [], items => rfl
  | i :: rest, items => by
      simp only [gather_collecting, h i, Run.asItem_map, Run.map_bind, Run.bind_map,
        Collected.snoc_under, gather_under h rest]

theorem sequence_under {ι : Type} {element element' : ι → Run (Collected α)}
    (h : ∀ i, element' i = (element i).map (Collected.under scope)) (ids : List ι) :
    collecting.sequence element' ids =
      (collecting.sequence element ids).map (Collected.under scope) :=
  gather_under h ids (.value [])

theorem map_under (fn : α → Run β) (x : Collected α) :
    collecting.map fn (x.under scope) = (collecting.map fn x).map (Collected.under scope) := by
  cases x with
  | value a => simp [collecting, Collected.under, Run.bind_map]
  | failed first rest => rfl

theorem ap_under (f : Collected (α → Run β)) (x : Collected α) :
    collecting.ap (f.under scope) (x.under scope) =
      (collecting.ap f x).map (Collected.under scope) := by
  cases f with
  | value f => cases x with
    | value a => simp [collecting, Collected.under, Run.bind_map]
    | failed first rest => rfl
  | failed first rest =>
      change Run.pure (Collected.failed _ (rest.map _ ++ (x.under scope).failures)) =
        Run.pure (Collected.failed _ ((rest ++ x.failures).map _))
      rw [Collected.failures_under, List.map_append]

namespace Source.Moved

variable (h : Moved scope inner outer)
include h

theorem run_scalar (kind : Kind) (path : Text) :
    collecting.scalar outer (Text.under scope path) kind =
      (collecting.scalar inner path kind).map (Collected.under scope) := by
  rw [Strategy.scalar, Strategy.scalar, withAnswer_of_silent (h.outer_silent _),
    withAnswer_of_silent (h.inner_silent _), h.scalar]
  have hvalue : ∀ a : kind.Carrier, Run.pure (Collected.value a) =
      (Run.pure (Collected.value a)).map (Collected.under scope) := fun _ => rfl
  exact resume_under hvalue _

end Source.Moved

namespace Program

/-- A program under a scope runs as it does without, with the scope in front of the paths
of its failed reads. -/
theorem run_moved (h : Source.Moved scope inner outer) (p : Program α) (path : KeyPath) :
    p.run collecting outer (path.under scope) =
      (p.run collecting inner path).map (Collected.under scope) := by
  induction p generalizing path with
  | pure value => rfl
  | scalar kind key =>
      rw [run, run, KeyPath.resolve_under]
      exact h.run_scalar kind _
  | scalars key kind =>
      rw [run, run, KeyPath.resolve_under, withAnswer_of_silent (h.outer_silent _),
        withAnswer_of_silent (h.inner_silent _), h.elements]
      have hitem : ∀ id, collecting.scalar outer (((path.under scope).child key.text).resolve id)
          kind = (collecting.scalar inner ((path.child key.text).resolve id) kind).map
            (Collected.under scope) := by
        intro id
        rw [← h.run_scalar, ← KeyPath.resolve_under]
        rfl
      exact resume_under (sequence_under hitem) _
  | records key item ih =>
      rw [run, run, KeyPath.resolve_under, withAnswer_of_silent (h.outer_silent _),
        withAnswer_of_silent (h.inner_silent _), h.records]
      have hitem : ∀ id, item.run collecting outer (((path.under scope).child key.text).child id) =
          (item.run collecting inner ((path.child key.text).child id)).map
            (Collected.under scope) := fun id => ih ((path.child key.text).child id)
      exact resume_under (sequence_under hitem) _
  | nested key inner ih => exact ih (path.child key.text)
  | map program fn ih => simp only [run, ih, Run.map_bind, Run.bind_map, map_under]
  | ap fnProgram program ihf iha =>
      simp only [run, ihf, iha, Run.map_bind, Run.bind_map, ap_under]
  | unsupported typeName => rfl

end Program

/-! ### Ends of eager runs -/

theorem bind_mapError {ε ε' : Type} {g : ε → ε'} {f : α → Except ε β} {f' : α → Except ε' β}
    (h : ∀ a, f' a = (f a).mapError g) (x : Except ε α) :
    (x.mapError g).bind f' = (x.bind f).mapError g := by
  cases x with
  | error e => rfl
  | ok a => exact h a

theorem mapM_mapError {ι ε ε' : Type} {g : ε → ε'} {f : ι → Except ε α} {f' : ι → Except ε' α}
    (h : ∀ i, f' i = (f i).mapError g) : ∀ ids : List ι, ids.mapM f' = (ids.mapM f).mapError g
  | [] => rfl
  | i :: rest => by
      rw [List.mapM_cons, List.mapM_cons, h i, mapM_mapError h rest]
      cases f i with
      | error e => rfl
      | ok a => cases rest.mapM f <;> rfl

theorem leavingItem_mapError (x : Except Halt α) :
    (x.mapError (Halt.under scope)).mapError Halt.leavingItem =
      (x.mapError Halt.leavingItem).mapError (Halt.under scope) := by
  cases x with
  | error halt => exact congrArg Except.error (Halt.leavingItem_under scope halt)
  | ok a => rfl

/-- The end of a call does not depend on the scope. -/
theorem ending_mapError (x : Run α) : x.ending = x.ending.mapError (Halt.under scope) := by
  unfold Run.ending
  cases x.outcome <;> rfl

/-- An eager run under a scope ends as it does without, with the scope in front of the path
of the failed read that ends it. -/
theorem Program.ending_moved (h : Source.Moved scope inner outer) (p : Program α)
    (path : KeyPath) :
    p.ending outer (path.under scope) = (p.ending inner path).mapError (Halt.under scope) := by
  induction p generalizing path with
  | pure value => rfl
  | scalar kind key =>
      rw [ending, ending, KeyPath.resolve_under]
      exact h.scalar kind _
  | scalars key kind =>
      have hitem : ∀ id,
          (outer.reply (.scalar kind (((path.under scope).child key.text).resolve id))).mapError
            Halt.leavingItem =
          ((inner.reply (.scalar kind ((path.child key.text).resolve id))).mapError
            Halt.leavingItem).mapError (Halt.under scope) := by
        intro id
        rw [← leavingItem_mapError, ← h.scalar, ← KeyPath.resolve_under]
        rfl
      rw [ending, ending, KeyPath.resolve_under, h.elements]
      exact bind_mapError (fun ids => mapM_mapError hitem ids) _
  | records key item ih =>
      have hitem : ∀ id,
          (item.ending outer (((path.under scope).child key.text).child id)).mapError
            Halt.leavingItem =
          ((item.ending inner ((path.child key.text).child id)).mapError
            Halt.leavingItem).mapError (Halt.under scope) := by
        intro id
        rw [← leavingItem_mapError, ← ih]
        rfl
      rw [ending, ending, KeyPath.resolve_under, h.records]
      exact bind_mapError (fun ids => mapM_mapError hitem ids) _
  | nested key inner ih => exact ih (path.child key.text)
  | map program fn ih =>
      rw [ending, ending, ih]
      exact bind_mapError (fun a => ending_mapError (fn a)) _
  | ap fnProgram program ihf iha =>
      rw [ending, ending, ihf, iha]
      refine bind_mapError (fun f => ?_) _
      exact bind_mapError (fun a => ending_mapError (f a)) _
  | unsupported typeName => rfl

end Runs

/-! ## Tables under a scope -/

namespace Entries

/-- The entries under a scope, by the paths they have there. -/
def below {α : Type} (scope : Text) (entries : List (Text × α)) : List (Text × α) :=
  entries.filterMap fun (path, a) => (Text.below? scope path).map (·, a)

section Below

variable {α : Type} (scope : Text)

theorem lookup_below (entries : List (Text × α)) (path : Text) :
    (below scope entries).lookup path = entries.lookup (Text.under scope path) := by
  induction entries with
  | nil => rfl
  | cons entry rest ih =>
      obtain ⟨key, a⟩ := entry
      cases hkey : Text.below? scope key with
      | none =>
          have hne : (Text.under scope path == key) = false := by
            refine beq_eq_false_iff_ne.mpr fun heq => ?_
            rw [← heq, Text.below?_under] at hkey
            cases hkey
          rw [List.lookup_cons, hne, ← ih]
          simp [below, hkey]
      | some inner =>
          obtain rfl := Text.below?_eq_some.mp hkey
          have hbelow : below scope ((Text.under scope inner, a) :: rest) =
              (inner, a) :: below scope rest := by simp [below]
          have heq : (path == inner) = (Text.under scope path == Text.under scope inner) := by
            rw [Bool.eq_iff_iff, beq_iff_eq, beq_iff_eq]
            exact ⟨congrArg _, Text.under_injective⟩
          rw [hbelow, List.lookup_cons, List.lookup_cons, heq, ih]

theorem below_reverse (entries : List (Text × α)) :
    below scope entries.reverse = (below scope entries).reverse := List.filterMap_reverse

/-- Only the entries under the scope are below it. -/
theorem below_append (entries others : List (Text × α))
    (h : ∀ entry ∈ others, entry.1.startsWith (scope ++ [separator]) = false) :
    below scope (entries.map (fun (path, a) => (Text.under scope path, a)) ++ others) =
      entries := by
  have hothers : below scope others = [] := by
    refine List.filterMap_eq_nil_iff.mpr ?_
    rintro ⟨path, a⟩ hentry
    have hnone : Text.below? scope path = none :=
      Option.isNone_iff_eq_none.mp (Option.isSome_eq_false_iff.mp (h _ hentry))
    simp [hnone]
  have hentries : below scope (entries.map fun (path, a) => (Text.under scope path, a)) =
      entries := by
    rw [below, List.filterMap_map]
    have hsome : ∀ entry : Text × α, ((fun (path, a) => (Text.below? scope path).map (·, a)) ∘
        fun (path, a) => (Text.under scope path, a)) entry = some entry := by simp
    rw [funext hsome, List.filterMap_some]
  rw [below, List.filterMap_append, ← below, ← below, hothers, hentries, List.append_nil]

theorem ascending_below {entries : Entries} (h : entries.Ascending) :
    Ascending (below scope entries) := by
  refine List.Pairwise.filterMap _ ?_ h
  rintro ⟨key, text⟩ ⟨key', text'⟩ ⟨hne, hle⟩ entry hentry entry' hentry'
  obtain ⟨path, hpath, rfl⟩ := Option.map_eq_some_iff.mp hentry
  obtain ⟨path', hpath', rfl⟩ := Option.map_eq_some_iff.mp hentry'
  obtain rfl := Text.below?_eq_some.mp hpath
  obtain rfl := Text.below?_eq_some.mp hpath'
  rw [Text.le_under] at hle
  exact ⟨fun heq => hne (congrArg (Text.under scope) heq), hle⟩

/-- The table below a scope is the table of the pairs below it. -/
theorem below_ofPairs (pairs : List (Text × Text)) :
    below scope (ofPairs pairs) = ofPairs (below scope pairs) := by
  refine ext (ascending_below scope (ascending_ofPairs pairs)) (ascending_ofPairs _) fun path => ?_
  rw [get?_ofPairs, ← below_reverse, lookup_below, ← get?_ofPairs]
  exact lookup_below scope (ofPairs pairs) path

end Below

end Entries

/-! ### Answers under a scope -/

theorem parseScalar_under (scope text path : Text) (kind : Kind) :
    parseScalar text (Text.under scope path) kind =
      (parseScalar text path kind).mapError (Failure.under scope) := by
  cases kind with
  | string => rfl
  | integer =>
      simp only [parseScalar, parseInteger]
      split
      · split <;> rfl
      · rw [Failure.malformed_under]
        rfl
  | boolean =>
      simp only [parseScalar, parseBoolean]
      split
      · rfl
      · split
        · rfl
        · rw [Failure.malformed_under]
          rfl

namespace Entries

variable (scope : Text) (entries : Entries)

theorem segmentAfter?_under (list key : Text) :
    segmentAfter? (Text.under scope list) key =
      (Text.below? scope key).bind (segmentAfter? list) := by
  have hlead : Text.under scope list ++ [separator] =
      scope ++ [separator] ++ (list ++ [separator]) := by simp [Text.under]
  rw [segmentAfter?, hlead, Text.after?_of_append, ← Text.below?, Option.map_bind]
  rfl

theorem elementSegments_under (list : Text) :
    elementSegments entries (Text.under scope list) =
      elementSegments (below scope entries) list := by
  unfold elementSegments
  rw [below, List.filterMap_filterMap]
  refine congrArg (fun found => (List.filter Text.isDigits found).eraseDups) ?_
  refine congrArg (List.filterMap · entries) (funext fun entry => ?_)
  obtain ⟨key, text⟩ := entry
  simp only [segmentAfter?_under]
  cases Text.below? scope key <;> rfl

theorem elementIds_under (list : Text) :
    elementIds entries (Text.under scope list) = elementIds (below scope entries) list := by
  rw [elementIds_def, elementIds_def, elementSegments_under]

/-- The failure to put elements in order does not name a path. -/
theorem present_mapError_under (list : Text) :
    (answer.present (elementIds entries list)).mapError (Failure.under scope) =
      answer.present (elementIds entries list) := by
  rw [elementIds_def]
  split
  · rfl
  · cases List.mergeSort _ idLe <;> rfl

theorem answer_scalar_under (kind : Kind) (path : Text) :
    answer entries (.scalar kind (Text.under scope path)) =
      (answer (below scope entries) (.scalar kind path)).mapError (Failure.under scope) := by
  have htext : get? (below scope entries) path = get? entries (Text.under scope path) :=
    lookup_below scope entries path
  simp only [answer, htext]
  cases get? entries (Text.under scope path) with
  | none => rfl
  | some text =>
      simp only [parseScalar_under]
      cases parseScalar text path kind <;> rfl

theorem answer_list_under (list : Text) :
    answer.present (elementIds entries (Text.under scope list)) =
      (answer.present (elementIds (below scope entries) list)).mapError (Failure.under scope) := by
  rw [elementIds_under, present_mapError_under]

end Entries

/-- A table has under a scope what the table below the scope has. -/
theorem Source.moved_below (scope origin origin' : Text) (entries : Entries) :
    Moved scope (.flat origin (Entries.below scope entries)) (.flat origin' entries) where
  scalar kind path := by
    rw [reply_flat, reply_flat, Entries.answer_scalar_under]
    exact replyAt_under scope path _
  elements list kind := by
    rw [reply_flat, reply_flat]
    have h := replyAt_under scope list
      (Entries.answer.present (Entries.elementIds (Entries.below scope entries) list))
    rwa [← Entries.answer_list_under] at h
  records list := by
    rw [reply_flat, reply_flat]
    have h := replyAt_under scope list
      (Entries.answer.present (Entries.elementIds (Entries.below scope entries) list))
    rwa [← Entries.answer_list_under] at h
  inner_silent q := by
    change (Run.ofExcept _).trace = []
    cases Entries.answer (Entries.below scope entries) q <;> rfl
  outer_silent q := by
    change (Run.ofExcept _).trace = []
    cases Entries.answer entries q <;> rfl

/-! ## Tables made of values, under a scope -/

namespace Entries

/-- What is below a scope has texts if the whole has. -/
theorem written_below (scope : Text) {entries : List (Text × Value)} {pairs : List (Text × Text)}
    (h : written entries = .ok pairs) :
    written (below scope entries) = .ok (below scope pairs) := by
  induction entries generalizing pairs with
  | nil =>
      cases h
      rfl
  | cons entry rest ih =>
      obtain ⟨path, v⟩ := entry
      rw [written_cons] at h
      obtain ⟨text, htext, h⟩ := Except.bind_eq_ok.mp h
      obtain ⟨more, hmore, h⟩ := Except.bind_eq_ok.mp h
      cases h
      cases hpath : Text.below? scope path with
      | none => simpa [below, hpath] using ih hmore
      | some inner =>
          have hvalues : below scope ((path, v) :: rest) = (inner, v) :: below scope rest := by
            simp [below, hpath]
          have htexts : below scope ((path, text) :: more) =
              (inner, text) :: below scope more := by simp [below, hpath]
          rw [hvalues, htexts, written_cons, htext, ih hmore]
          rfl

end Entries

/-! ## Programs under a scope -/

namespace Program

/-- A program under a key, over a table with entries under that key and any others, runs
like the program over the entries alone: the eager, the optional and the validating run
have the same value, and the same failures with the key in front of their paths. -/
theorem nested_relocates {α : Type} {p : Program α} {key : Key} {origin origin' : Text}
    {entries others : List (Text × Value)} {outer : Source}
    (hothers : ∀ entry ∈ others, entry.1.startsWith (key.text ++ [separator]) = false)
    (houter : Source.ofMapping origin (Entries.mapping
      (entries.map (fun (path, v) => (Text.under key.text path, v)) ++ others)) = .ok outer) :
    ∃ inner, Source.ofMapping origin' (Entries.mapping entries) = .ok inner ∧
      ((nested key p).run eager outer .root).outcome =
        ((p.ending inner .root).mapError (Halt.under key.text)).mapError Halt.error ∧
      (p.run eager inner .root).outcome = (p.ending inner .root).mapError Halt.error ∧
      ((nested key p).run optional outer .root).outcome =
        (p.run optional inner .root).outcome ∧
      ((nested key p).run validating outer .root).outcome =
        (p.run validating inner .root).outcome.map (Validated.under key.text) := by
  rw [Entries.ofMapping_mapping] at houter
  cases hpairs : Entries.written
      (entries.map (fun (path, v) => (Text.under key.text path, v)) ++ others) with
  | error f =>
      rw [hpairs] at houter
      cases houter
  | ok pairs =>
      rw [hpairs] at houter
      cases houter
      have hinner := Entries.written_below key.text hpairs
      rw [Entries.below_append key.text entries others hothers] at hinner
      have hmoved := Source.moved_below key.text origin' origin (Entries.ofPairs pairs)
      rw [Entries.below_ofPairs] at hmoved
      have hrun := run_moved hmoved p .root
      refine ⟨_, by rw [Entries.ofMapping_mapping, hinner]; rfl, ?_, ?_, ?_, ?_⟩
      · rw [← ending_moved hmoved]
        exact ((nested key p).run_cut _ .root).outcome
      · exact (p.run_cut _ .root).outcome
      · change (p.run optional _ (KeyPath.root.under key.text)).outcome = _
        rw [run_optional, run_optional, hrun, Run.outcome_map, Run.outcome_map, Run.outcome_map]
        cases (p.run collecting _ .root).outcome with
        | error e => rfl
        | ok y => exact congrArg Except.ok (Collected.toOption_under key.text y)
      · change (p.run validating _ (KeyPath.root.under key.text)).outcome = _
        rw [run_validating, run_validating, hrun, Run.outcome_map, Run.outcome_map,
          Run.outcome_map]
        cases (p.run collecting _ .root).outcome with
        | error e => rfl
        | ok y => exact congrArg Except.ok (Collected.toValidated_under key.text y)

/-- A list of numbers, one of which is none, beside entries whose paths look like those of
the scope.  The issue of the bad number is moved, and no other entry gets into the list. -/
theorem nested_relocates_beside_lookalikes :
    let db : Key := ⟨"db", by decide⟩
    let ports : Key := ⟨"ports", by decide⟩
    let p := scalars ports .integer
    let entries : List (Text × Value) := [("ports.0", .text "80"), ("ports.1", .text "x")]
    let others : List (Text × Value) :=
      [("db", .text "y"), ("dbs.ports.2", .text "81"), ("x.db.ports.3", .bool true)]
    let moved := entries.map (fun (path, v) => (Text.under db.text path, v)) ++ others
    (∀ entry ∈ others, entry.1.startsWith (db.text ++ [separator]) = false) ∧
      ∃ outer inner, Source.ofMapping "<mapping>" (Entries.mapping moved) = .ok outer ∧
        Source.ofMapping "<mapping>" (Entries.mapping entries) = .ok inner ∧
        ((nested db p).run validating outer .root).outcome =
          (p.run validating inner .root).outcome.map (Validated.under db.text) := by
  intro db ports p entries others moved
  have hothers : ∀ entry ∈ others, entry.1.startsWith (db.text ++ [separator]) = false := by
    decide
  obtain ⟨inner, hinner, -, -, -, hvalidating⟩ :=
    @nested_relocates _ p db "<mapping>" "<mapping>" entries others _ hothers rfl
  exact ⟨hothers, _, inner, rfl, hinner, hvalidating⟩

end Program

end ConfigReader
