import ConfigReader.Proofs.Collecting

/-!
# The lookups of a program

No read of a program depends on the result of another one, apart from the ids of
list elements, which the source tells.  So all lookups of a program over a source
can be listed, in the order of the walk, without a strategy: `Program.reads`.  Those
that fail make up `Program.failures`.

`Program.failures_of_run` says that a collecting run that comes to its end carries
these failures and no others.
-/

namespace ConfigReader

namespace Source

/-- The ids of the elements of a list of scalars, none if there is no list. -/
def elementIds (source : Source) (path : Text) (kind : Kind) : List Text :=
  (source.reply (.elements path kind)).toOption.getD []

/-- The ids of the elements of a list of records, none if there is no list. -/
def recordIds (source : Source) (path : Text) : List Text :=
  (source.reply (.records path)).toOption.getD []

variable {source : Source} {path : Text} {kind : Kind}

theorem elementIds_of_ok {ids : List Text} (h : source.reply (.elements path kind) = .ok ids) :
    source.elementIds path kind = ids := by
  simp [elementIds, h, Except.toOption]

theorem elementIds_of_error {halt : Halt} (h : source.reply (.elements path kind) = .error halt) :
    source.elementIds path kind = [] := by
  simp [elementIds, h, Except.toOption]

theorem recordIds_of_ok {ids : List Text} (h : source.reply (.records path) = .ok ids) :
    source.recordIds path = ids := by
  simp [recordIds, h, Except.toOption]

theorem recordIds_of_error {halt : Halt} (h : source.reply (.records path) = .error halt) :
    source.recordIds path = [] := by
  simp [recordIds, h, Except.toOption]

end Source

namespace Program

/-- The lookups of a program in a scope: function sides before argument sides, the
elements of a list in order, and each of them whatever comes of the others. -/
def reads (source : Source) : {α : Type} → Program α → KeyPath → List Lookup
  | _, pure _, _ => []
  | _, scalar kind key, path => [.scalar kind (path.resolve key.text)]
  | _, scalars key kind, path =>
      .elements (path.resolve key.text) kind ::
        (source.elementIds (path.resolve key.text) kind).map fun id =>
          .scalar kind ((path.child key.text).resolve id)
  | _, records key item, path =>
      .records (path.resolve key.text) ::
        (source.recordIds (path.resolve key.text)).flatMap fun id =>
          item.reads source ((path.child key.text).child id)
  | _, nested key inner, path => inner.reads source (path.child key.text)
  | _, map program _, path => program.reads source path
  | _, ap fnProgram program, path => fnProgram.reads source path ++ program.reads source path
  | _, unsupported _, _ => []

/-- The failed reads of a program in a scope, in the order of the walk. -/
def failures (source : Source) {α : Type} (p : Program α) (path : KeyPath) : List ReadFailure :=
  (p.reads source path).filterMap source.failure?

end Program

/-! ## Steps of the collecting strategy -/

namespace Run

variable {α β : Type}

/-- A run of two parts has a value when both have. -/
theorem bind_eq_ok {x : Run α} {f : α → Run β} {b : β} :
    (x.bind f).outcome = .ok b ↔ ∃ a, x.outcome = .ok a ∧ (f a).outcome = .ok b := by
  rw [outcome_bind]
  cases x.outcome <;> simp [Except.bind]

end Run

namespace Collected

variable {α β : Type}

/-- The items carried, with one more behind them. -/
def snoc : Collected (List α) → Collected α → Collected (List α)
  | value items, value item => value (items ++ [item])
  | failed first rest, item => failed first (rest ++ item.failures)
  | value _, failed first rest => failed first rest

@[simp] theorem failures_snoc (items : Collected (List α)) (item : Collected α) :
    (items.snoc item).failures = items.failures ++ item.failures := by
  cases items with
  | value _ => cases item <;> rfl
  | failed first rest => rfl

theorem failures_of_map {f : α → Run β} {x : Collected α} {y : Collected β}
    (h : (collecting.map f x).outcome = .ok y) : y.failures = x.failures := by
  cases x with
  | value a =>
      obtain ⟨b, _, hb⟩ := Run.bind_eq_ok.mp h
      cases hb
      rfl
  | failed first rest =>
      cases h
      rfl

theorem failures_of_ap {f : Collected (α → Run β)} {x : Collected α} {y : Collected β}
    (h : (collecting.ap f x).outcome = .ok y) : y.failures = f.failures ++ x.failures := by
  cases f with
  | value f => cases x with
    | value a =>
        obtain ⟨b, _, hb⟩ := Run.bind_eq_ok.mp h
        cases hb
        rfl
    | failed first rest =>
        cases h
        rfl
  | failed first rest =>
      cases h
      rfl

end Collected

/-- Each element is put behind those that are carried. -/
theorem gather_collecting {ι α : Type} (element : ι → Run (Collected α))
    (items : Collected (List α)) (i : ι) (rest : List ι) :
    collecting.gather element items (i :: rest) =
      (element i).asItem.bind fun item => collecting.gather element (items.snoc item) rest := by
  rw [Strategy.gather]
  congr 1
  funext item
  cases items with
  | value items => cases item <;> simp [collecting, Collected.snoc]
  | failed first rest => simp [collecting, Collected.snoc]

/-- The failed reads of elements follow each other. -/
theorem failures_of_gather {ι α : Type} {element : ι → Run (Collected α)}
    {fs : ι → List ReadFailure}
    (hfs : ∀ i x, (element i).outcome = .ok x → x.failures = fs i) :
    ∀ {ids : List ι} {items y : Collected (List α)},
      (collecting.gather element items ids).outcome = .ok y →
        y.failures = items.failures ++ ids.flatMap fs
  | [], items, y, h => by
      cases h
      simp
  | i :: rest, items, y, h => by
      rw [gather_collecting] at h
      obtain ⟨item, hi, hrest⟩ := Run.bind_eq_ok.mp h
      rw [failures_of_gather hfs hrest, Collected.failures_snoc,
        hfs i item (Run.asItem_eq_ok.mp hi), List.flatMap_cons, List.append_assoc]

/-! ## Failed reads of a run -/

/-- An answered lookup counts as no failed read, a failed one as itself. -/
theorem failures_of_withAnswer {source : Source} {q : Lookup} {β : Type}
    {use : q.Answer → Run (Collected β)} {more : List Lookup} {y : Collected β}
    (hok : ∀ a, source.reply q = .ok a → (use a).outcome = .ok y →
      y.failures = more.filterMap source.failure?)
    (hmore : ∀ halt, source.reply q = .error halt → more = [])
    (h : (collecting.withAnswer source q use).outcome = .ok y) :
    y.failures = (q :: more).filterMap source.failure? := by
  rw [Strategy.withAnswer_eq] at h
  cases hr : source.reply q with
  | ok a =>
      have hq : source.failure? q = none := by simp [Source.failure?, hr]
      rw [List.filterMap_cons_none hq]
      exact hok a hr (by simpa [hr] using h)
  | error halt => cases halt with
    | unread f =>
        have hq : source.failure? q = some f := by simp [Source.failure?, hr]
        simp only [hr] at h
        cases h
        rw [List.filterMap_cons_some hq, hmore _ hr]
        rfl
    | raised e =>
        simp only [hr] at h
        cases h

theorem failures_of_scalar {source : Source} {path : Text} {kind : Kind}
    {y : Collected kind.Carrier} (h : (collecting.scalar source path kind).outcome = .ok y) :
    y.failures = [Lookup.scalar kind path].filterMap source.failure? := by
  refine failures_of_withAnswer (fun a _ ha => ?_) (fun _ _ => rfl) h
  cases ha
  rfl

/-- A collecting run that comes to its end carries the failed reads of the program. -/
theorem Program.failures_of_run {source : Source} {α : Type} {p : Program α} {path : KeyPath}
    {y : Collected α} (h : (p.run collecting source path).outcome = .ok y) :
    y.failures = p.failures source path := by
  induction p generalizing path with
  | pure value =>
      cases h
      rfl
  | scalar kind key => exact failures_of_scalar h
  | scalars key kind =>
      refine failures_of_withAnswer (fun ids hr hids => ?_) (fun halt hr => ?_) h
      · rw [failures_of_gather (fun _ _ => failures_of_scalar) hids,
          Source.elementIds_of_ok hr, List.map_eq_flatMap, List.filterMap_flatMap]
        rfl
      · rw [Source.elementIds_of_error hr]
        rfl
  | records key item ih =>
      refine failures_of_withAnswer (fun ids hr hids => ?_) (fun halt hr => ?_) h
      · rw [failures_of_gather (fun _ _ => ih) hids, Source.recordIds_of_ok hr,
          List.filterMap_flatMap]
        rfl
      · rw [Source.recordIds_of_error hr]
        rfl
  | nested key inner ih => exact ih h
  | map program fn ih =>
      obtain ⟨x, hx, hy⟩ := Run.bind_eq_ok.mp h
      rw [Collected.failures_of_map hy, ih hx]
      rfl
  | ap fnProgram program ihf iha =>
      obtain ⟨f, hf, h⟩ := Run.bind_eq_ok.mp h
      obtain ⟨x, hx, hy⟩ := Run.bind_eq_ok.mp h
      rw [Collected.failures_of_ap hy, ihf hf, iha hx, failures, failures, failures, reads,
        List.filterMap_append]
  | unsupported typeName => cases h

end ConfigReader
