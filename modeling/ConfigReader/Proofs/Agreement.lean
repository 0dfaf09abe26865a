import ConfigReader.Proofs.Lookups

/-!
# Agreement of the strategies

An eager run ends with an error for one of two reasons, and the error alone does
not tell which: a function may raise the very error of a failed read.
`Program.ending` is the end of an eager run with the reason.

`Cut` relates an eager run to a collecting one.  Both give a value, or both end
with the same error after the same events, or the eager run is cut off at the first
failed read and the collecting one goes on.  `Program.run_cut` says that the runs of
a program are related so.  With the optional and the validating strategy as images
of the collecting one, the three strategies agree.
-/

namespace ConfigReader

/-! ## The end of an eager run -/

/-- What stops a run as it leaves an item of a list. -/
def Halt.leavingItem : Halt → Halt
  | unread failure => unread failure
  | raised error => raised error.leavingItem

/-- The end of a call.  An error that a function raises is none of a failed read. -/
def Run.ending {α : Type} (x : Run α) : Except Halt α := x.outcome.mapError .raised

/-- The end of an eager run of a program in a scope, with the reason if it is an error. -/
def Program.ending (source : Source) : {α : Type} → Program α → KeyPath → Except Halt α
  | _, pure value, _ => .ok value
  | _, scalar kind key, path => source.reply (.scalar kind (path.resolve key.text))
  | _, scalars key kind, path =>
      (source.reply (.elements (path.resolve key.text) kind)).bind fun ids =>
        ids.mapM fun id =>
          (source.reply (.scalar kind ((path.child key.text).resolve id))).mapError
            Halt.leavingItem
  | _, records key item, path =>
      (source.reply (.records (path.resolve key.text))).bind fun ids =>
        ids.mapM fun id =>
          (item.ending source ((path.child key.text).child id)).mapError Halt.leavingItem
  | _, nested key inner, path => inner.ending source (path.child key.text)
  | _, map program fn, path => (program.ending source path).bind fun a => (fn a).ending
  | _, ap fnProgram program, path =>
      (fnProgram.ending source path).bind fun f =>
        (program.ending source path).bind fun a => (f a).ending
  | _, unsupported typeName, _ =>
      .error (.raised (Failure.program (.unsupportedNode typeName)))

/-! ## Runs cut off at the first failed read -/

variable {α β : Type}

/-- An eager run with its end beside a collecting run: the eager one is cut off at the
first failed read, if there is one. -/
inductive Cut : Except Halt α → Run α → Run (Collected α) → Prop where
  /-- Both runs give a value. -/
  | value (events : List Event) (a : α) :
      Cut (.ok a) ⟨events, .ok a⟩ ⟨events, .ok (.value a)⟩
  /-- The same error ends both runs. -/
  | raised (events : List Event) (e : Raised) :
      Cut (.error (.raised e)) ⟨events, .error e⟩ ⟨events, .error e⟩
  /-- A failed read ends the eager run, and the other one does not forget it. -/
  | unread (events more : List Event) (f : ReadFailure) (outcome : Except Raised (Collected α))
      (h : ∀ y, outcome = .ok y → ∃ rest, y = .failed f rest) :
      Cut (.error (.unread f)) ⟨events, .error (Failure.read f)⟩ ⟨events ++ more, outcome⟩

/-- An error of a failed read is none that marks the end of items. -/
theorem leavingItem_read (f : ReadFailure) :
    (Failure.read f).raised.leavingItem = (Failure.read f).raised := by
  cases f with
  | missing path => rfl
  | malformed path expected raw => rfl

namespace Cut

variable {e : Except Halt α} {x : Run α} {y : Run (Collected α)}

/-- Earlier events of both runs change nothing. -/
theorem after (h : Cut e x y) (events : List Event) : Cut e (x.after events) (y.after events) := by
  cases h with
  | value t a => exact .value (events ++ t) a
  | raised t e => exact .raised (events ++ t) e
  | unread t more f outcome h =>
      have hy : Run.after events ⟨t ++ more, outcome⟩ = ⟨(events ++ t) ++ more, outcome⟩ := by
        simp [Run.after]
      rw [hy]
      exact .unread (events ++ t) more f outcome h

theorem pure (a : α) : Cut (.ok a) (Run.pure a) (Run.pure (.value a)) := .value [] a

/-- A call runs alike under both strategies. -/
theorem call (x : Run α) : Cut x.ending x (x.bind fun a => Run.pure (.value a)) := by
  obtain ⟨events, outcome⟩ := x
  cases outcome with
  | error e => exact .raised events e
  | ok a =>
      have h : Run.bind ⟨events, .ok a⟩ (fun a => Run.pure (Collected.value a)) =
          ⟨events, .ok (.value a)⟩ := by simp [Run.bind, Run.pure]
      rw [h]
      exact .value events a

theorem asItem (h : Cut e x y) : Cut (e.mapError Halt.leavingItem) x.asItem y.asItem := by
  cases h with
  | value t a => exact .value t a
  | raised t e => exact .raised t e.leavingItem
  | unread t more f outcome h =>
      have hx : Run.asItem ⟨t, .error (Failure.read f).raised⟩ =
          (⟨t, .error (Failure.read f).raised⟩ : Run α) :=
        congrArg (fun e => (⟨t, .error e⟩ : Run α)) (leavingItem_read f)
      rw [hx]
      refine .unread t more f _ fun y hy => ?_
      exact h y (Run.asItem_eq_ok (x := ⟨t ++ more, outcome⟩).mp hy)

/-- Runs are continued side by side.  After a failed read only the collecting one goes on. -/
theorem bind {e' : α → Except Halt β} {k : α → Run β} {k' : Collected α → Run (Collected β)}
    (h : Cut e x y) (hk : ∀ a, Cut (e' a) (k a) (k' (.value a)))
    (hfailed : ∀ f rest z, (k' (.failed f rest)).outcome = .ok z → ∃ more, z = .failed f more) :
    Cut (e.bind e') (x.bind k) (y.bind k') := by
  cases h with
  | value t a => exact (hk a).after t
  | raised t e => exact .raised t e
  | unread t more f outcome h =>
      have hx : Run.bind ⟨t, .error (Failure.read f).raised⟩ k =
          ⟨t, .error (Failure.read f).raised⟩ := Run.bind_of_error rfl k
      rw [hx]
      cases outcome with
      | error e =>
          have hy : Run.bind ⟨t ++ more, .error e⟩ k' = ⟨t ++ more, .error e⟩ :=
            Run.bind_of_error rfl k'
          rw [hy]
          exact .unread t more f _ fun z hz => nomatch hz
      | ok c =>
          obtain ⟨rest, rfl⟩ := h c rfl
          have hy : Run.bind ⟨t ++ more, .ok (.failed f rest)⟩ k' =
              ⟨t ++ (more ++ (k' (.failed f rest)).trace), (k' (.failed f rest)).outcome⟩ := by
            rw [Run.bind_of_ok rfl, List.append_assoc]
          rw [hy]
          exact .unread t _ f _ (hfailed f rest)

/-- A lookup is answered alike under both strategies. -/
theorem withAnswer {source : Source} {q : Lookup} {e' : q.Answer → Except Halt α}
    {use : q.Answer → Run α} {use' : q.Answer → Run (Collected α)}
    (h : ∀ a, Cut (e' a) (use a) (use' a)) :
    Cut ((source.reply q).bind e') (eager.withAnswer source q use)
      (collecting.withAnswer source q use') := by
  rw [Strategy.withAnswer_eq, Strategy.withAnswer_eq]
  refine Cut.after ?_ _
  cases source.reply q with
  | ok a => exact h a
  | error halt => cases halt with
    | unread f => exact .unread [] [] f _ fun y hy => by cases hy; exact ⟨[], rfl⟩
    | raised e => exact .raised [] e

theorem scalar (source : Source) (path : Text) (kind : Kind) :
    Cut (source.reply (.scalar kind path)) (eager.scalar source path kind)
      (collecting.scalar source path kind) := by
  have h : Cut ((source.reply (.scalar kind path)).bind .ok) (eager.scalar source path kind)
      (collecting.scalar source path kind) := withAnswer fun a => Cut.pure a
  have hb : ∀ r : Except Halt kind.Carrier, r.bind .ok = r := fun r => by cases r <;> rfl
  rwa [hb] at h

end Cut

/-! ## What a cut says -/

namespace Cut

variable {e : Except Halt α} {x : Run α} {y : Run (Collected α)}

theorem outcome (h : Cut e x y) : x.outcome = e.mapError Halt.error := by
  cases h <;> rfl

theorem trace_isPrefix (h : Cut e x y) : x.trace <+: y.trace := by
  cases h with
  | value t a => exact List.prefix_rfl
  | raised t e => exact List.prefix_rfl
  | unread t more f outcome h => exact List.prefix_append t more

theorem of_value {a : α} (h : Cut e x y) (hx : x.outcome = .ok a) :
    y = ⟨x.trace, .ok (.value a)⟩ := by
  cases h with
  | value t b =>
      cases hx
      rfl
  | raised t e => cases hx
  | unread t more f outcome h => cases hx

/-- A collecting run that carries a value is not cut off. -/
theorem of_carried {a : α} (h : Cut e x y) (hy : y.outcome = .ok (.value a)) : e = .ok a := by
  cases h with
  | value t b =>
      cases hy
      rfl
  | raised t e => cases hy
  | unread t more f outcome h =>
      obtain ⟨rest, hr⟩ := h _ hy
      cases hr

theorem of_raised {err : Raised} (h : Cut (.error (.raised err)) x y) :
    y = ⟨x.trace, .error err⟩ ∧ x.outcome = .error err := by
  cases h with
  | raised t e => exact ⟨rfl, rfl⟩

theorem of_failed {f : ReadFailure} {rest : List ReadFailure} (h : Cut e x y)
    (hy : y.outcome = .ok (.failed f rest)) : x.outcome = .error (Failure.read f) := by
  cases h with
  | value t a => cases hy
  | raised t e => cases hy
  | unread t more g outcome h =>
      obtain ⟨rest', hr⟩ := h _ hy
      cases hr
      rfl

end Cut

/-! ## Lists -/

theorem gather_eager {ι : Type} (element : ι → Run α) (items : List α) (i : ι) (rest : List ι) :
    eager.gather element items (i :: rest) =
      (element i).asItem.bind fun item => eager.gather element (items ++ [item]) rest := by
  rw [Strategy.gather]
  congr 1

/-- Items keep the first failed read before them. -/
theorem failed_of_gather {ι : Type} {element : ι → Run (Collected α)} :
    ∀ {ids : List ι} {f : ReadFailure} {rest : List ReadFailure} {y : Collected (List α)},
      (collecting.gather element (.failed f rest) ids).outcome = .ok y →
        ∃ more, y = .failed f more
  | [], f, rest, y, h => by
      cases h
      exact ⟨rest, rfl⟩
  | i :: ids, f, rest, y, h => by
      rw [gather_collecting] at h
      obtain ⟨item, _, h⟩ := Run.bind_eq_ok.mp h
      exact failed_of_gather h

theorem Cut.gather {ι : Type} {e : ι → Except Halt α} {element : ι → Run α}
    {element' : ι → Run (Collected α)} (h : ∀ i, Cut (e i) (element i) (element' i)) :
    ∀ (ids : List ι) (items : List α),
      Cut ((ids.mapM fun i => (e i).mapError Halt.leavingItem).map (items ++ ·))
        (eager.gather element items ids) (collecting.gather element' (.value items) ids)
  | [], items => by
      have hm : (([] : List ι).mapM fun i => (e i).mapError Halt.leavingItem).map (items ++ ·) =
          .ok items := by simp [Pure.pure, Except.pure, Except.map]
      rw [hm]
      exact .pure items
  | i :: rest, items => by
      rw [gather_eager, gather_collecting]
      have hm : ((i :: rest).mapM fun i => (e i).mapError Halt.leavingItem).map (items ++ ·) =
          ((e i).mapError Halt.leavingItem).bind fun item =>
            (rest.mapM fun i => (e i).mapError Halt.leavingItem).map (items ++ [item] ++ ·) := by
        rw [List.mapM_cons]
        cases (e i).mapError Halt.leavingItem with
        | error halt => rfl
        | ok item =>
            cases rest.mapM fun i => (e i).mapError Halt.leavingItem with
            | error halt => rfl
            | ok more => simp [Bind.bind, Except.bind, Except.map, Pure.pure, Except.pure]
      rw [hm]
      exact (h i).asItem.bind (fun item => Cut.gather h rest (items ++ [item]))
        fun f failures z hz => failed_of_gather hz

/-- The elements of a list joined, as the whole list. -/
theorem Cut.sequence {ι : Type} {e : ι → Except Halt α} {element : ι → Run α}
    {element' : ι → Run (Collected α)} (h : ∀ i, Cut (e i) (element i) (element' i))
    (ids : List ι) :
    Cut (ids.mapM fun i => (e i).mapError Halt.leavingItem) (eager.sequence element ids)
      (collecting.sequence element' ids) := by
  have hg := Cut.gather h ids []
  have hm : ∀ r : Except Halt (List α), r.map ([] ++ ·) = r := fun r => by cases r <;> rfl
  rwa [hm] at hg

/-! ## Programs -/

namespace Program

/-- An eager run is the collecting run cut off at the first failed read. -/
theorem run_cut (source : Source) {α : Type} (p : Program α) (path : KeyPath) :
    Cut (p.ending source path) (p.run eager source path) (p.run collecting source path) := by
  induction p generalizing path with
  | pure value => exact .pure value
  | scalar kind key => exact .scalar source _ kind
  | scalars key kind =>
      exact .withAnswer fun ids =>
        .sequence (fun id => .scalar source ((path.child key.text).resolve id) kind) ids
  | records key item ih => exact .withAnswer fun ids => .sequence (fun id => ih _) ids
  | nested key inner ih => exact ih _
  | map program fn ih =>
      refine (ih path).bind (fun a => .call (fn a)) fun f rest z hz => ?_
      cases hz
      exact ⟨rest, rfl⟩
  | ap fnProgram program ihf iha =>
      refine (ihf path).bind (fun g => (iha path).bind (fun a => .call (g a)) ?_) ?_
      · intro f rest z hz
        cases hz
        exact ⟨rest, rfl⟩
      · intro f rest z hz
        obtain ⟨x, _, hz⟩ := Run.bind_eq_ok.mp hz
        cases hz
        exact ⟨_, rfl⟩
  | unsupported typeName => exact .raised [] _

/-- A validating run is valid when the collecting run carries a value. -/
theorem collecting_of_valid {source : Source} {p : Program α} {path : KeyPath} {v : α}
    (h : (p.run validating source path).outcome = .ok (.valid v)) :
    (p.run collecting source path).outcome = .ok (.value v) := by
  obtain ⟨y, hy, hvalid⟩ := validating_eq_ok.mp h
  cases y with
  | value a =>
      cases hvalid
      exact hy
  | failed first rest => cases hvalid

/-- A validating run is invalid when the collecting run carries failed reads. -/
theorem validating_invalid {source : Source} {p : Program α} {path : KeyPath}
    {issues : List Issue} (h : (p.run validating source path).outcome = .ok (.invalid issues)) :
    ∃ f rest, (p.run collecting source path).outcome = .ok (.failed f rest) ∧
      issues = reported (f :: rest) := by
  obtain ⟨y, hy, hr⟩ := validating_eq_ok.mp h
  cases y with
  | value a => cases hr
  | failed f rest =>
      cases hr
      exact ⟨f, rest, hy, rfl⟩

/-- The three strategies agree on every program and every source.  The first line says
that `ending` is the outcome of the eager run. -/
theorem strategies_agree (p : Program α) (source : Source) (path : KeyPath) :
    (p.run eager source path).outcome = (p.ending source path).mapError Halt.error ∧
    (∀ v, (p.run eager source path).outcome = .ok v →
      (p.run optional source path).outcome = .ok (some v) ∧
      (p.run validating source path).outcome = .ok (.valid v)) ∧
    (∀ e, p.ending source path = .error (.raised e) →
      (p.run eager source path).outcome = .error e ∧
      (p.run optional source path).outcome = .error e ∧
      (p.run validating source path).outcome = .error e) ∧
    (∀ issues, (p.run validating source path).outcome = .ok (.invalid issues) →
      (p.run optional source path).outcome = .ok none ∧
      ∃ f, (p.failures source path).head? = some f ∧
        (p.run eager source path).outcome = .error (Failure.read f) ∧ f.issue ∈ issues) ∧
    ((p.run optional source path).outcome = .ok none ↔
      ∃ issues, (p.run validating source path).outcome = .ok (.invalid issues)) := by
  have hcut := p.run_cut source path
  refine ⟨hcut.outcome, ?_, ?_, ?_, ?_⟩
  · intro v hv
    rw [run_optional, run_validating, hcut.of_value hv]
    exact ⟨rfl, rfl⟩
  · intro e he
    rw [he] at hcut
    obtain ⟨hc, hx⟩ := hcut.of_raised
    rw [run_optional, run_validating, hc]
    exact ⟨hx, rfl, rfl⟩
  · intro issues hi
    obtain ⟨f, rest, hc, rfl⟩ := validating_invalid hi
    refine ⟨?_, f, ?_, hcut.of_failed hc, ?_⟩
    · rw [run_optional, Run.outcome_map, hc]
      rfl
    · rw [← failures_of_run hc]
      rfl
    · rw [reported, mem_distinct]
      exact List.mem_map_of_mem (List.mem_reverse.mpr List.mem_cons_self)
  · rw [run_optional, Run.outcome_map]
    constructor
    · intro h
      cases hc : (p.run collecting source path).outcome with
      | error e =>
          rw [hc] at h
          cases h
      | ok y => cases y with
        | value a =>
            rw [hc] at h
            cases h
        | failed f rest =>
            rw [run_validating, Run.outcome_map, hc]
            exact ⟨_, rfl⟩
    · rintro ⟨issues, hi⟩
      obtain ⟨f, rest, hc, _⟩ := validating_invalid hi
      rw [hc]
      rfl

end Program

end ConfigReader
