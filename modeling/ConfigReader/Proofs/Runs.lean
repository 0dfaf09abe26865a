import ConfigReader.Strategy
import Mathlib.Data.List.Forall2

/-!
# Laws of runs

A run is a trace and an outcome.  `Run.map` changes the value and keeps the trace,
`Run.after` puts events in front.  Both pass through `Run.bind`.  Runs one after another
end with the first of them that fails.

A lookup of a walk has one of three *replies*: a value, a failed read, or another
error, which no strategy carries.  `Strategy.withAnswer_eq` says that a reply is
all a walk takes from the answer of a source.
-/

namespace ConfigReader

namespace Run

variable {α β γ : Type}

/-! ## Runs with other values -/

/-- The run with a function of its value. -/
protected def map (f : α → β) (x : Run α) : Run β := ⟨x.trace, x.outcome.map f⟩

@[simp] theorem trace_map (f : α → β) (x : Run α) : (x.map f).trace = x.trace := rfl

@[simp] theorem outcome_map (f : α → β) (x : Run α) :
    (x.map f).outcome = x.outcome.map f := rfl

theorem map_eq_ok {f : α → β} {x : Run α} {b : β} :
    (x.map f).outcome = .ok b ↔ ∃ a, x.outcome = .ok a ∧ f a = b := by
  rw [outcome_map]
  cases x.outcome <;> simp [Except.map]

@[simp] theorem pure_map (f : α → β) (a : α) : (Run.pure a).map f = Run.pure (f a) := rfl

@[simp] theorem pure_bind (a : α) (f : α → Run β) : (Run.pure a).bind f = f a := by
  simp [Run.pure, Run.bind]

theorem bind_of_ok {x : Run α} {a : α} (h : x.outcome = .ok a) (f : α → Run β) :
    x.bind f = ⟨x.trace ++ (f a).trace, (f a).outcome⟩ := by
  simp [Run.bind, h]

theorem bind_of_error {x : Run α} {e : Raised} (h : x.outcome = .error e) (f : α → Run β) :
    x.bind f = ⟨x.trace, .error e⟩ := by
  simp [Run.bind, h]

theorem outcome_bind (x : Run α) (f : α → Run β) :
    (x.bind f).outcome = x.outcome.bind fun a => (f a).outcome := by
  cases h : x.outcome with
  | error e => simp [bind_of_error h, Except.bind]
  | ok a => simp [bind_of_ok h, Except.bind]

theorem bind_congr {x x' : Run α} {f f' : α → Run β} (hx : x' = x)
    (hf : ∀ a, x.outcome = .ok a → f' a = f a) : x'.bind f' = x.bind f := by
  subst hx
  cases ho : x'.outcome with
  | error e => rw [bind_of_error ho, bind_of_error ho]
  | ok a => rw [bind_of_ok ho, bind_of_ok ho, hf a ho]

theorem bind_map (f : α → Run β) (g : β → γ) (x : Run α) :
    (x.bind f).map g = x.bind fun a => (f a).map g := by
  cases h : x.outcome with
  | error e => simp [bind_of_error h, Run.map, Except.map]
  | ok a => simp [bind_of_ok h, Run.map]

theorem map_bind (f : α → β) (g : β → Run γ) (x : Run α) :
    (x.map f).bind g = x.bind fun a => g (f a) := by
  cases h : x.outcome with
  | error e =>
      have hm : (x.map f).outcome = .error e := by simp [h, Except.map]
      simp [bind_of_error h, bind_of_error hm]
  | ok a =>
      have hm : (x.map f).outcome = .ok (f a) := by simp [h, Except.map]
      simp [bind_of_ok h, bind_of_ok hm]

theorem asItem_map (f : α → β) (x : Run α) : (x.map f).asItem = x.asItem.map f := by
  obtain ⟨trace, outcome⟩ := x
  cases outcome <;> rfl

/-! ## Runs as items of a list -/

end Run

/-- What has left an item of a list leaves others as it is. -/
theorem Raised.leavingItem_leavingItem (e : Raised) : e.leavingItem.leavingItem = e.leavingItem := by
  by_cases h : e.failure.isA .stopIteration = true
  · rw [leavingItem.eq_def e, if_pos h]
    rfl
  · rw [leavingItem.eq_def e, if_neg h, leavingItem, if_neg h]

/-- What leaves an item as a failed read was it before. -/
theorem Raised.leavingItem_of_read {e : Raised} {f : ReadFailure}
    (h : e.leavingItem.failure = .read f) : e.leavingItem = e := by
  unfold leavingItem at h ⊢
  split
  · next hend =>
      rw [if_pos hend] at h
      cases h
  · rfl

theorem Raised.leavingItem_of_not {e : Raised} (h : e.failure.isA .stopIteration = false) :
    e.leavingItem = e := by
  rw [leavingItem, h]
  rfl

namespace Run

theorem asItem_eq_ok {x : Run α} {a : α} : x.asItem.outcome = .ok a ↔ x.outcome = .ok a := by
  unfold asItem
  cases x.outcome with
  | error e => constructor <;> intro h <;> cases h
  | ok b => exact Iff.rfl

theorem asItem_bind (x : Run α) (f : α → Run β) :
    (x.bind f).asItem = x.asItem.bind fun a => (f a).asItem := by
  obtain ⟨trace, outcome⟩ := x
  cases outcome <;> rfl

theorem asItem_asItem (x : Run α) : x.asItem.asItem = x.asItem := by
  obtain ⟨trace, outcome⟩ := x
  cases outcome with
  | ok a => rfl
  | error e => exact congrArg (fun e => (⟨trace, .error e⟩ : Run α)) e.leavingItem_leavingItem

/-- A run that is not ended by the error for the end of items is the same as an item. -/
theorem asItem_of_not {x : Run α}
    (h : ∀ e, x.outcome = .error e → e.failure.isA .stopIteration = false) : x.asItem = x := by
  obtain ⟨trace, outcome⟩ := x
  cases outcome with
  | ok a => rfl
  | error e =>
      exact congrArg (fun e => (⟨trace, .error e⟩ : Run α)) (Raised.leavingItem_of_not (h e rfl))

/-! ## Runs with earlier events -/

/-- The run with events in front. -/
def after (events : List Event) (x : Run α) : Run α := ⟨events ++ x.trace, x.outcome⟩

@[simp] theorem outcome_after (events : List Event) (x : Run α) :
    (x.after events).outcome = x.outcome := rfl

theorem after_map (f : α → β) (events : List Event) (x : Run α) :
    (x.after events).map f = (x.map f).after events := rfl

/-! ## Runs one after another -/

theorem outcome_mapM {ι : Type} (f : ι → Run α) (items : List ι) :
    (items.mapM f).outcome = items.mapM fun i => (f i).outcome := by
  induction items with
  | nil => rfl
  | cons i rest ih =>
      rw [List.mapM_cons, List.mapM_cons, ← ih]
      change (Run.bind _ _).outcome = Except.bind _ _
      rw [outcome_bind]
      refine congrArg (Except.bind (f i).outcome) (funext fun a => ?_)
      exact outcome_bind _ _

end Run

/-- The first step that fails ends a sequence of steps. -/
theorem mapM_of_first {ι ε α : Type} {f : ι → Except ε α} {before : List ι} {i : ι} {e : ε}
    (hbefore : ∀ j ∈ before, ∃ a, f j = .ok a) (hi : f i = .error e) (after : List ι) :
    (before ++ i :: after).mapM f = .error e := by
  induction before with
  | nil =>
      rw [List.nil_append, List.mapM_cons, hi]
      rfl
  | cons j rest ih =>
      obtain ⟨a, ha⟩ := hbefore j List.mem_cons_self
      have hrest := ih fun k hk => hbefore k (List.mem_cons_of_mem j hk)
      rw [List.cons_append, List.mapM_cons, ha, hrest]
      rfl

/-- Steps that all succeed give their values in order. -/
theorem mapM_of_forall₂ {ι ε α : Type} {f : ι → Except ε α} {is : List ι} {as : List α}
    (h : List.Forall₂ (fun i a => f i = .ok a) is as) : is.mapM f = .ok as := by
  induction h with
  | nil => rfl
  | cons hi _ ih =>
      rw [List.mapM_cons, hi, ih]
      rfl

/-- A value of steps that all succeed is that of a step. -/
theorem exists_of_mem_mapM {ι ε α : Type} {f : ι → Except ε α} {a : α} :
    ∀ {is : List ι} {as : List α}, is.mapM f = .ok as → a ∈ as → ∃ i ∈ is, f i = .ok a
  | [], _, h, ha => by
      cases h
      cases ha
  | i :: rest, _, h, ha => by
      rw [List.mapM_cons] at h
      cases hi : f i with
      | error e =>
          rw [hi] at h
          cases h
      | ok b =>
          cases hrest : rest.mapM f with
          | error e =>
              rw [hi, hrest] at h
              cases h
          | ok more =>
              rw [hi, hrest] at h
              cases h
              obtain rfl | ha := List.mem_cons.mp ha
              · exact ⟨i, List.mem_cons_self, hi⟩
              · obtain ⟨j, hj, hja⟩ := exists_of_mem_mapM hrest ha
                exact ⟨j, List.mem_cons_of_mem i hj, hja⟩

/-- Steps either all succeed or stop with the error of one of them. -/
theorem mapM_returns_or_stops {ι ε α : Type} (f : ι → Except ε α) (is : List ι) :
    (∃ as, is.mapM f = .ok as ∧ List.Forall₂ (fun i a => f i = .ok a) is as) ∨
      ∃ i ∈ is, ∃ e, f i = .error e ∧ is.mapM f = .error e := by
  induction is with
  | nil => exact .inl ⟨[], rfl, .nil⟩
  | cons i rest ih =>
      rw [List.mapM_cons]
      cases hi : f i with
      | error e => exact .inr ⟨i, List.mem_cons_self, e, hi, rfl⟩
      | ok a =>
          obtain ⟨as, has, hall⟩ | ⟨j, hj, e, hje, he⟩ := ih
          · exact .inl ⟨a :: as, by rw [has]; rfl, .cons hi hall⟩
          · exact .inr ⟨j, List.mem_cons_of_mem i hj, e, hje, by rw [he]; rfl⟩

/-! ## Replies -/

/-- What stops a walk that goes on with values only. -/
inductive Halt where
  /-- A read failed. -/
  | unread (failure : ReadFailure)
  /-- An error that is not about a failed read. -/
  | raised (error : Raised)

/-- The error that a run ends with. -/
def Halt.error : Halt → Raised
  | unread failure => Failure.read failure
  | raised error => error

namespace Source

/-- What a walk makes of the answer to a lookup: a value, or what stops it.  Nothing
at the path and a value that does not fit are failed reads. -/
def reply (source : Source) (q : Lookup) : Except Halt q.Answer :=
  match (source.answer q).outcome with
  | .ok (some a) => .ok a
  | .ok none => .error (.unread (.missing q.path))
  | .error e => match e.failure with
      | .read (.malformed path expected raw) => .error (.unread (.malformed path expected raw))
      | _ => .error (.raised e)

theorem reply_eq_ok {source : Source} {q : Lookup} {a : q.Answer} :
    source.reply q = .ok a ↔ (source.answer q).outcome = .ok (some a) := by
  unfold reply
  split
  · next found hfound =>
      rw [hfound]
      exact ⟨fun h => by cases h; rfl, fun h => by cases h; rfl⟩
  · next hnone =>
      rw [hnone]
      exact ⟨nofun, nofun⟩
  · next e herror =>
      rw [herror]
      constructor
      · intro h
        split at h <;> cases h
      · nofun

/-- The failed read that a lookup comes to, if it fails. -/
def failure? (source : Source) (q : Lookup) : Option ReadFailure :=
  match source.reply q with
  | .error (.unread f) => some f
  | _ => none

end Source

namespace Strategy

variable {F : Type → Type} {β : Type}

/-- A walk uses the reply to a lookup, and keeps the events of the answer. -/
theorem withAnswer_eq (s : Strategy F) (source : Source) (q : Lookup)
    (use : q.Answer → Run (F β)) :
    s.withAnswer source q use = Run.after (source.answer q).trace (
      match source.reply q with
      | .ok a => use a
      | .error (.unread f) => s.failed f
      | .error (.raised e) => Run.raise e) := by
  cases h : (source.answer q).outcome with
  | ok a => cases a <;> simp [withAnswer, Source.reply, h, Run.after]
  | error e =>
      cases hf : e.failure with
      | read f => cases f <;> simp [withAnswer, Source.reply, h, hf, Run.after]
      | _ => simp [withAnswer, Source.reply, h, hf, Run.after]

/-- An error that is not about a failed read ends a walk. -/
theorem withAnswer_of_raised {s : Strategy F} {source : Source} {q : Lookup}
    {use : q.Answer → Run (F β)} {e : Raised} (h : source.reply q = .error (.raised e)) :
    s.withAnswer source q use = ⟨(source.answer q).trace, .error e⟩ := by
  rw [withAnswer_eq, h]
  simp [Run.after, Run.raise]

end Strategy

end ConfigReader
