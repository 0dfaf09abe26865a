import ConfigReader.Logging.Call
import ConfigReader.Lookup

/-!
# Runs

A *run* is a trace of events and an outcome: a value, or the error that ended it.
Sources answer in runs, and the functions of a program are called in runs, so one
trace holds the lookups and the calls of a whole evaluation in their order, and
the messages that are logged on the way.

The error that ends a run is an error object.  It may point to other error
objects, its cause and its context, and these to others again.
-/

namespace ConfigReader

/-! ## Error objects -/

/-- A failure with its links to other error objects, by their place in a list. -/
structure ErrorObject where
  /-- What went wrong. -/
  failure : Failure
  /-- The error this one was raised from. -/
  cause : Option Nat
  /-- The error that was being handled. -/
  context : Option Nat
  /-- The context is not to be shown. -/
  suppressed : Bool

/-- An error that ends a run: an error object, which has place zero, and the
error objects it leads to. -/
structure Raised where
  /-- The error object that was raised. -/
  top : ErrorObject
  /-- The error objects that links may lead to. -/
  others : List ErrorObject

/-- What went wrong. -/
def Raised.failure (e : Raised) : Failure := e.top.failure

/-- An error without links. -/
def Failure.raised (f : Failure) : Raised := ⟨⟨f, none, none, false⟩, []⟩

instance : Coe Failure Raised := ⟨Failure.raised⟩

/-- An error object with links one place further on. -/
def ErrorObject.shifted (o : ErrorObject) : ErrorObject :=
  { o with cause := o.cause.map (· + 1), context := o.context.map (· + 1) }

/-- An error as it leaves an item of a list.  The error that marks the end of items must
not end the list, so it becomes the cause of another error. -/
def Raised.leavingItem (e : Raised) : Raised :=
  if e.failure.isA .stopIteration then
    ⟨⟨.builtin "RuntimeError" "generator raised StopIteration", some 1, some 1, true⟩,
      e.top.shifted :: e.others.map ErrorObject.shifted⟩
  else e

/-! ## Events and runs -/

/-- An event of a run. -/
inductive Event where
  /-- A watched source was asked. -/
  | lookup (label : Option Text) (question : Lookup)
  /-- A labelled function was called. -/
  | call (label : Text)
  /-- A message was logged. -/
  | log (call : LogCall)

/-- A lookup or a call as a line of a trace. -/
def Event.line? : Event → Option Text
  | lookup none question => some question.text
  | lookup (some label) question => some (label ++ ":" ++ question.text)
  | call label => some ("call " ++ label)
  | log _ => none

/-- The call that logged a message. -/
def Event.logged? : Event → Option LogCall
  | log c => some c
  | _ => none

/-- A trace and an outcome. -/
structure Run (α : Type) where
  /-- The events, in order. -/
  trace : List Event
  /-- The value, or the error that ended the run. -/
  outcome : Except Raised α

namespace Run

/-- The run of a value, without events. -/
protected def pure {α : Type} (a : α) : Run α := ⟨[], .ok a⟩

/-- One run after another. -/
protected def bind {α β : Type} (x : Run α) (f : α → Run β) : Run β :=
  match x.outcome with
  | .error e => ⟨x.trace, .error e⟩
  | .ok a => ⟨x.trace ++ (f a).trace, (f a).outcome⟩

instance : Monad Run where
  pure := Run.pure
  bind := Run.bind

/-- The run that ends with an error. -/
def raise {α : Type} (e : Raised) : Run α := ⟨[], .error e⟩

/-- The run of one event. -/
def emit (e : Event) : Run Unit := ⟨[e], .ok ()⟩

/-- The run of an outcome, without events. -/
def ofExcept {α : Type} : Except Failure α → Run α
  | .ok a => ⟨[], .ok a⟩
  | .error f => raise f

/-- The run of an item of a list. -/
def asItem {α : Type} (x : Run α) : Run α := ⟨x.trace, x.outcome.mapError Raised.leavingItem⟩

instance : MonadExceptOf Raised Run where
  throw := raise
  tryCatch x handle := match x.outcome with
    | .ok _ => x
    | .error e => ⟨x.trace ++ (handle e).trace, (handle e).outcome⟩

/-- The run of a value leaves another run as it is. -/
theorem bind_pure {α : Type} (x : Run α) : Run.bind x Run.pure = x := by
  cases x with
  | mk trace outcome => cases outcome <;> simp [Run.bind, Run.pure]

/-- Runs follow one another without regard to grouping. -/
theorem bind_assoc {α β γ : Type} (x : Run α) (f : α → Run β) (g : β → Run γ) :
    Run.bind (Run.bind x f) g = Run.bind x fun a => Run.bind (f a) g := by
  cases x with
  | mk trace outcome =>
      cases outcome with
      | error e => simp [Run.bind]
      | ok a => cases h : (f a).outcome <;> simp [Run.bind, h]

instance : LawfulMonad Run := LawfulMonad.mk'
  Run
  Run.bind_pure
  (fun a f => by simp [Pure.pure, Bind.bind, Run.pure, Run.bind])
  Run.bind_assoc

end Run

end ConfigReader
