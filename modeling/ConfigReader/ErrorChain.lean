import ConfigReader.Run

/-!
# Chains of errors

An error object leads to at most one other one: to its cause, and without a cause
to its context, unless that is not to be shown.  The *chain* of a raised error
starts with the error and follows these links.  It ends at an object that leads
nowhere, and before an object that is on it already, so links in a circle do no
harm.  Objects are told apart by their places and not by what they say.
-/

namespace ConfigReader

/-- The place of the error object that this one leads to. -/
def ErrorObject.next? (e : ErrorObject) : Option Nat :=
  match e.cause with
  | some place => some place
  | none => if e.suppressed then none else e.context

namespace Raised

/-- The error object at a place. -/
def object? (e : Raised) : Nat → Option ErrorObject
  | 0 => some e.top
  | place + 1 => e.others[place]?

/-- The number of error objects. -/
def size (e : Raised) : Nat := e.others.length + 1

/-- The place that the object at a place leads to. -/
def next? (e : Raised) (place : Nat) : Option Nat :=
  (e.object? place).bind fun here => here.next?.bind fun after =>
    (e.object? after).map fun _ => after

/-- Follows the links from a place, up to a place that was seen before. -/
def follow (e : Raised) : (fuel : Nat) → (seen : List Nat) → (place : Nat) → List Nat
  | 0, _, _ => []
  | fuel + 1, seen, place => place :: match e.next? place with
      | none => []
      | some after =>
          if (place :: seen).contains after then [] else follow e fuel (place :: seen) after

/-- The places on the chain of a raised error.  No place is on it twice, so as many
steps as there are objects reach its end. -/
def chain (e : Raised) : List Nat := e.follow e.size [] 0

/-- What went wrong, along the chain. -/
def chainFailures (e : Raised) : List Failure :=
  e.chain.filterMap fun place => (e.object? place).map ErrorObject.failure

end Raised

end ConfigReader
