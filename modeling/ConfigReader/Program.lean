import ConfigReader.Key

/-!
# Programs

A *program* describes a read of a configuration that yields a value of some type.
It is a tree.  The leaves are constants and reads at a key, and programs are
combined by scopes, lists, mapped functions and application.  Neither side of an
application sees the result of the other, so every read of a program can be
listed without running it.

Functions answer with a run: a call may raise an error, and it may leave events in
the trace.

The joining functions `map2` to `map5` are defined by `map` and `ap`.  Each one
calls its function once, with the results of its programs in order.
-/

namespace ConfigReader

/-- A description of a read that yields an `α`. -/
inductive Program : Type → Type 1 where
  /-- A constant. -/
  | pure {α : Type} (value : α) : Program α
  /-- The scalar of a kind at a key. -/
  | scalar (kind : Kind) (key : Key) : Program kind.Carrier
  /-- The list of scalars at a key. -/
  | scalars (key : Key) (kind : Kind) : Program (List kind.Carrier)
  /-- The list at a key, each element read by a program in its own scope. -/
  | records {α : Type} (key : Key) (item : Program α) : Program (List α)
  /-- A program read in the scope under a key. -/
  | nested {α : Type} (key : Key) (inner : Program α) : Program α
  /-- A function called with the result of a program. -/
  | map {α β : Type} (program : Program α) (fn : α → Run β) : Program β
  /-- The function that one program yields called with the result of another. -/
  | ap {α β : Type} (fnProgram : Program (α → Run β)) (program : Program α) : Program β
  /-- An object of another type in the place of a program. -/
  | unsupported {α : Type} (typeName : Text) : Program α

namespace Program

variable {α β γ δ ε ζ : Type}

/-- A function of two results. -/
def map2 (a : Program α) (b : Program β) (fn : α → β → Run γ) : Program γ :=
  ap (map a fun x => Run.pure fun y => fn x y) b

/-- A function of three results. -/
def map3 (a : Program α) (b : Program β) (c : Program γ) (fn : α → β → γ → Run δ) :
    Program δ :=
  ap (map2 a b fun x y => Run.pure fun z => fn x y z) c

/-- A function of four results. -/
def map4 (a : Program α) (b : Program β) (c : Program γ) (d : Program δ)
    (fn : α → β → γ → δ → Run ε) : Program ε :=
  ap (map3 a b c fun x y z => Run.pure fun w => fn x y z w) d

/-- A function of five results. -/
def map5 (a : Program α) (b : Program β) (c : Program γ) (d : Program δ) (e : Program ε)
    (fn : α → β → γ → δ → ε → Run ζ) : Program ζ :=
  ap (map4 a b c d fun x y z w => Run.pure fun v => fn x y z w v) e

end Program

end ConfigReader
