import ConfigReader.Program
import ConfigReader.Source

/-!
# Strategies

A *strategy* says how results are carried through a program and what becomes of a
failed read.  `Program.run` walks a program once with a strategy and a source.
Both sides of an application are run, the function side first, and the elements of
a list are joined by the same application, so they fail like siblings do.

There are three strategies.  The *eager* one carries bare values and ends at the
first failed read.  The *optional* one carries a value or nothing, and the
*validating* one a value or issues.  These two go on after a failed read, so they
ask every lookup of a program.  A function is called only with values, and an
error of a function ends every run.
-/

namespace ConfigReader

/-! ## Carriers -/

/-- A value, or the issues that stand in its way. -/
inductive Validated (α : Type) where
  /-- A value. -/
  | valid (value : α)
  /-- Issues. -/
  | invalid (issues : List Issue)

/-- The items of a list at their first places. -/
def distinct {α : Type} [DecidableEq α] : List α → List α
  | [] => []
  | a :: rest => a :: (distinct rest).filter (· ≠ a)

/-- The issues of two lists in order, each one once. -/
def mergeIssues (first second : List Issue) : List Issue := distinct (first ++ second)

namespace Validated

variable {α : Type}

/-- The issues, none with a value. -/
def issues : Validated α → List Issue
  | valid _ => []
  | invalid issues => issues

/-- There is a value. -/
def isValid : Validated α → Bool
  | valid _ => true
  | invalid _ => false

/-- The messages of the issues, each one once. -/
def messages (r : Validated α) : List Text := distinct (r.issues.map Issue.message)

/-- The value, or a failure that lists the issues. -/
def get : Validated α → Except Failure α
  | valid value => .ok value
  | invalid issues => .error (.invalid issues)

end Validated

/-! ## Strategies -/

/-- How results are carried through a program. -/
structure Strategy (F : Type → Type) where
  /-- The name of the strategy. -/
  name : Text
  /-- A value is carried. -/
  pure : {α : Type} → α → F α
  /-- A function is called with what is carried. -/
  map : {α β : Type} → (α → Run β) → F α → Run (F β)
  /-- A carried function is called with what is carried. -/
  ap : {α β : Type} → F (α → Run β) → F α → Run (F β)
  /-- A failed read is carried, or ends the run. -/
  failed : {α : Type} → ReadFailure → Run (F α)

/-- Bare values.  The first failed read ends the run. -/
def eager : Strategy Id where
  name := "eager"
  pure a := a
  map f a := f a
  ap f a := f a
  failed f := Run.raise (Failure.read f)

/-- A value or nothing.  That there is nothing is not itself a value, so no program yields it. -/
def optional : Strategy Option where
  name := "optional"
  pure a := some a
  map f
    | none => Run.pure none
    | some a => (f a).bind fun b => Run.pure (some b)
  ap
    | some f, some a => (f a).bind fun b => Run.pure (some b)
    | _, _ => Run.pure none
  failed _ := Run.pure none

/-- A value or issues.  The issues of the argument side come first. -/
def validating : Strategy Validated where
  name := "validating"
  pure a := .valid a
  map f
    | .invalid issues => Run.pure (.invalid issues)
    | .valid a => (f a).bind fun b => Run.pure (.valid b)
  ap
    | .valid f, .valid a => (f a).bind fun b => Run.pure (.valid b)
    | f, a => Run.pure (.invalid (mergeIssues a.issues f.issues))
  failed f := Run.pure (.invalid [f.issue])

/-! ## The walk -/

namespace Strategy

variable {F : Type → Type} (s : Strategy F)

/-- An answer is used, or carried as a failed read. -/
def withAnswer (source : Source) (q : Lookup) {β : Type} (use : q.Answer → Run (F β)) :
    Run (F β) :=
  let r := source.answer q
  let next : Run (F β) := match r.outcome with
    | .ok (some a) => use a
    | .ok none => s.failed (.missing q.path)
    | .error e => match e.failure with
        | .read (.malformed path expected raw) => s.failed (.malformed path expected raw)
        | _ => Run.raise e
  ⟨r.trace ++ next.trace, next.outcome⟩

/-- The scalar of a kind at a path. -/
def scalar (source : Source) (path : Text) (kind : Kind) : Run (F kind.Carrier) :=
  s.withAnswer source (.scalar kind path) fun a => Run.pure (s.pure a)

/-- Elements joined one by one behind those that are carried. -/
def gather {ι α : Type} (element : ι → Run (F α)) : F (List α) → List ι → Run (F (List α))
  | items, [] => Run.pure items
  | items, i :: rest =>
      (element i).asItem.bind fun item =>
        (s.map (fun xs => Run.pure fun x => Run.pure (xs ++ [x])) items).bind fun append =>
          (s.ap append item).bind fun items => gather element items rest

/-- Elements joined into a list. -/
def sequence {ι α : Type} (element : ι → Run (F α)) (ids : List ι) : Run (F (List α)) :=
  s.gather element (s.pure []) ids

end Strategy

namespace Program

/-- A program run in a scope of a source. -/
def run {F : Type → Type} (s : Strategy F) (source : Source) :
    {α : Type} → Program α → KeyPath → Run (F α)
  | _, pure value, _ => Run.pure (s.pure value)
  | _, scalar kind key, path => s.scalar source (path.resolve key.text) kind
  | _, scalars key kind, path =>
      s.withAnswer source (.elements (path.resolve key.text) kind) fun ids =>
        s.sequence (fun id => s.scalar source ((path.child key.text).resolve id) kind) ids
  | _, records key item, path =>
      s.withAnswer source (.records (path.resolve key.text)) fun ids =>
        s.sequence (fun id => item.run s source ((path.child key.text).child id)) ids
  | _, nested key inner, path => inner.run s source (path.child key.text)
  | _, map program fn, path => (program.run s source path).bind fun a => s.map fn a
  | _, ap fnProgram program, path =>
      (fnProgram.run s source path).bind fun f =>
        (program.run s source path).bind fun a => s.ap f a
  | _, unsupported typeName, _ => Run.raise (Failure.program (.unsupportedNode typeName))

/-- The value, or the error that ends the run. -/
def runEager {α : Type} (p : Program α) (source : Source) : Run α := p.run eager source .root

/-- The value, or nothing after a failed read. -/
def runOptional {α : Type} (p : Program α) (source : Source) : Run (Option α) :=
  p.run optional source .root

/-- The value, or all issues. -/
def runValidating {α : Type} (p : Program α) (source : Source) : Run (Validated α) :=
  p.run validating source .root

end Program

end ConfigReader
