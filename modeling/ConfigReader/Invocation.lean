import ConfigReader.Draft
import ConfigReader.Evaluation
import ConfigReader.Source.Layered

/-!
# Invocations

A program is run by a call from outside: something to run, something to run it by
and something to run it over.  Each part may be the wrong thing.  An evaluation
checks all three before it starts.  A bare walk checks nothing, so a wrong part
fails where it is first used.
-/

namespace ConfigReader

/-! ## The parts of a call -/

/-- The strategies that a call can name. -/
inductive Manner where
  /-- The value, or the first failure. -/
  | eager
  /-- The value, or nothing. -/
  | optional
  /-- The value, or all issues. -/
  | validating
  /-- The description. -/
  | describing
deriving DecidableEq

namespace Manner

/-- The name of a strategy. -/
def name : Manner → Text
  | eager => "eager"
  | optional => "optional"
  | validating => "validating"
  | describing => "describing"

/-- How messages show a strategy. -/
def shown : Manner → Text
  | eager => "EagerStrategy()"
  | optional => "OptionalStrategy()"
  | validating => "ValidatingStrategy()"
  | describing => "DescribingStrategy()"

/-- All strategies. -/
def all : List Manner := [eager, optional, validating, describing]

/-- The strategy with a name. -/
def ofName? (name : Text) : Option Manner := all.find? (·.name = name)

end Manner

/-- What stands in the place of a strategy. -/
inductive StrategyArgument where
  /-- A strategy. -/
  | manner (m : Manner)
  /-- A value. -/
  | value (v : Value)

/-- What stands in the place of a source. -/
inductive SourceArgument where
  /-- Nothing. -/
  | absent
  /-- A source. -/
  | source (s : Source)
  /-- A value that is no source. -/
  | value (v : Value)

/-- What stands for a source where a value stands in its place.  A lookup fails, and
the failure shows the lookup under a name. -/
def Source.ofValue (name : Lookup → Text) (v : Value) : Source where
  shown := v.quoted?.getD []
  keys := match v with
    | .map entries => .ok (entries.filterMap fun (k, _) => k.plain?)
    | _ => .error (.noAttribute v.typeName "keys")
  answer q := Run.raise (Failure.noAttribute v.typeName (name q)).raised

namespace SourceArgument

/-- The source that is asked lookups under their names, be it one or not. -/
def asked (name : Lookup → Text) : SourceArgument → Source
  | source s => s
  | absent => .ofValue name .null
  | value v => .ofValue name v

/-- The source that a strategy asks.  It refuses to go without one. -/
def toSource : SourceArgument → Source
  | absent => { Source.ofValue Lookup.request .null with
      answer := fun _ => Run.raise
        (Failure.builtin "ValueError" "this strategy requires a source").raised }
  | given => given.asked Lookup.request

/-- The watched source around what is given.  It asks every lookup under its own
name, so that something else than a source fails at the first one. -/
def watched (label : Option Text) (given : SourceArgument) : Source :=
  (given.asked Lookup.name).watched label

end SourceArgument

/-- Sources as layers, the first one on top.  There must be one, and all must be
sources. -/
def SourceArgument.layered (layers : List SourceArgument) : Except SourceFault Source :=
  if layers.isEmpty then .error .noLayer else (layers.mapM required).map Source.layered
where
  /-- The source, if there is one. -/
  required : SourceArgument → Except SourceFault Source
    | source s => .ok s
    | value v => .error (.notASource v.typeName)
    | absent => .error (.notASource Value.null.typeName)

/-! ## Answers -/

/-- What a run answers with. -/
inductive Answer where
  /-- A value. -/
  | value (v : Value)
  /-- The mark of a walk that found nothing. -/
  | absent
  /-- A value, or the issues that stand in its way. -/
  | validated (r : Validated Value)

namespace Program

/-- The answer of an evaluation. -/
def answer (p : Program Value) (source : Source) : Manner → Run Answer
  | .eager => (p.evaluate ConfigReader.eager source).bind fun v => Run.pure (.value v)
  | .optional => (p.evaluate ConfigReader.optional source).bind fun r =>
      Run.pure (.value (r.getD .null))
  | .validating => (p.evaluate ConfigReader.validating source).bind fun r =>
      Run.pure (.validated r)
  | .describing => p.evaluateDescription.bind fun t => Run.pure (.value (.text t))

/-- The answer of a bare walk in a scope. -/
def walk (p : Program Value) (source : Source) (scope : KeyPath) : Manner → Run Answer
  | .eager => (p.run ConfigReader.eager source scope).bind fun v => Run.pure (.value v)
  | .optional => (p.run ConfigReader.optional source scope).bind fun r => Run.pure <|
      match r with
      | some v => .value v
      | none => .absent
  | .validating => (p.run ConfigReader.validating source scope).bind fun r =>
      Run.pure (.validated r)
  | .describing => (Run.ofExcept (p.describeIn scope)).bind fun t =>
      Run.pure (.value (.text t))

/-- What a walk asks of its strategy first. -/
def firstRequest : {α : Type} → Program α → Except Failure Text
  | _, pure _ => .ok "pure"
  | _, scalar .. => .ok "read_scalar"
  | _, scalars .. => .ok "read_primitive_list"
  | _, records .. => .ok "read_list"
  | _, nested _ inner => inner.firstRequest
  | _, map program _ => program.firstRequest
  | _, ap fnProgram _ => fnProgram.firstRequest
  | _, unsupported typeName => .error (.program (.unsupportedNode typeName))

end Program

/-! ## Calls -/

/-- How a program is run. -/
inductive Entry where
  /-- By the evaluation. -/
  | evaluate
  /-- By the evaluation, as a method of the program. -/
  | method
  /-- By a bare walk in a scope. -/
  | walk (scope : KeyPath)

/-- Runs a program. -/
def invoke (entry : Entry) (program : Built) (strategy : StrategyArgument)
    (source : SourceArgument) : Run Answer :=
  match entry, program, strategy with
  | .walk scope, .program b, .manner m => b.program.walk source.toSource scope m
  | .walk _, .program b, .value v =>
      (Run.ofExcept b.program.firstRequest).bind fun name =>
        Run.raise (Failure.noAttribute v.typeName name).raised
  | .walk _, other, _ => Run.raise (Failure.noAttribute other.typeName "node").raised
  | _, .program b, .manner m => match source, m with
      | .absent, .describing => b.program.answer source.toSource m
      | .absent, _ => Run.raise
          (Failure.builtin "ValueError" (m.name ++ " strategy requires a source")).raised
      | _, _ => b.program.answer source.toSource m
  | _, .program _, .value v => Run.raise
      (Failure.builtin "TypeError" ("expected a Strategy, got " ++ v.typeName)).raised
  | .method, other, _ => Run.raise (Failure.noAttribute other.typeName "run").raised
  | .evaluate, other, _ => Run.raise (Failure.program (.notAProgram other.typeName)).raised

end ConfigReader
