import ConfigReader.Description
import ConfigReader.Strategy

/-!
# Evaluation

The evaluation of a program as callers see it.  It is a run from the root, with a
message for the log at its end: one for a run that was aborted by a failed read,
one for a run that gave a result, and none for other errors.
-/

namespace ConfigReader

/-- A message of the evaluation. -/
def evaluationEntry (message : Text) (fields : Fields) : Event :=
  .log ⟨"pureconf.interpreters.base", .debug, message, fields⟩

/-- A run with the message for the log at its end. -/
def Run.reported {α : Type} (strategy : Text) (r : Run α) : Run α :=
  match r.outcome with
  | .ok _ =>
      ⟨r.trace ++ [evaluationEntry "program evaluated" [("strategy", .text strategy)]], r.outcome⟩
  | .error e => match e.failure with
      | .read f =>
          ⟨r.trace ++ [evaluationEntry "program evaluation aborted"
            [("strategy", .text strategy), ("path", .text f.path), ("kind", .text f.kind.name)]],
            r.outcome⟩
      | _ => r

/-- A program evaluated over a source. -/
def Program.evaluate {F : Type → Type} {α : Type} (s : Strategy F) (p : Program α)
    (source : Source) : Run (F α) :=
  (p.run s source .root).reported s.name

/-- The description of a program as an evaluation. -/
def Program.evaluateDescription {α : Type} (p : Program α) : Run Text :=
  (Run.ofExcept p.describe).reported "describing"

end ConfigReader
