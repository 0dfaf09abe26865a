import ConfigReader.CommandLine.ExitCode
import ConfigReader.Format.JsonText
import ConfigReader.Strategy
import ConfigReader.Text.Lines

/-!
# Reports

What the commands print.  A report is an exit code and texts, which are printed one after
the other.  It comes in two forms, lines for people and one JSON object.

`check` and `show` report the issues of a validation.  `check` lists every issue,
and `show` every message once.  As JSON both list the same issues.
-/

namespace ConfigReader

/-- What a command prints, and the code it ends with. -/
structure Report where
  /-- The exit code. -/
  code : ExitCode
  /-- The texts, in order. -/
  prints : List Text
deriving DecidableEq

/-- All that is printed. -/
def Report.out (r : Report) : Text := r.prints.flatten

/-! ## Values as JSON trees -/

mutual

/-- A value as a tree that JSON has forms for, if its texts can be written.  Records
become mappings, keys become texts, and what JSON has no form for is shown by its
quoted text. -/
def Value.tree? : Value → Option Value
  | .null => some .null
  | .bool b => some (.bool b)
  | .int n => some (.int n)
  | .float x => some (.float x)
  | .text t => some (.text t)
  | .list items => (treeItems? items).map .list
  | .tuple items => (treeItems? items).map .list
  | .map entries => (treeEntries? entries).map .ofPairs
  | .record _ fields => (treeFields? fields).map .map
  | v => v.quoted?.map .text

/-- Items as trees. -/
def treeItems? : List Value → Option (List Value)
  | [] => some []
  | v :: rest => v.tree?.bind fun w => (treeItems? rest).map (w :: ·)

/-- Entries as trees, with the plain texts of their keys. -/
def treeEntries? : List (Value × Value) → Option (List (Value × Value))
  | [] => some []
  | (key, v) :: rest => key.plain?.bind fun name => v.tree?.bind fun w =>
      (treeEntries? rest).map ((.text name, w) :: ·)

/-- Fields as trees. -/
def treeFields? : List (Text × Value) → Option (List (Value × Value))
  | [] => some []
  | (name, v) :: rest => v.tree?.bind fun w =>
      (treeFields? rest).map ((.text name, w) :: ·)

end

/-! ## Lines and objects -/

/-- Lines with their ends. -/
def linesText (lines : List Text) : Text := lines.flatMap (· ++ "\n")

/-- The report of lines. -/
def Report.ofLines (code : ExitCode) (lines : List Text) : Report := ⟨code, lines.map (· ++ "\n")⟩

/-- What is printed of lines. -/
@[simp] theorem Report.out_ofLines (code : ExitCode) (lines : List Text) :
    (Report.ofLines code lines).out = linesText lines := rfl

@[simp] theorem Report.code_ofLines (code : ExitCode) (lines : List Text) :
    (Report.ofLines code lines).code = code := rfl

/-- What is printed of a single text. -/
@[simp] theorem Report.out_single (code : ExitCode) (t : Text) : Report.out ⟨code, [t]⟩ = t :=
  List.append_nil t

/-- A JSON object in one line, if its integers can be written. -/
def objectLine? (members : List (Text × Value)) : Option Text :=
  (Json.render? .compact 0 (.map (members.map fun (name, v) => (.text name, v)))).map (· ++ "\n")

/-- A JSON object in one line whose integers are short. -/
def objectLine (members : List (Text × Value)) : Text := (objectLine? members).getD []

/-- An issue as a JSON object. -/
def Issue.object (i : Issue) : Value :=
  .map [(.text "path", .text i.path), (.text "kind", .text i.kind.name),
    (.text "message", .text i.message)]

/-- The texts of a list. -/
def textList (ts : List Text) : Value := .list (ts.map .text)

namespace Report

/-! ## The commands -/

/-- The lines of a description that are not empty. -/
def descriptionLines (description : Text) : List Text :=
  description.splitLines.filter fun line => !line.isEmpty

/-- What `describe` reports. -/
def ofDescription (target : Text) (json : Bool) (description : Text) : Report :=
  let lines := descriptionLines description
  if json then
    ⟨.success, [objectLine [("command", .text "describe"), ("target", .text target),
      ("lines", textList lines)]]⟩
  else if lines.isEmpty then .ofLines .success ["(program reads no keys)"]
  else .ofLines .success lines

/-- The JSON object of a validation with issues. -/
def invalidObject (command target : Text) (issues : List Issue) : Text :=
  objectLine [("command", .text command), ("target", .text target), ("valid", .bool false),
    ("issues", .list (issues.map Issue.object))]

/-- The heading of a validation with issues. -/
def invalidHeading (target : Text) : Text := target ++ ": invalid"

/-- The line of an issue in the report of `check`. -/
def failLine (verbose : Bool) (i : Issue) : Text :=
  "  FAIL  " ++ i.message ++ (if verbose then " (" ++ i.kind.name ++ ")" else [])

/-- What `check` reports. -/
def ofCheck {α : Type} (target : Text) (json verbose : Bool) : Validated α → Report
  | .invalid issues =>
      if json then ⟨.invalid, [invalidObject "check" target issues]⟩
      else .ofLines .invalid (invalidHeading target :: issues.map (failLine verbose))
  | .valid _ =>
      if json then
        ⟨.success, [objectLine [("command", .text "check"), ("target", .text target),
          ("valid", .bool true), ("issues", .list [])]]⟩
      else .ofLines .success ["  OK  " ++ target ++ ": valid"]

/-- What `show` reports, unless the value has no text. -/
def ofShow (target : Text) (json : Bool) : Validated Value → Except Failure Report
  | .invalid issues =>
      if json then .ok ⟨.invalid, [invalidObject "show" target issues]⟩
      else .ok (.ofLines .invalid (invalidHeading target ::
        (Validated.invalid (α := Value) issues).messages.map fun m => "  - " ++ m))
  | .valid v =>
      let shown : Option Text := v.tree?.bind fun tree =>
        if json then
          objectLine? [("command", .text "show"), ("target", .text target), ("valid", .bool true),
            ("value", tree)]
        else (Json.render? .indented 0 tree).map (· ++ "\n")
      match shown with
      | some t => .ok ⟨.success, [t]⟩
      | none => .error (.integerTooLong none)

/-- What `keys` reports. -/
def ofKeys (json : Bool) (keys : List Text) : Report :=
  if json then ⟨.success, [objectLine [("command", .text "keys"), ("keys", textList keys)]]⟩
  else .ofLines .success keys

end Report

end ConfigReader
