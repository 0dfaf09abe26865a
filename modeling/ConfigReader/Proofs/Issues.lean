import ConfigReader.Proofs.Sources
import ConfigReader.Proofs.Traces

/-!
# Issues of a validating run

The issues of an invalid result come about by merging two lists at a time, at every
application and for every item of a list.  `Program.validating_report` says what this
amounts to: they are the failing lookups of the run, the last one first, and each one
once.
-/

namespace ConfigReader

/-! ## Failing lookups -/

/-- How a lookup fails, if it does: nothing is at its path, or a value that does not fit. -/
def Source.failing? (source : Source) (q : Lookup) : Option (Text × FailureKind) :=
  (source.failure? q).map fun f => (q.path, f.kind)

/-- The failing lookups of a run by path and kind, in the order of the run. -/
def Program.failing {F : Type → Type} {α : Type} (s : Strategy F) (p : Program α)
    (source : Source) (path : KeyPath) : List (Text × FailureKind) :=
  (p.lookups s source path).filterMap source.failing?

/-- The failing lookups of a validating run are the failed reads of the program. -/
theorem Program.failing_validating {source : Source} (hs : source.Built) {α : Type}
    {p : Program α} {path : KeyPath} {r : Validated α}
    (h : (p.run validating source path).outcome = .ok r) :
    p.failing validating source path = (p.failures source path).map fun f => (f.path, f.kind) := by
  have hf : ∀ q, source.failing? q = (source.failure? q).map fun f => (f.path, f.kind) := by
    intro q
    unfold Source.failing?
    cases hq : source.failure? q with
    | none => rfl
    | some f => rw [Option.map_some, Option.map_some, hs.path_of_failure hq]
  rw [failing, lookups_validating h, failures, List.map_filterMap]
  exact congrArg (List.filterMap · _) (funext hf)

/-! ## Reports -/

/-- The issue of a path and a kind. -/
def issueAt (failing : Text × FailureKind) : Issue :=
  ⟨failing.1, failing.2, "key not found: " ++ failing.1⟩

theorem issueAt_injective (a b : Text × FailureKind) (h : issueAt a = issueAt b) : a = b := by
  cases a
  cases b
  cases h
  rfl

theorem keyNotFound_injective (s t : Text) (h : keyNotFound s = keyNotFound t) : s = t :=
  List.append_cancel_left h

/-- Issues are as distinct as the paths and kinds they are made of. -/
theorem reported_eq (failures : List ReadFailure) :
    reported failures =
      (distinct (failures.map fun f => (f.path, f.kind)).reverse).map issueAt := by
  rw [← distinct_map issueAt_injective, ← List.map_reverse, List.map_map]
  rfl

/-- A report has one message for each path. -/
theorem messages_reported {α : Type} (failures : List ReadFailure) :
    (Validated.invalid (α := α) (reported failures)).messages =
      (distinct (failures.map ReadFailure.path).reverse).map keyNotFound := by
  rw [Validated.messages, Validated.issues, reported, distinct_map_distinct, List.map_map,
    ← distinct_map keyNotFound_injective, ← List.map_reverse, List.map_map]
  rfl

/-- The result of a validating run that comes to its end is a value if no lookup fails.
Otherwise it lists the failing lookups, the last one first, each path and kind once, and
its messages name each path once in the same order. -/
theorem Program.validating_report {source : Source} (hs : source.Built) {α : Type}
    (p : Program α) (path : KeyPath) {r : Validated α}
    (h : (p.run validating source path).outcome = .ok r) :
    (p.failing validating source path = [] → ∃ v, r = .valid v) ∧
    (p.failing validating source path ≠ [] →
      r = .invalid ((p.failing validating source path).reverse.eraseDups.map fun (path, kind) =>
        ⟨path, kind, "key not found: " ++ path⟩) ∧
      r.messages = ((p.failing validating source path).reverse.map Prod.fst).eraseDups.map
        fun (path : Text) => ("key not found: " ++ path : Text)) := by
  rw [failing_validating hs h]
  obtain ⟨y, hy, rfl⟩ := validating_eq_ok.mp h
  rw [← failures_of_run hy]
  cases y with
  | value a => exact ⟨fun _ => ⟨a, rfl⟩, fun hne => absurd rfl hne⟩
  | failed first rest =>
      refine ⟨fun hnil => absurd hnil (List.cons_ne_nil _ _), fun _ => ⟨?_, ?_⟩⟩
      · rw [← distinct_eq_eraseDups]
        exact congrArg Validated.invalid (reported_eq (first :: rest))
      · rw [← distinct_eq_eraseDups, List.map_reverse, List.map_map]
        exact messages_reported (first :: rest)

/-- A key that fails twice is reported once, behind what fails between its reads. -/
theorem Program.validating_report_of_repeated_key :
    let a : Key := ⟨"a", by decide⟩
    let b : Key := ⟨"b", by decide⟩
    let p := map3 (scalar .string a) (scalar .integer b) (scalar .string a)
      fun x n y => Run.pure (x, n, y)
    let source := Source.flat "<mapping>" [("b", "two")]
    p.failing validating source .root =
        [(a.text, .missingKey), (b.text, .malformedValue), (a.text, .missingKey)] ∧
      ∃ r, (p.run validating source .root).outcome = .ok r ∧
        r = .invalid [⟨"a", .missingKey, "key not found: a"⟩,
          ⟨"b", .malformedValue, "key not found: b"⟩] ∧
        r.messages = [("key not found: a" : Text), "key not found: b"] := by
  intro a b p source
  have hf : p.failing validating source .root =
      [(a.text, .missingKey), (b.text, .malformedValue), (a.text, .missingKey)] := rfl
  have h := validating_report (.flat "<mapping>" [("b", "two")]) p .root rfl
  have hreport := h.2 (by rw [hf]; exact List.cons_ne_nil _ _)
  rw [hf] at hreport
  exact ⟨hf, _, rfl, hreport⟩

end ConfigReader
