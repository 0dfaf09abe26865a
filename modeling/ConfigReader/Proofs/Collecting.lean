import ConfigReader.Proofs.Distinct
import ConfigReader.Proofs.Runs

/-!
# The collecting strategy

A *morphism* takes what one strategy carries to what another one carries, and
agrees with everything the two do.  A run by the second strategy is then the run
by the first one with its value taken over, events included (`Program.run_carry`).

The *collecting* strategy carries a value or all failed reads in the order of the
walk.  The optional strategy keeps of these only that there are some.  The
validating one keeps their issues, the last one first and each one once.  Both are
images of the collecting one, so what is proved of its runs holds of theirs.
-/

namespace ConfigReader

/-! ## Morphisms -/

/-- What strategy `s` carries taken over by strategy `t`. -/
structure Strategy.Morphism {F G : Type → Type} (s : Strategy F) (t : Strategy G) where
  /-- What is carried, taken over. -/
  carry : {α : Type} → F α → G α
  /-- Values are carried alike. -/
  carry_pure : ∀ {α : Type} (a : α), carry (s.pure a) = t.pure a
  /-- Functions are called alike. -/
  carry_map : ∀ {α β : Type} (f : α → Run β) (x : F α), t.map f (carry x) = (s.map f x).map carry
  /-- Carried functions are called alike. -/
  carry_ap : ∀ {α β : Type} (f : F (α → Run β)) (x : F α),
    t.ap (carry f) (carry x) = (s.ap f x).map carry
  /-- Failed reads are carried alike. -/
  carry_failed : ∀ {α : Type} (f : ReadFailure), t.failed f = (s.failed (α := α) f).map carry

namespace Strategy.Morphism

variable {F G : Type → Type} {s : Strategy F} {t : Strategy G} (m : Morphism s t)

theorem withAnswer_carry {source : Source} {q : Lookup} {β : Type} {use : q.Answer → Run (F β)}
    {use' : q.Answer → Run (G β)} (h : ∀ a, use' a = (use a).map m.carry) :
    t.withAnswer source q use' = (s.withAnswer source q use).map m.carry := by
  rw [withAnswer_eq, withAnswer_eq, Run.after_map]
  congr 1
  cases source.reply q with
  | ok a => exact h a
  | error stop => cases stop with
    | unread f => exact m.carry_failed f
    | raised e => rfl

theorem scalar_carry (source : Source) (path : Text) (kind : Kind) :
    t.scalar source path kind = (s.scalar source path kind).map m.carry :=
  m.withAnswer_carry fun a => by simp [m.carry_pure]

theorem gather_carry {ι α : Type} {element : ι → Run (F α)} {element' : ι → Run (G α)}
    (h : ∀ i, element' i = (element i).map m.carry) :
    ∀ (ids : List ι) (items : F (List α)),
      t.gather element' (m.carry items) ids = (s.gather element items ids).map m.carry
  | [], items => rfl
  | i :: rest, items => by
      simp only [gather, h i, Run.asItem_map, Run.map_bind, Run.bind_map, m.carry_map, m.carry_ap,
        gather_carry h rest]

theorem sequence_carry {ι α : Type} {element : ι → Run (F α)} {element' : ι → Run (G α)}
    (h : ∀ i, element' i = (element i).map m.carry) (ids : List ι) :
    t.sequence element' ids = (s.sequence element ids).map m.carry := by
  rw [sequence, ← m.carry_pure, m.gather_carry h, sequence]

end Strategy.Morphism

/-- A run by a strategy is the run by another one, taken over. -/
theorem Program.run_carry {F G : Type → Type} {s : Strategy F} {t : Strategy G}
    (m : s.Morphism t) (source : Source) {α : Type} (p : Program α) (path : KeyPath) :
    p.run t source path = (p.run s source path).map m.carry := by
  induction p generalizing path with
  | pure value => simp [run, m.carry_pure]
  | scalar kind key => exact m.scalar_carry source _ kind
  | scalars key kind =>
      exact m.withAnswer_carry (m.sequence_carry fun id => m.scalar_carry source _ kind)
  | records key item ih => exact m.withAnswer_carry (m.sequence_carry fun id => ih _)
  | nested key inner ih => exact ih _
  | map program fn ih => simp only [run, ih, Run.map_bind, Run.bind_map, m.carry_map]
  | ap fnProgram program ihf iha =>
      simp only [run, ihf, iha, Run.map_bind, Run.bind_map, m.carry_ap]
  | unsupported typeName => rfl

/-! ## All failed reads -/

/-- A value, or the failed reads that stand in its way, in the order of the walk. -/
inductive Collected (α : Type) where
  /-- A value. -/
  | value (a : α)
  /-- Failed reads, at least one. -/
  | failed (first : ReadFailure) (rest : List ReadFailure)

/-- The failed reads, none with a value. -/
def Collected.failures {α : Type} : Collected α → List ReadFailure
  | value _ => []
  | failed first rest => first :: rest

/-- A value or all failed reads.  Those of the function side come first. -/
def collecting : Strategy Collected where
  name := "collecting"
  pure a := .value a
  map f
    | .failed first rest => Run.pure (.failed first rest)
    | .value a => (f a).bind fun b => Run.pure (.value b)
  ap
    | .value f, .value a => (f a).bind fun b => Run.pure (.value b)
    | .failed first rest, a => Run.pure (.failed first (rest ++ a.failures))
    | .value _, .failed first rest => Run.pure (.failed first rest)
  failed f := Run.pure (.failed f [])

/-! ## What the other strategies keep -/

/-- The issues of failed reads, the last one first and each one once. -/
def reported (failures : List ReadFailure) : List Issue :=
  distinct (failures.reverse.map ReadFailure.issue)

/-- Issues merged side by side are the issues of all failed reads, as the argument side
comes first. -/
theorem mergeIssues_reported (xs ys : List ReadFailure) :
    mergeIssues (reported ys) (reported xs) = reported (xs ++ ys) := by
  unfold mergeIssues reported
  rw [distinct_append_distinct, List.reverse_append, List.map_append]

namespace Collected

variable {α : Type}

/-- The value, if there is one. -/
def toOption : Collected α → Option α
  | value a => some a
  | failed .. => none

/-- The value, or the issues of the failed reads. -/
def toValidated : Collected α → Validated α
  | value a => .valid a
  | failed first rest => .invalid (reported (first :: rest))

theorem issues_toValidated (x : Collected α) : x.toValidated.issues = reported x.failures := by
  cases x <;> rfl

end Collected

/-- The optional strategy forgets the failed reads. -/
def forgetting : collecting.Morphism optional where
  carry := Collected.toOption
  carry_pure _ := rfl
  carry_map f x := by
    cases x with
    | value a => simp [optional, collecting, Collected.toOption, Run.bind_map]
    | failed first rest => rfl
  carry_ap f x := by
    cases f with
    | value f => cases x with
      | value a => simp [optional, collecting, Collected.toOption, Run.bind_map]
      | failed first rest => rfl
    | failed first rest => cases x <;> rfl
  carry_failed _ := rfl

/-- The validating strategy keeps the issues of the failed reads. -/
def reporting : collecting.Morphism validating where
  carry := Collected.toValidated
  carry_pure _ := rfl
  carry_map f x := by
    cases x with
    | value a => simp [validating, collecting, Collected.toValidated, Run.bind_map]
    | failed first rest => rfl
  carry_ap f x := by
    cases f with
    | value f => cases x with
      | value a => simp [validating, collecting, Collected.toValidated, Run.bind_map]
      | failed first rest =>
          have h := mergeIssues_reported [] (first :: rest)
          exact congrArg (fun issues => Run.pure (Validated.invalid issues)) h
    | failed first rest =>
        have h := mergeIssues_reported (first :: rest) x.failures
        rw [← Collected.issues_toValidated] at h
        exact congrArg (fun issues => Run.pure (Validated.invalid issues)) h
  carry_failed _ := rfl

/-! ## Runs side by side -/

namespace Program

variable {α : Type} (p : Program α) (source : Source) (path : KeyPath)

theorem run_optional :
    p.run optional source path = (p.run collecting source path).map Collected.toOption :=
  p.run_carry forgetting source path

theorem run_validating :
    p.run validating source path = (p.run collecting source path).map Collected.toValidated :=
  p.run_carry reporting source path

variable {p source path}

/-- A validating run comes to its end with what the collecting run carries. -/
theorem validating_eq_ok {r : Validated α} :
    (p.run validating source path).outcome = .ok r ↔
      ∃ y, (p.run collecting source path).outcome = .ok y ∧ y.toValidated = r := by
  rw [run_validating, Run.map_eq_ok]

end Program

end ConfigReader
