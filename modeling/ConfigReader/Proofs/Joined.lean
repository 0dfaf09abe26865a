import ConfigReader.Description
import ConfigReader.Proofs.Applicative

/-!
# Functions of several results

The joining functions are made of `map` and `ap`.  What is left of a function after its first
arguments is a function itself, so each one is an application of another one with an argument
less.  `Arguments.joined` is this construction for any number of arguments, and `Joins` says
which ones the joining functions have.

A strategy that can *pair* what it carries runs the arguments in order and calls the function
once with the pairs of all results, behind all of them (`Arguments.run_joined`).  The eager and
the validating strategy can.  The eager one stops at the leftmost argument that fails.  The
validating one puts the issues of each argument in front of those of the arguments before.
-/

namespace ConfigReader

variable {F : Type → Type} {α β γ : Type}

/-! ## Arguments -/

/-- A function of two results that waits for the second one. -/
def curried (fn : α × β → Run γ) (x : α) : Run (β → Run γ) := Run.pure fun y => fn (x, y)

/-- A program with the type of its results. -/
abbrev SomeProgram : Type 1 := Σ α : Type, Program α

namespace Program

/-- Programs in order, at least one, with the type of their results together. -/
inductive Arguments : Type → Type 1 where
  /-- One argument. -/
  | one {α : Type} (p : Program α) : Arguments α
  /-- One more argument, behind the others. -/
  | snoc {α β : Type} (args : Arguments α) (p : Program β) : Arguments (α × β)

namespace Arguments

/-- The programs, in order. -/
def programs : {α : Type} → Arguments α → List SomeProgram
  | _, one p => [⟨_, p⟩]
  | _, snoc args p => args.programs ++ [⟨_, p⟩]

/-- A function of all results. -/
def joined : {α γ : Type} → Arguments α → (α → Run γ) → Program γ
  | _, _, one p, fn => map p fn
  | _, _, snoc args p, fn => ap (args.joined (curried fn)) p

/-- The eager runs of all arguments return, with these values. -/
def Yield (source : Source) (path : KeyPath) : {α : Type} → Arguments α → α → Prop
  | _, one p, v => (p.run eager source path).outcome = .ok v
  | _, snoc args p, v =>
      args.Yield source path v.1 ∧ (p.run eager source path).outcome = .ok v.2

end Arguments

/-- The joining functions, with the arguments and the function of each one. -/
inductive Joins : {α γ : Type} → Program γ → Arguments α → (α → Run γ) → Prop
  /-- A function of two results. -/
  | map2 {α β γ : Type} (a : Program α) (b : Program β) (fn : α → β → Run γ) :
      Joins (map2 a b fn) (.snoc (.one a) b) fun v => fn v.1 v.2
  /-- A function of three results. -/
  | map3 {α β γ δ : Type} (a : Program α) (b : Program β) (c : Program γ)
      (fn : α → β → γ → Run δ) :
      Joins (map3 a b c fn) (.snoc (.snoc (.one a) b) c) fun v => fn v.1.1 v.1.2 v.2
  /-- A function of four results. -/
  | map4 {α β γ δ ε : Type} (a : Program α) (b : Program β) (c : Program γ) (d : Program δ)
      (fn : α → β → γ → δ → Run ε) :
      Joins (map4 a b c d fn) (.snoc (.snoc (.snoc (.one a) b) c) d)
        fun v => fn v.1.1.1 v.1.1.2 v.1.2 v.2
  /-- A function of five results. -/
  | map5 {α β γ δ ε ζ : Type} (a : Program α) (b : Program β) (c : Program γ) (d : Program δ)
      (e : Program ε) (fn : α → β → γ → δ → ε → Run ζ) :
      Joins (map5 a b c d e fn) (.snoc (.snoc (.snoc (.snoc (.one a) b) c) d) e)
        fun v => fn v.1.1.1.1 v.1.1.1.2 v.1.1.2 v.1.2 v.2

theorem Joins.eq_joined {p : Program γ} {args : Arguments α} {fn : α → Run γ}
    (h : Joins p args fn) : p = args.joined fn := by
  cases h <;> rfl

/-- The events of the runs of programs one after another. -/
def events (s : Strategy F) (source : Source) (path : KeyPath)
    (programs : List SomeProgram) : List Event :=
  programs.flatMap fun p => (p.2.run s source path).trace

/-- The issues of a validating run, none if it does not come to its end. -/
def issues (p : Program α) (source : Source) (path : KeyPath) : List Issue :=
  match (p.run validating source path).outcome with
  | .ok r => r.issues
  | .error _ => []

end Program

/-! ## Pairs of results -/

/-- Two results are carried as a pair, and a function is called with both at once. -/
structure Strategy.Pairing (s : Strategy F) where
  /-- What is carried for two programs, as a pair. -/
  pair : {α β : Type} → F α → F β → F (α × β)
  /-- A function of two results is called with the pair, and not before. -/
  call_pair : ∀ {α β γ : Type} (fn : α × β → Run γ) (x : F α),
    ∃ f, s.map (curried fn) x = Run.pure f ∧ ∀ y, s.ap f y = s.map fn (pair x y)

namespace Strategy.Pairing

/-- Bare values. -/
def eager : Pairing ConfigReader.eager where
  pair x y := (x, y)
  call_pair fn x := ⟨fun y => fn (x, y), rfl, fun _ => rfl⟩

/-- Values, or the issues of both with those of the second first. -/
def validating : Pairing ConfigReader.validating where
  pair
    | .valid x, .valid y => .valid (x, y)
    | x, y => .invalid (mergeIssues y.issues x.issues)
  call_pair fn x := by
    cases x with
    | invalid issues => exact ⟨.invalid issues, rfl, fun _ => rfl⟩
    | valid x =>
        refine ⟨.valid fun y => fn (x, y), rfl, fun y => ?_⟩
        cases y <;> rfl

theorem issues_pair (x : Validated α) (y : Validated β) :
    (validating.pair x y).issues = mergeIssues y.issues x.issues := by
  cases x <;> cases y <;> rfl

end Strategy.Pairing

namespace Program

variable {s : Strategy F} (j : s.Pairing) (source : Source) (path : KeyPath)

variable {source path} in
theorem issues_of_ok {p : Program α} {r : Validated α}
    (h : (p.run validating source path).outcome = .ok r) : p.issues source path = r.issues := by
  rw [issues, h]

/-- No issue is reported twice. -/
theorem distinct_issues (p : Program α) :
    distinct (p.issues source path) = p.issues source path := by
  cases h : (p.run validating source path).outcome with
  | error e => rw [issues, h, distinct_nil]
  | ok r =>
      obtain ⟨x, -, rfl⟩ := validating_eq_ok.mp h
      rw [issues_of_ok h, Collected.issues_toValidated]
      exact distinct_of_nodup (nodup_distinct _)

namespace Arguments

/-! ## Runs of arguments -/

/-- The runs of the arguments one after another, with their results in pairs. -/
def results : {α : Type} → Arguments α → Run (F α)
  | _, one p => p.run s source path
  | _, snoc args p => args.results.bind fun x =>
      (p.run s source path).bind fun y => Run.pure (j.pair x y)

/-- The function is called once, behind the runs of all arguments, with their results. -/
theorem run_joined (args : Arguments α) (fn : α → Run γ) :
    (args.joined fn).run s source path = (args.results j source path).bind (s.map fn) := by
  induction args generalizing γ with
  | one p => rfl
  | snoc args p ih =>
      rw [joined, run, ih, results, Run.bind_assoc, Run.bind_assoc]
      refine Run.bind_congr rfl fun x _ => ?_
      obtain ⟨f, hf, hcall⟩ := j.call_pair fn x
      rw [hf, Run.pure_bind, Run.bind_assoc]
      exact Run.bind_congr rfl fun y _ => by rw [hcall, Run.pure_bind]

/-- The runs of all arguments come to their end, with these results in pairs. -/
def Carry : {α : Type} → Arguments α → F α → Prop
  | _, one p, x => (p.run s source path).outcome = .ok x
  | _, snoc args p, z => ∃ x y, args.Carry x ∧ (p.run s source path).outcome = .ok y ∧
      z = j.pair x y

variable {j source path}

theorem exists_carry {args : Arguments α}
    (h : ∀ a ∈ args.programs, ∃ x, (a.2.run s source path).outcome = .ok x) :
    ∃ x, args.Carry j source path x := by
  induction args with
  | one p => exact h ⟨_, p⟩ List.mem_cons_self
  | snoc args p ih =>
      obtain ⟨x, hx⟩ := ih fun a ha => h a (List.mem_append_left _ ha)
      obtain ⟨y, hy⟩ := h ⟨_, p⟩ (List.mem_append_right _ List.mem_cons_self)
      exact ⟨_, x, y, hx, hy, rfl⟩

theorem results_of_carry {args : Arguments α} {x : F α} (h : args.Carry j source path x) :
    args.results j source path = ⟨events s source path args.programs, .ok x⟩ := by
  induction args with
  | one p =>
      rw [results, programs, events, List.flatMap_singleton]
      exact congrArg (Run.mk _) h
  | snoc args p ih =>
      obtain ⟨x, y, hx, hy, rfl⟩ := h
      rw [results, ih hx, Run.bind_of_ok rfl, Run.bind_of_ok hy, programs, events, events,
        List.flatMap_append, List.flatMap_singleton]
      simp [Run.pure]

/-- An argument stands among the first ones, or it is the last one. -/
theorem split_snoc {args : Arguments α} {p : Program β} {a : SomeProgram}
    {before after : List SomeProgram}
    (h : (snoc args p).programs = before ++ a :: after) :
    (before = args.programs ∧ a = ⟨_, p⟩) ∨ ∃ more, args.programs = before ++ a :: more := by
  rw [programs] at h
  obtain rfl | ⟨more, last, rfl⟩ := after.eq_nil_or_concat'
  · obtain ⟨hinit, hlast⟩ := List.append_inj' h rfl
    exact .inl ⟨hinit.symm, (List.singleton_inj.mp hlast).symm⟩
  · rw [← List.cons_append, ← List.append_assoc] at h
    exact .inr ⟨more, List.append_inj_left' h rfl⟩

theorem split_one {p : Program α} {a : SomeProgram}
    {before after : List SomeProgram} (h : (one p).programs = before ++ a :: after) :
    before = [] ∧ a = ⟨_, p⟩ := by
  obtain ⟨rfl, hone⟩ | ⟨more, -, hnil⟩ := List.append_eq_cons_iff.mp h.symm
  · exact ⟨rfl, (List.cons.inj hone).1⟩
  · exact absurd hnil (by simp)

section First

variable {args : Arguments α} {before after : List SomeProgram}
  {a : SomeProgram} {e : Raised}

/-- The leftmost argument that does not come to its end is the last one that is run. -/
theorem results_of_first (hsplit : args.programs = before ++ a :: after)
    (hbefore : ∀ b ∈ before, ∃ x, (b.2.run s source path).outcome = .ok x)
    (ha : (a.2.run s source path).outcome = .error e) :
    args.results j source path = ⟨events s source path (before ++ [a]), .error e⟩ := by
  induction args generalizing after with
  | one p =>
      obtain ⟨rfl, rfl⟩ := split_one hsplit
      rw [results, List.nil_append, events, List.flatMap_singleton, ← ha]
  | snoc args p ih =>
      obtain ⟨rfl, rfl⟩ | ⟨more, hmore⟩ := split_snoc hsplit
      · obtain ⟨x, hx⟩ := exists_carry (j := j) hbefore
        rw [results, results_of_carry hx, Run.bind_of_ok rfl, Run.bind_of_error ha, events, events,
          List.flatMap_append, List.flatMap_singleton]
      · rw [results, ih hmore, Run.bind_of_error rfl]

/-- The function is not called then. -/
theorem run_of_first (j : s.Pairing) (fn : α → Run γ)
    (hsplit : args.programs = before ++ a :: after)
    (hbefore : ∀ b ∈ before, ∃ x, (b.2.run s source path).outcome = .ok x)
    (ha : (a.2.run s source path).outcome = .error e) :
    (args.joined fn).run s source path = ⟨events s source path (before ++ [a]), .error e⟩ := by
  rw [run_joined j, results_of_first hsplit hbefore ha, Run.bind_of_error rfl]

end First

/-! ## Eager runs -/

theorem carry_eager {args : Arguments α} {v : α} :
    args.Carry Strategy.Pairing.eager source path v ↔ args.Yield source path v := by
  induction args with
  | one p => exact Iff.rfl
  | snoc args p ih =>
      constructor
      · rintro ⟨x, y, hx, hy, rfl⟩
        exact ⟨ih.mp hx, hy⟩
      · rintro ⟨hx, hy⟩
        exact ⟨v.1, v.2, ih.mpr hx, hy, rfl⟩

theorem run_of_yield {args : Arguments α} {v : α} (h : args.Yield source path v)
    (fn : α → Run γ) : (args.joined fn).run eager source path =
      (fn v).after (events eager source path args.programs) := by
  rw [run_joined Strategy.Pairing.eager, results_of_carry (carry_eager.mpr h), Run.bind_of_ok rfl]
  rfl

theorem lookups_of_yield {args : Arguments α} {v : α} (h : args.Yield source path v)
    (fn : α → Run γ) : (args.joined fn).lookups eager source path =
      args.programs.flatMap fun a => a.2.lookups eager source path := by
  induction args generalizing γ with
  | one p => exact (lookups_map Strategy.lawful_eager source path p fn).trans (by simp [programs])
  | snoc args p ih =>
      have hf := congrArg Run.outcome (run_of_yield h.1 (curried fn))
      rw [joined, lookups_ap_of_ok Strategy.lawful_eager source path p hf, ih h.1, programs,
        List.flatMap_append, List.flatMap_singleton]

theorem lookups_of_first {args : Arguments α} {before after : List SomeProgram}
    {a : SomeProgram} {e : Raised} (hsplit : args.programs = before ++ a :: after)
    (hbefore : ∀ b ∈ before, ∃ x, (b.2.run eager source path).outcome = .ok x)
    (ha : (a.2.run eager source path).outcome = .error e) (fn : α → Run γ) :
    (args.joined fn).lookups eager source path =
      (before ++ [a]).flatMap fun b => b.2.lookups eager source path := by
  induction args generalizing γ after with
  | one p =>
      obtain ⟨rfl, rfl⟩ := split_one hsplit
      exact (lookups_map Strategy.lawful_eager source path p fn).trans (by simp)
  | snoc args p ih =>
      obtain ⟨rfl, rfl⟩ | ⟨more, hmore⟩ := split_snoc hsplit
      · obtain ⟨v, hv⟩ := exists_carry (j := Strategy.Pairing.eager) hbefore
        have hv := carry_eager.mp hv
        have hf := congrArg Run.outcome (run_of_yield hv (curried fn))
        rw [joined, lookups_ap_of_ok Strategy.lawful_eager source path p hf,
          lookups_of_yield hv, List.flatMap_append, List.flatMap_singleton]
      · have hf := congrArg Run.outcome
          (run_of_first Strategy.Pairing.eager (curried fn) hmore hbefore ha)
        rw [joined, lookups_ap_of_error Strategy.lawful_eager source path p hf, ih hmore]

/-! ## Validating runs -/

/-- The issues of an argument stand in front of those of the arguments before it. -/
theorem issues_of_carry {args : Arguments α} {r : Validated α}
    (h : args.Carry Strategy.Pairing.validating source path r) :
    r.issues = distinct (args.programs.reverse.flatMap fun a => a.2.issues source path) := by
  induction args with
  | one p =>
      rw [programs, List.reverse_singleton, List.flatMap_singleton, distinct_issues]
      exact (issues_of_ok h).symm
  | snoc args p ih =>
      obtain ⟨x, y, hx, hy, rfl⟩ := h
      rw [Strategy.Pairing.issues_pair, mergeIssues, ih hx, ← issues_of_ok hy, ← distinct_issues,
        distinct_append_distinct, programs, List.reverse_append, List.flatMap_append,
        List.reverse_singleton, List.flatMap_singleton]

theorem invalid_of_carry {args : Arguments α} {r : Validated α}
    (h : args.Carry Strategy.Pairing.validating source path r)
    (hinvalid : ∃ a ∈ args.programs, ∃ issues,
      (a.2.run validating source path).outcome = .ok (.invalid issues)) :
    r = .invalid r.issues := by
  obtain ⟨a, ha, issues, hissues⟩ := hinvalid
  induction args with
  | one p =>
      cases List.mem_singleton.mp ha
      cases hissues.symm.trans h
      rfl
  | snoc args p ih =>
      obtain ⟨x, y, hx, hy, rfl⟩ := h
      obtain ha | ha := List.mem_append.mp ha
      · rw [ih hx ha]
        rfl
      · cases List.mem_singleton.mp ha
        cases hissues.symm.trans hy
        cases x <;> rfl

theorem run_of_invalid {args : Arguments α}
    (hall : ∀ a ∈ args.programs, ∃ r, (a.2.run validating source path).outcome = .ok r)
    (hinvalid : ∃ a ∈ args.programs, ∃ issues,
      (a.2.run validating source path).outcome = .ok (.invalid issues)) (fn : α → Run γ) :
    (args.joined fn).run validating source path =
      ⟨events validating source path args.programs, .ok (.invalid
        (distinct (args.programs.reverse.flatMap fun a => a.2.issues source path)))⟩ := by
  obtain ⟨r, hr⟩ := exists_carry (j := Strategy.Pairing.validating) hall
  rw [run_joined Strategy.Pairing.validating, results_of_carry hr, Run.bind_of_ok rfl,
    invalid_of_carry hr hinvalid, issues_of_carry hr]
  simp [validating, Run.pure]

/-! ## Descriptions -/

theorem leaves_joined (args : Arguments α) (fn : α → Run γ) :
    (args.joined fn).leaves path = args.programs.flatMap fun a => a.2.leaves path := by
  induction args generalizing γ with
  | one p => rw [joined, leaves, programs, List.flatMap_singleton]
  | snoc args p ih =>
      rw [joined, leaves, ih, programs, List.flatMap_append, List.flatMap_singleton]

end Arguments

theorem describeLeaves_append (xs ys : List Leaf) :
    describeLeaves (xs ++ ys) =
      (describeLeaves xs).bind fun t => (describeLeaves ys).map (t ++ ·) := by
  induction xs with
  | nil => cases h : describeLeaves ys <;> simp [describeLeaves, h, Except.bind, Except.map]
  | cons leaf rest ih =>
      cases leaf with
      | unsupported typeName => rfl
      | read p typeName =>
          rw [List.cons_append, describeLeaves, describeLeaves, ih]
          cases describeLeaves rest with
          | error e => rfl
          | ok t => cases describeLeaves ys <;> simp [Except.bind, Except.map]

/-- The leaves of programs in order are described by the descriptions of the programs. -/
theorem describeLeaves_flatMap (programs : List SomeProgram) :
    describeLeaves (programs.flatMap fun a => a.2.leaves path) =
      (programs.mapM fun a : SomeProgram => a.2.describeIn path).map List.flatten := by
  induction programs with
  | nil => rfl
  | cons a rest ih =>
      rw [List.flatMap_cons, describeLeaves_append, ih, List.mapM_cons]
      change Except.bind (a.2.describeIn path) _ = _
      cases a.2.describeIn path with
      | error e => rfl
      | ok t => cases rest.mapM fun a : SomeProgram => a.2.describeIn path <;> rfl

/-! ## The joining functions -/

/-- A joining function runs its arguments in order.  In an eager run of which all arguments
return, it calls its function once, behind them, with their values.  If an argument fails, the
leftmost one that does ends the run with its error, and the function is not called.  In a
validating run only another error than a failed read ends the run in this way.  The issues of
arguments that are all run to their end are those of the last argument, then of the one before it,
and so on, each one once at its first place, and the function is not called.  The description is
that of the arguments in order. -/
theorem joins_in_order {p : Program γ} {args : Arguments α} {fn : α → Run γ}
    (h : Joins p args fn) (source : Source) (path : KeyPath) :
    (∀ v, args.Yield source path v →
      p.run eager source path = (fn v).after (events eager source path args.programs) ∧
      p.lookups eager source path =
        args.programs.flatMap fun a => a.2.lookups eager source path) ∧
    (∀ before a after e, args.programs = before ++ a :: after →
      (∀ b ∈ before, ∃ x, (b.2.run eager source path).outcome = .ok x) →
      (a.2.run eager source path).outcome = .error e →
        p.run eager source path = ⟨events eager source path (before ++ [a]), .error e⟩ ∧
        p.lookups eager source path =
          (before ++ [a]).flatMap fun b => b.2.lookups eager source path) ∧
    (∀ before a after e, args.programs = before ++ a :: after →
      (∀ b ∈ before, ∃ x, (b.2.run validating source path).outcome = .ok x) →
      (a.2.run validating source path).outcome = .error e →
        p.run validating source path = ⟨events validating source path (before ++ [a]), .error e⟩) ∧
    ((∀ a ∈ args.programs, ∃ x, (a.2.run validating source path).outcome = .ok x) →
      (∃ a ∈ args.programs, ∃ issues,
        (a.2.run validating source path).outcome = .ok (.invalid issues)) →
        p.run validating source path = ⟨events validating source path args.programs, .ok (.invalid
          (distinct (args.programs.reverse.flatMap fun a => a.2.issues source path)))⟩) ∧
    p.describeIn path =
      (args.programs.mapM fun a : SomeProgram => a.2.describeIn path).map List.flatten := by
  rw [h.eq_joined]
  refine ⟨fun v hv => ?_, fun before a after e hsplit hbefore ha => ?_,
    fun before a after e hsplit hbefore ha => ?_, fun hall hinvalid => ?_, ?_⟩
  · exact ⟨Arguments.run_of_yield hv fn, Arguments.lookups_of_yield hv fn⟩
  · exact ⟨Arguments.run_of_first .eager fn hsplit hbefore ha,
      Arguments.lookups_of_first hsplit hbefore ha fn⟩
  · exact Arguments.run_of_first .validating fn hsplit hbefore ha
  · exact Arguments.run_of_invalid hall hinvalid fn
  · rw [describeIn, Arguments.leaves_joined, describeLeaves_flatMap]

/-- A key that two arguments read, one of them a joined program itself.  If it is missing, it is
reported behind what the last argument reports and in front of what fails beside it. -/
theorem joins_in_order_of_shared_key :
    let a : Key := ⟨"a", by decide⟩
    let b : Key := ⟨"b", by decide⟩
    let c : Key := ⟨"c", by decide⟩
    let plus (n m : Int) : Run Int := Run.pure (n + m)
    let read (key : Key) : Program Int := scalar .integer key
    let inner := map2 (read b) (read a) plus
    let args := Arguments.snoc (.snoc (.one (read a)) inner) (read c)
    let p := map3 (read a) inner (read c) fun n m k => plus (n + m) k
    let stuck := map2 (read a) (unsupported (α := Int) "int") plus
    let full := Source.flat "<mapping>" [("a", "1"), ("b", "2"), ("c", "3")]
    let short := Source.flat "<mapping>" [("a", "1")]
    let wrong := Source.flat "<mapping>" [("b", "two")]
    (args.Yield full .root ((1, 3), 3) ∧ p.run eager full .root = Run.pure 7) ∧
      p.run eager short .root = Run.raise (Failure.read (.missing "b")) ∧
      p.run validating wrong .root = Run.pure (.invalid
        [⟨"c", .missingKey, "key not found: c"⟩, ⟨"a", .missingKey, "key not found: a"⟩,
          ⟨"b", .malformedValue, "key not found: b"⟩]) ∧
      stuck.run validating wrong .root = Run.raise (Failure.program (.unsupportedNode "int")) := by
  intro a b c plus read inner args p stuck full short wrong
  have hjoins : Joins p args fun v => plus (v.1.1 + v.1.2) v.2 := .map3 ..
  have hstuck : Joins stuck (.snoc (.one (read a)) (unsupported "int")) fun v => plus v.1 v.2 :=
    .map2 ..
  have hyield : args.Yield full .root ((1, 3), 3) := ⟨⟨rfl, rfl⟩, rfl⟩
  obtain ⟨hfull, -⟩ := joins_in_order hjoins full .root
  obtain ⟨-, hshort, -⟩ := joins_in_order hjoins short .root
  obtain ⟨-, -, -, hwrong, -⟩ := joins_in_order hjoins wrong .root
  obtain ⟨-, -, hraised, -⟩ := joins_in_order hstuck wrong .root
  refine ⟨⟨hyield, (hfull _ hyield).1⟩, ?_, ?_, ?_⟩
  · refine (hshort [⟨_, read a⟩] ⟨_, inner⟩ [⟨_, read c⟩] _ rfl ?_ rfl).1
    rintro _ (_ | ⟨_, ⟨⟩⟩)
    exact ⟨1, rfl⟩
  · refine hwrong ?_ ⟨⟨_, read a⟩, List.mem_cons_self, _, rfl⟩
    rintro _ (_ | ⟨_, _ | ⟨_, _ | ⟨_, ⟨⟩⟩⟩⟩)
    · exact ⟨_, rfl⟩
    · exact ⟨_, rfl⟩
    · exact ⟨_, rfl⟩
  · refine hraised [⟨_, read a⟩] ⟨_, unsupported "int"⟩ [] _ rfl ?_ rfl
    rintro _ (_ | ⟨_, ⟨⟩⟩)
    exact ⟨_, rfl⟩

end Program

end ConfigReader
