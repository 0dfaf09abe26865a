import ConfigReader.Proofs.Decimals
import ConfigReader.Proofs.Replies
import ConfigReader.Proofs.Returning
import ConfigReader.Proofs.Sources

/-!
# Errors that escape

The accumulating strategies go on after a value that does not fit, so nothing but an
error of another kind can escape from their runs.  A lookup of a source of the library
*reports* or it *overflows*: it reports a value, nothing, or that the value at its own
path does not fit, and it overflows when an integer has too many digits to be read or
to be written.

`Program.returns_iff_reports` says that an accumulating run returns exactly when all
lookups of its program report, and that otherwise the error of an overflow escapes.
`Program.long_integer_escapes` is such an overflow.
-/

namespace ConfigReader

/-! ## Lookups that report, and lookups that overflow -/

namespace Source

/-- An error of the lookup says that the value at the path asked for does not fit. -/
def Reports (source : Source) (q : Lookup) : Prop :=
  ∀ e, (source.answer q).outcome = .error e →
    ∃ expected raw, e.failure = .read (.malformed q.path expected raw)

/-- The error is that of an integer with too many digits. -/
def IsOverflow (e : Raised) : Prop := ∃ digits, e.failure = .integerTooLong digits

/-- The lookup ends with the error of an integer with too many digits. -/
def Overflows (source : Source) (q : Lookup) : Prop :=
  ∃ e, (source.answer q).outcome = .error e ∧ IsOverflow e

variable {source : Source} {q : Lookup}

theorem Reports.answers (h : source.Reports q) : source.Answers q := by
  unfold Answers
  cases ho : (source.answer q).outcome with
  | ok a => trivial
  | error e =>
      obtain ⟨expected, raw, he⟩ := h e ho
      exact ⟨q.path, expected, raw, he⟩

/-- A source of the library reports what it answers. -/
theorem Built.reports_of_answers (hs : source.Built) (h : source.Answers q) :
    source.Reports q := by
  intro e ho
  unfold Answers at h
  rw [ho] at h
  obtain ⟨path, expected, raw, he⟩ := h
  obtain hread | ⟨digits, hlong⟩ := hs.error_cause ho
  · exact hread
  · rw [he] at hlong
    cases hlong

/-- A lookup of a source of the library reports, or it overflows. -/
theorem Built.overflows_iff (hs : source.Built) : source.Overflows q ↔ ¬ source.Reports q := by
  constructor
  · rintro ⟨e, ho, digits, hlong⟩ hreports
    obtain ⟨expected, raw, hread⟩ := hreports e ho
    rw [hlong] at hread
    cases hread
  · intro h
    obtain ⟨e, h⟩ := Classical.not_forall.mp h
    obtain ⟨ho, hread⟩ := Classical.not_imp.mp h
    obtain hfit | hlong := hs.error_cause ho
    · exact absurd hfit hread
    · exact ⟨e, ho, hlong⟩

/-- An error that stops a walk over a source of the library is an overflow. -/
theorem Built.overflow_of_reply (hs : source.Built) {e : Raised}
    (h : source.reply q = .error (.raised e)) : IsOverflow e := by
  unfold reply at h
  cases ho : (source.answer q).outcome with
  | ok a =>
      rw [ho] at h
      cases a <;> cases h
  | error err =>
      rw [ho] at h
      obtain ⟨expected, raw, he⟩ | ⟨digits, he⟩ := hs.error_cause ho
      · simp only [he] at h
        cases h
      · simp only [he] at h
        cases h
        exact ⟨digits, he⟩

/-- The error of an overflow leaves an item of a list as it is. -/
theorem IsOverflow.leavingItem {e : Raised} (h : IsOverflow e) : IsOverflow e.leavingItem := by
  obtain ⟨digits, he⟩ := h
  have hclass : ¬ e.failure.isA .stopIteration := by
    rw [he, Failure.isA, Failure.errorClass]
    decide
  rw [Raised.leavingItem, if_neg hclass]
  exact ⟨digits, he⟩

end Source

/-! ## Runs that return have had all answers -/

section Answers

variable {α β : Type}

theorem answers_of_withAnswer {source : Source} {q : Lookup} {use : q.Answer → Run (Collected β)}
    {y : Collected β} (h : (collecting.withAnswer source q use).outcome = .ok y) :
    source.Answers q ∧ ∀ a, source.reply q = .ok a → (use a).outcome = .ok y := by
  rw [Strategy.withAnswer_eq, Run.outcome_after] at h
  refine ⟨Source.answers_iff.mpr fun e he => ?_, fun a ha => ?_⟩
  · rw [he] at h
    cases h
  · rw [ha] at h
    exact h

theorem outcome_of_gather {ι : Type} {element : ι → Run (Collected α)} :
    ∀ {ids : List ι} {items y : Collected (List α)},
      (collecting.gather element items ids).outcome = .ok y →
        ∀ i ∈ ids, ∃ x, (element i).outcome = .ok x
  | [], _, _, _, i, hi => nomatch hi
  | j :: rest, items, y, h, i, hi => by
      rw [gather_collecting] at h
      obtain ⟨x, hx, hrest⟩ := Run.bind_eq_ok.mp h
      obtain rfl | hi := List.mem_cons.mp hi
      · exact ⟨x, Run.asItem_eq_ok.mp hx⟩
      · exact outcome_of_gather hrest i hi

/-- A collecting run that comes to its end has had an answer to every lookup. -/
theorem Program.answers_of_run {source : Source} {p : Program α} {path : KeyPath}
    {y : Collected α} (h : (p.run collecting source path).outcome = .ok y) :
    ∀ q ∈ p.reads source path, source.Answers q := by
  induction p generalizing path with
  | pure value => exact fun q hq => nomatch hq
  | scalar kind key =>
      intro q hq
      rw [List.mem_singleton.mp hq]
      exact (answers_of_withAnswer h).1
  | scalars key kind =>
      obtain ⟨hlist, hitems⟩ := answers_of_withAnswer h
      intro q hq
      obtain rfl | hq := List.mem_cons.mp hq
      · exact hlist
      · obtain ⟨id, hid, rfl⟩ := List.mem_map.mp hq
        cases hr : source.reply (.elements (path.resolve key.text) kind) with
        | error halt =>
            rw [Source.elementIds_of_error hr] at hid
            cases hid
        | ok ids =>
            rw [Source.elementIds_of_ok hr] at hid
            obtain ⟨x, hx⟩ := outcome_of_gather (hitems ids hr) id hid
            exact (answers_of_withAnswer hx).1
  | records key item ih =>
      obtain ⟨hlist, hitems⟩ := answers_of_withAnswer h
      intro q hq
      obtain rfl | hq := List.mem_cons.mp hq
      · exact hlist
      · obtain ⟨id, hid, hq⟩ := List.mem_flatMap.mp hq
        cases hr : source.reply (.records (path.resolve key.text)) with
        | error halt =>
            rw [Source.recordIds_of_error hr] at hid
            cases hid
        | ok ids =>
            rw [Source.recordIds_of_ok hr] at hid
            obtain ⟨x, hx⟩ := outcome_of_gather (hitems ids hr) id hid
            exact ih hx q hq
  | nested key inner ih => exact ih h
  | map program fn ih =>
      obtain ⟨x, hx, _⟩ := Run.bind_eq_ok.mp h
      exact ih hx
  | ap fnProgram program ihf iha =>
      obtain ⟨f, hf, h⟩ := Run.bind_eq_ok.mp h
      obtain ⟨x, hx, _⟩ := Run.bind_eq_ok.mp h
      intro q hq
      obtain hq | hq := List.mem_append.mp hq
      · exact ihf hf q hq
      · exact iha hx q hq
  | unsupported typeName => cases h

end Answers

/-! ## Accumulating runs -/

namespace Program

variable {α β : Type} {p : Program α} {source : Source} {path : KeyPath}

/-- A collecting run over a source of the library returns when all its lookups report. -/
theorem collecting_returns_iff (hs : source.Built) (hp : p.Supported) (hf : p.FunctionsReturn) :
    (∃ y, (p.run collecting source path).outcome = .ok y) ↔
      ∀ q ∈ p.reads source path, source.Reports q := by
  constructor
  · rintro ⟨y, hy⟩ q hq
    exact hs.reports_of_answers (answers_of_run hy q hq)
  · intro h
    obtain ⟨y, hy, _⟩ := run_returns hp hf fun q hq => (h q hq).answers
    exact ⟨y, hy⟩

/-- The error that ends a collecting run over a source of the library is an overflow. -/
theorem overflow_of_collecting (hs : source.Built) (hp : p.Supported) (hf : p.FunctionsReturn)
    {e : Raised} (h : (p.run collecting source path).outcome = .error e) :
    Source.IsOverflow e := by
  obtain ⟨y, hy, _⟩ | ⟨err, herr, hlong⟩ :=
    run_ends (E := Source.IsOverflow) (fun _ => Source.IsOverflow.leavingItem) (.inl hp) hf
      fun _ _ _ he => hs.overflow_of_reply he
  · rw [h] at hy
    cases hy
  · rw [h] at herr
    cases herr
    exact hlong

/-- The strategies that carry over the result of a collecting run return when it does. -/
theorem carried_returns_iff (hs : source.Built) (hp : p.Supported) (hf : p.FunctionsReturn)
    (carry : Collected α → β) :
    (∃ r, ((p.run collecting source path).map carry).outcome = .ok r) ↔
      ∀ q ∈ p.reads source path, source.Reports q := by
  rw [← collecting_returns_iff hs hp hf]
  constructor
  · rintro ⟨r, hr⟩
    obtain ⟨y, hy, _⟩ := Run.map_eq_ok.mp hr
    exact ⟨y, hy⟩
  · rintro ⟨y, hy⟩
    exact ⟨carry y, Run.map_eq_ok.mpr ⟨y, hy, rfl⟩⟩

/-- Their errors are those of the collecting run. -/
theorem overflow_of_carried (hs : source.Built) (hp : p.Supported) (hf : p.FunctionsReturn)
    (carry : Collected α → β) {e : Raised}
    (h : ((p.run collecting source path).map carry).outcome = .error e) :
    Source.IsOverflow e := by
  rw [Run.outcome_map] at h
  cases ho : (p.run collecting source path).outcome with
  | ok y =>
      rw [ho] at h
      cases h
  | error err =>
      rw [ho] at h
      cases h
      exact overflow_of_collecting hs hp hf ho

/-- A lookup of a source of the library gives a value, nothing, or the report that the
value at its own path does not fit, unless an integer has too many digits.  If the
functions of a program return, its optional and its validating run return exactly when
all its lookups report, and otherwise end with the error of such an integer. -/
theorem returns_iff_reports (hs : source.Built) (hp : p.Supported) (hf : p.FunctionsReturn) :
    (∀ q, ¬ source.Reports q ↔ source.Overflows q) ∧
    ((∃ r, (p.run optional source path).outcome = .ok r) ↔
      ∀ q ∈ p.reads source path, source.Reports q) ∧
    ((∃ r, (p.run validating source path).outcome = .ok r) ↔
      ∀ q ∈ p.reads source path, source.Reports q) ∧
    (∀ e, (p.run optional source path).outcome = .error e → Source.IsOverflow e) ∧
    (∀ e, (p.run validating source path).outcome = .error e → Source.IsOverflow e) := by
  rw [run_optional, run_validating]
  exact ⟨fun q => hs.overflows_iff.symm, carried_returns_iff hs hp hf _,
    carried_returns_iff hs hp hf _, fun e => overflow_of_carried hs hp hf _,
    fun e => overflow_of_carried hs hp hf _⟩

/-- A list of numbers, one of which is none, and a text that is not there, in layers:
all lookups report, so the runs return. -/
theorem reports_malformed_and_missing :
    let ports : Key := ⟨"ports", by decide⟩
    let host : Key := ⟨"host", by decide⟩
    let p := map2 (scalars ports .integer) (scalar .string host) fun numbers name =>
      Run.pure (numbers, name)
    let source := Source.layered
      [.ofDocument "<document>" [(.text "ports", .list [.int 80, .text "x"])],
        .flat "<mapping>" [("port", "80")]]
    (source.Built ∧ p.Supported ∧ p.FunctionsReturn) ∧
      (∃ r, (p.run optional source .root).outcome = .ok r) ∧
      ∃ r, (p.run validating source .root).outcome = .ok r := by
  intro ports host p source
  have hs : source.Built := by
    refine .layered _ fun s hs => ?_
    simp only [List.mem_cons, List.not_mem_nil, or_false] at hs
    obtain rfl | rfl := hs
    · exact .document _ _
    · exact .flat _ _
  have hp : p.Supported := ⟨trivial, trivial⟩
  have hf : p.FunctionsReturn := functionsReturn_map2 trivial trivial fun _ _ _ _ => ⟨_, rfl⟩
  have hreads : p.reads source .root =
      [.elements "ports" .integer, .scalar .integer "ports.0", .scalar .integer "ports.1",
        .scalar .string "host"] := rfl
  have hq : ∀ q ∈ p.reads source .root, source.Reports q := by
    rw [hreads]
    intro q hq
    refine hs.reports_of_answers ?_
    simp only [List.mem_cons, List.not_mem_nil, or_false] at hq
    obtain rfl | rfl | rfl | rfl := hq
    · trivial
    · trivial
    · exact ⟨_, _, _, rfl⟩
    · trivial
  obtain ⟨-, hoptional, hvalidating, -, -⟩ := @returns_iff_reports _ p source .root hs hp hf
  exact ⟨⟨hs, hp, hf⟩, hoptional.mpr hq, hvalidating.mpr hq⟩

/-- A text of 4301 digits is there and is read as an integer.  It is not reported as a
value that does not fit, and its error ends the runs of both accumulating strategies. -/
theorem long_integer_escapes :
    let n : Key := ⟨"n", by decide⟩
    let digits : Text := List.replicate 4301 (.scalar '1')
    let source := Source.flat "<mapping>" [(n.text, digits)]
    let p := scalar .integer n
    (source.Built ∧ p.Supported ∧ p.FunctionsReturn) ∧
      ¬ (∀ q, source.Reports q) ∧
      ¬ (∃ r, (p.run optional source .root).outcome = .ok r) ∧
      ¬ ∃ r, (p.run validating source .root).outcome = .ok r := by
  intro n digits source p
  have hs : source.Built := .flat _ _
  have hdigits : digits.isDigits = true := by
    rw [Text.isDigits, List.all_replicate]
    rfl
  have hlong : digits.length > digitLimit := by
    rw [List.length_replicate]
    decide
  -- nothing below may compute with the digits
  clear_value digits
  have hanswer : source.answer (.scalar .integer n.text) =
      Run.ofExcept ((parseInteger digits n.text).map some) := rfl
  rw [parseInteger_digits hdigits, if_pos hlong] at hanswer
  have hreply : source.reply (.scalar .integer n.text) =
      .error (.raised (Failure.integerTooLong (some digits.length))) :=
    Source.reply_of_answer hanswer
  have hread : ¬ source.Reports (.scalar .integer n.text) := fun h =>
    Source.answers_iff.mp h.answers _ hreply
  have hcarried : ∀ {β : Type} (carry : Collected Int → β),
      ¬ ∃ r, ((p.run collecting source .root).map carry).outcome = .ok r := fun carry h =>
    hread ((carried_returns_iff (p := p) hs trivial trivial carry).mp h _ List.mem_cons_self)
  rw [run_optional, run_validating]
  exact ⟨⟨hs, trivial, trivial⟩, fun h => hread (h _), hcarried _, hcarried _⟩

end Program

end ConfigReader
