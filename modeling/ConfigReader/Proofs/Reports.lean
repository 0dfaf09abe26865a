import ConfigReader.Proofs.Commands
import ConfigReader.Proofs.Flattening
import ConfigReader.Proofs.Issues
import ConfigReader.Proofs.Layers

/-!
# Reports of failing paths

As lines, a check lists the issues of a validation, and the command that prints a value lists their
messages.  Issues of one path may differ in kind, and messages do not tell the kind.  So a path that
fails in two ways is listed twice by the one and once by the other command.  In all other cases both
list the same: `CommandLine.reports_list_failing_paths`.

A path fails in two ways if nothing is there for one lookup, and a value that does not fit for
another one.  A document has something at a path for all lookups or for none.  A table has a text for
scalars and element ids for lists, and neither depends on the other.  So it takes a number or truth
value that cannot be read, and a list without elements at the same path
(`Source.Built.mixed_of_unfit_of_passes`).
-/

namespace ConfigReader

/-! ## Two ways to fail -/

/-- One lookup is of a number or truth value, and the other one of the elements of a list at its
path. -/
inductive Lookup.Mixed : Lookup → Lookup → Prop where
  /-- The list is one of scalars. -/
  | elements {kind kind' : Kind} {path : Text} (h : kind ≠ .string) :
      Mixed (.scalar kind path) (.elements path kind')
  /-- The list is one of records. -/
  | records {kind : Kind} {path : Text} (h : kind ≠ .string) :
      Mixed (.scalar kind path) (.records path)

namespace Source

variable {source : Source} {q q' : Lookup}

/-- The source has a value for the lookup that does not fit. -/
def Unfit (source : Source) (q : Lookup) : Prop :=
  ∃ e path expected raw, (source.answer q).outcome = .error e ∧
    e.failure = .read (.malformed path expected raw)

/-- A lookup that finds nothing is missing, and one that finds a value that does not fit is
malformed. -/
theorem passes_or_unfit {path : Text} {kind : FailureKind}
    (h : source.failing? q = some (path, kind)) :
    q.path = path ∧ (kind = .missingKey → source.Passes q) ∧
      (kind = .malformedValue → source.Unfit q) := by
  obtain ⟨f, hf, heq⟩ := Option.map_eq_some_iff.mp h
  obtain ⟨rfl, rfl⟩ := Prod.mk.inj heq
  refine ⟨rfl, ?_⟩
  unfold failure? reply at hf
  cases hanswer : (source.answer q).outcome with
  | ok found => cases found with
    | none =>
        rw [hanswer] at hf
        cases hf
        exact ⟨fun _ => hanswer, nofun⟩
    | some a =>
        rw [hanswer] at hf
        cases hf
  | error e =>
      simp only [hanswer] at hf
      split at hf
      · next heq =>
          split at heq
          · next hread =>
              cases heq
              cases hf
              exact ⟨nofun, fun _ => ⟨e, _, _, _, hanswer, hread⟩⟩
          · cases heq
      · cases hf

/-! ### Layers -/

theorem passes_layered {layers : List Source} (h : (layered layers).Passes q) :
    ∀ s ∈ layers, s.Passes q := by
  obtain hpass | ⟨above, s, below, rfl, habove, hs⟩ := all_pass_or_settled q layers
  · exact hpass
  · have hanswer : (layered (above ++ s :: below)).answer q = _ := firstAnswer_of_pass habove _
    rw [Passes, hanswer, Run.outcome_after, firstAnswer_of_settled hs] at h
    exact absurd (Run.asItem_eq_ok.mp h) hs

theorem unfit_layered {layers : List Source} (h : (layered layers).Unfit q) :
    ∃ s ∈ layers, s.Unfit q := by
  obtain ⟨e, path, expected, raw, he, hread⟩ := h
  obtain ⟨s, hs, e', he', rfl⟩ := firstAnswer_error he
  rw [e'.leavingItem_of_read hread] at hread
  exact ⟨s, hs, e', path, expected, raw, he', hread⟩

/-! ### Tables -/

theorem unfit_flat {origin : Text} {entries : Entries} (h : (flat origin entries).Unfit q) :
    ∃ kind path text, q = .scalar kind path ∧ kind ≠ .string ∧ entries.get? path = some text := by
  obtain ⟨e, path, expected, raw, he, hread⟩ := h
  have herror : entries.answer q = .error (.read (.malformed path expected raw)) :=
    hread ▸ Run.ofExcept_error he
  have hlist : ∀ list, Entries.answer.present (entries.elementIds list) ≠
      .error (.read (.malformed path expected raw)) := by
    intro list hlist
    have hids := Entries.present_error hlist
    unfold Entries.elementIds at hids
    simp only at hids
    split at hids <;> cases hids
  cases q with
  | scalar kind asked =>
      rw [Entries.answer] at herror
      split at herror
      · cases herror
      · next text htext =>
          refine ⟨kind, asked, text, rfl, ?_, htext⟩
          rintro rfl
          cases herror
  | elements asked kind => exact absurd herror (hlist asked)
  | records asked => exact absurd herror (hlist asked)

theorem get?_of_passes {origin : Text} {entries : Entries} {kind : Kind} {path : Text}
    (h : (flat origin entries).Passes (.scalar kind path)) : entries.get? path = none := by
  have hanswer : entries.answer (.scalar kind path) = .ok none := Run.ofExcept_eq_ok.mp h
  rw [Entries.answer] at hanswer
  split at hanswer
  · assumption
  · next text _ =>
      cases hparse : parseScalar text path kind with
      | error f =>
          rw [hparse] at hanswer
          cases hanswer
      | ok a =>
          rw [hparse] at hanswer
          cases hanswer

theorem mixed_flat {origin : Text} {entries : Entries} (hpath : q.path = q'.path)
    (h : (flat origin entries).Unfit q) (h' : (flat origin entries).Passes q') : q.Mixed q' := by
  obtain ⟨kind, path, text, rfl, hkind, htext⟩ := unfit_flat h
  cases q' with
  | scalar kind' path' =>
      obtain rfl : path = path' := hpath
      cases htext.symm.trans (get?_of_passes h')
  | elements path' kind' =>
      obtain rfl : path = path' := hpath
      exact .elements hkind
  | records path' =>
      obtain rfl : path = path' := hpath
      exact .records hkind

/-! ### Documents -/

/-- Where a document has nothing for one lookup, it has nothing for another one. -/
theorem answer_document_of_none {document : Value} (hpath : q.path = q'.path)
    (h : Document.answer document q' = .ok none) : Document.answer document q = .ok none := by
  have hlookup := Document.lookup?_of_no_answer h
  rw [Document.answer, hpath, hlookup]
  rfl

theorem answer_web_of_none {w : Web} (hpath : q.path = q'.path) (h : w.answer q' = .ok none) :
    w.answer q = .ok none := by
  obtain ⟨found, hfound, h⟩ := Except.bind_eq_ok.mp h
  cases found with
  | none =>
      rw [Web.answer, hpath, hfound]
      rfl
  | some item =>
      obtain ⟨a, _, h⟩ := Except.bind_eq_ok.mp h
      cases h

/-- A source with nothing at a path, whatever the lookup, has no value there that does not fit. -/
theorem not_unfit_of_none {answer : Except Failure (Option q.Answer)}
    (hanswer : source.answer q = Run.ofExcept answer) (h : answer = .ok none) :
    ¬ source.Unfit q := by
  rintro ⟨e, path, expected, raw, he, -⟩
  rw [hanswer, h] at he
  cases he

/-- A path fails in two ways only for lookups of a number or truth value and of a list. -/
theorem Built.mixed_of_unfit_of_passes (hs : source.Built) (hpath : q.path = q'.path)
    (h : source.Unfit q) (h' : source.Passes q') : q.Mixed q' := by
  induction hs with
  | flat origin entries => exact mixed_flat hpath h h'
  | document origin entries =>
      have hnone := answer_document_of_none hpath (Run.ofExcept_eq_ok.mp h')
      exact absurd h (not_unfit_of_none rfl hnone)
  | web origin w =>
      unfold ofWeb at h h'
      simp only at h h'
      split at h
      · next hcyclic =>
          rw [if_pos hcyclic] at h'
          have hnone := answer_document_of_none hpath (Run.ofExcept_eq_ok.mp h')
          exact absurd h (not_unfit_of_none rfl hnone)
      · next hcyclic =>
          rw [if_neg hcyclic] at h'
          have hnone := answer_web_of_none hpath (Run.ofExcept_eq_ok.mp h')
          exact absurd h (not_unfit_of_none rfl hnone)
  | layered layers _ ih =>
      obtain ⟨s, hs, hunfit⟩ := unfit_layered h
      exact ih s hs hunfit (passes_layered h' s hs)

end Source

namespace Program

variable {α : Type}

/-- A path that fails in two ways has been asked for as a number or truth value and as a list. -/
theorem mixed_of_failing {source : Source} (hs : source.Built) {p : Program α} {scope : KeyPath}
    {path : Text} (hmissing : (path, FailureKind.missingKey) ∈ p.failing validating source scope)
    (hmalformed : (path, FailureKind.malformedValue) ∈ p.failing validating source scope) :
    ∃ q ∈ p.lookups validating source scope, ∃ q' ∈ p.lookups validating source scope,
      q.path = path ∧ q.Mixed q' := by
  obtain ⟨q, hq, hfailing⟩ := List.mem_filterMap.mp hmalformed
  obtain ⟨q', hq', hfailing'⟩ := List.mem_filterMap.mp hmissing
  obtain ⟨hpath, -, hunfit⟩ := Source.passes_or_unfit hfailing
  obtain ⟨hpath', hpasses, -⟩ := Source.passes_or_unfit hfailing'
  refine ⟨q, hq, q', hq', hpath, ?_⟩
  exact hs.mixed_of_unfit_of_passes (hpath.trans hpath'.symm) (hunfit rfl) (hpasses rfl)

end Program

/-! ## Lists of failing paths -/

/-- Paths stay apart without their kinds if none of them stands with both kinds. -/
theorem injective_iff_one_kind {failing : List (Text × FailureKind)} :
    (∀ a ∈ failing, ∀ b ∈ failing, a.1 = b.1 → a = b) ↔
      ∀ path, ¬ ((path, FailureKind.missingKey) ∈ failing ∧
        (path, FailureKind.malformedValue) ∈ failing) := by
  constructor
  · rintro h path ⟨hmissing, hmalformed⟩
    cases h _ hmissing _ hmalformed rfl
  · rintro h ⟨path, kind⟩ ha ⟨path', kind'⟩ hb heq
    obtain rfl : path = path' := heq
    cases kind <;> cases kind'
    · rfl
    · exact absurd ⟨ha, hb⟩ (h path)
    · exact absurd ⟨hb, ha⟩ (h path)
    · rfl

namespace CommandLine

variable {world : World} {request : Request}

/-- A line of a path in the report of a check without detail. -/
theorem failLine_of_path (path : Text) (kind : FailureKind) :
    Report.failLine false ⟨path, kind, "key not found: " ++ path⟩ =
      "  FAIL  key not found: " ++ path := by
  rw [Report.failLine, if_neg Bool.false_ne_true, List.append_nil]
  rfl

/-- The report of an invalid value as lines. -/
theorem Report.ofShow_invalid_lines (target : Text) (issues : List Issue) :
    Report.ofShow target false (.invalid issues) = .ok (.ofLines .invalid
      ((target ++ ": invalid" : Text) ::
        (Validated.invalid (α := Value) issues).messages.map fun m => ("  - " ++ m : Text))) := rfl

/-- A check and the command that prints a value, over one source on which a program is invalid, both
as lines and the check without detail.  Both end with the code for an invalid configuration.  The
check lists the failing paths, the last one first, each once for each kind of its failures.  The
other command lists each failing path exactly once, in the order in which the check does.

So both list the same messages exactly if no path fails in two ways.  If one does, the program
looked up a number or truth value and a list at this path. -/
theorem reports_list_failing_paths {check shown : Request} {p : Program Value} {source : Source}
    {issues : List Issue}
    (hcheck : check.verb = .check ∧ check.json = false ∧ check.verbose = false)
    (hshow : shown.verb = .print ∧ shown.json = false)
    (htarget : Targets world check p) (htarget' : Targets world shown p)
    (hsource : (sourceOf world check).run.outcome = .ok (.ok source))
    (hsource' : (sourceOf world shown).run.outcome = .ok (.ok source))
    (hresult : (p.run validating source .root).outcome = .ok (.invalid issues)) :
    let failing := p.failing validating source .root
    let byKind : List Text := failing.reverse.eraseDups.map Prod.fst
    let once : List Text := (failing.reverse.map Prod.fst).eraseDups
    ((runRequest world check).code = 1 ∧ (runRequest world shown).code = 1) ∧
    (runRequest world check).out = linesText (((check.target.getD []).strip ++ ": invalid" : Text) ::
      byKind.map fun path => ("  FAIL  key not found: " ++ path : Text)) ∧
    (runRequest world shown).out = linesText (((shown.target.getD []).strip ++ ": invalid" : Text) ::
      once.map fun path => ("  - key not found: " ++ path : Text)) ∧
    (once.Nodup ∧ (∀ path, path ∈ once ↔ ∃ kind, (path, kind) ∈ failing) ∧
      once = byKind.eraseDups) ∧
    (byKind = once ↔ ∀ path, ¬ ((path, .missingKey) ∈ failing ∧ (path, .malformedValue) ∈ failing)) ∧
    ∀ path, (path, .missingKey) ∈ failing → (path, .malformedValue) ∈ failing →
      ∃ q ∈ p.lookups validating source .root, ∃ q' ∈ p.lookups validating source .root,
        q.path = path ∧ q.Mixed q' := by
  intro failing byKind once
  have hs : source.Built := built_sourceOf hsource
  obtain ⟨hvalid, hinvalid⟩ := Program.validating_report hs p .root hresult
  have hfailing : failing ≠ [] := by
    intro hnil
    obtain ⟨v, hv⟩ := hvalid hnil
    cases hv
  obtain ⟨hissues, hmessages⟩ := hinvalid hfailing
  cases hissues
  obtain ⟨hcode, hout⟩ := report_of_check htarget hsource hresult hcheck.1
  rw [hcheck.2.1, hcheck.2.2] at hcode hout
  have hreport := Report.ofShow_invalid_lines (shown.target.getD []).strip
    (failing.reverse.eraseDups.map issueAt)
  rw [← hshow.2] at hreport
  obtain ⟨hcode', hout'⟩ := report_of_show htarget' hsource' hresult hshow.1 hreport
  have hdistinct : byKind = (distinct failing.reverse).map Prod.fst :=
    congrArg (List.map Prod.fst) (distinct_eq_eraseDups _).symm
  have hdistinct' : once = distinct (failing.reverse.map Prod.fst) := (distinct_eq_eraseDups _).symm
  have honce : once = byKind.eraseDups := by
    rw [← distinct_eq_eraseDups, hdistinct, hdistinct', distinct_map_distinct]
  refine ⟨⟨hcode, hcode'⟩, ?_, ?_, ⟨?_, fun path => ?_, honce⟩, ?_,
    fun path => Program.mixed_of_failing hs⟩
  · rw [hout]
    refine congrArg (fun lines => linesText (_ :: lines)) ?_
    rw [List.map_map, List.map_map]
    exact List.map_congr_left fun _ _ => failLine_of_path _ _
  · rw [hout']
    refine congrArg (fun lines => linesText (_ :: lines)) ?_
    refine (congrArg (List.map _) hmessages).trans ?_
    rw [List.map_map]
    exact List.map_congr_left fun _ _ => rfl
  · rw [hdistinct']
    exact nodup_distinct _
  · rw [hdistinct', mem_distinct, List.mem_map]
    simp [failing]
  · rw [hdistinct, hdistinct', map_distinct_eq_iff, ← injective_iff_one_kind]
    simp only [List.mem_reverse]

/-- Both list the missing text and the number that is none. -/
theorem reports_list_number_and_text :
    let port : Key := ⟨"port", by decide⟩
    let host : Key := ⟨"host", by decide⟩
    let p : Program Value := Program.map2 (.scalar .integer port) (.scalar .string host)
      fun n t => Run.pure (.list [.int n, .text t])
    let b : Blueprint := .ofParts "Applied" [] p
    let world : World := ⟨[("app", [("settings", .program b)])], [], [], ⟨[], [], []⟩, [], .usual⟩
    let check : Request :=
      ⟨.check, some "app:settings", .null, false, false, false, [], .null, ["port=x"]⟩
    let shown : Request := { check with verb := .print }
    (runRequest world check).out =
        linesText ["app:settings: invalid", "  FAIL  key not found: host",
          "  FAIL  key not found: port"] ∧
      (runRequest world shown).out =
        linesText ["app:settings: invalid", "  - key not found: host", "  - key not found: port"] := by
  intro port host p b world check shown
  have htarget : Targets world check p := ⟨⟨_, rfl⟩, ⟨b, rfl, rfl⟩⟩
  have htarget' : Targets world shown p := ⟨⟨_, rfl⟩, ⟨b, rfl, rfl⟩⟩
  let source := Source.flat "<--set>" [("port", "x")]
  have hfailing : p.failing validating source .root =
      [(port.text, .malformedValue), (host.text, .missingKey)] := rfl
  obtain ⟨-, hcheck, hshown, -⟩ := @reports_list_failing_paths world check shown p source _
    ⟨rfl, rfl, rfl⟩ ⟨rfl, rfl⟩ htarget htarget' rfl rfl rfl
  rw [hfailing] at hcheck hshown
  rw [hcheck, hshown]
  exact ⟨congrArg linesText (by decide +kernel), congrArg linesText (by decide +kernel)⟩

/-- A number that is none, at the path of a list that has no elements: a check lists it twice. -/
theorem check_lists_path_twice :
    let a : Key := ⟨"a", by decide⟩
    let p : Program Value := Program.map2 (.scalar .integer a) (.scalars a .string)
      fun n ts => Run.pure (.list (.int n :: ts.map .text))
    let b : Blueprint := .ofParts "Applied" [] p
    let world : World := ⟨[("m", [("P", .program b)])], [], [], ⟨[], [], []⟩, [], .usual⟩
    (run world ["check", "m:P", "--set", "a=x"]).out =
        linesText ["m:P: invalid", "  FAIL  key not found: a", "  FAIL  key not found: a"] ∧
      (run world ["show", "m:P", "--set", "a=x"]).out =
        linesText ["m:P: invalid", "  - key not found: a"] := by
  intro a p b world
  exact ⟨by decide +kernel, by decide +kernel⟩

end CommandLine

end ConfigReader
