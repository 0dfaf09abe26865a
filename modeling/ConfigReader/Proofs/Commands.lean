import ConfigReader.Proofs.Agreement
import ConfigReader.Proofs.Escapes
import ConfigReader.Proofs.Forms
import ConfigReader.Proofs.Meaning
import ConfigReader.Proofs.Requests

/-!
# A check and the value

Two commands run a program over the sources of a request.  One checks it and the other prints its
value.  Each reports in its own words, and each in two forms, but both take the result of one
validating run.  `CommandLine.check_and_show_agree` says that their codes agree with the eager run
of the program, and that as JSON they report the same issues.

A validating run keeps failed reads and no other error, so a run over a source of the library is
never ended by a failed read (`Program.validating_returns_of_foreign`).  Issues consist of texts
and can always be written, and what is printed of them means their members
(`Report.means_invalidObject`).  A value is printed if the integers of its form have texts, and what
is printed means the form (`Report.ofShow_valid`, `means_valueText?`).
-/

namespace ConfigReader

/-! ## Errors of validating runs -/

/-- The error is not one of a failed read. -/
def Raised.IsForeign (e : Raised) : Prop := ∀ f, e.failure ≠ .read f

theorem Raised.IsForeign.leavingItem {e : Raised} (h : e.IsForeign) : e.leavingItem.IsForeign := by
  unfold Raised.leavingItem
  split
  · exact fun f hf => nomatch hf
  · exact h

/-- A validating run over a source of the library whose functions return is ended by no failed
read.  So it returns if nothing else can end it. -/
theorem Program.validating_returns_of_foreign {α : Type} {p : Program α} {source : Source}
    {path : KeyPath} (hs : source.Built) (hf : p.FunctionsReturn)
    (h : ∀ e, (p.run validating source path).outcome = .error e → ∃ f, e.failure = .read f) :
    ∃ r, (p.run validating source path).outcome = .ok r := by
  have hlookups : ∀ q ∈ p.reads source path, ∀ e, source.reply q = .error (.raised e) →
      e.IsForeign := by
    intro q _ e he f hread
    obtain ⟨digits, hlong⟩ := hs.overflow_of_reply he
    cases hlong.symm.trans hread
  have hends : Ends p.Yields Raised.IsForeign (p.run collecting source path) :=
    run_ends (E := Raised.IsForeign) (fun _ => Raised.IsForeign.leavingItem)
      (.inr fun _ _ h => nomatch h) hf hlookups
  obtain ⟨y, hy, -⟩ | ⟨e, he, hforeign⟩ := hends
  · exact ⟨y.toValidated, validating_eq_ok.mpr ⟨y, hy, rfl⟩⟩
  · have hvalidating : (p.run validating source path).outcome = .error e := by
      rw [run_validating, Run.outcome_map, he]
      rfl
    obtain ⟨f, hread⟩ := h e hvalidating
    exact absurd hread (hforeign f)

/-- The result of a validating run says how the eager run ends: with the value, or with the error of
a failed read that is among the issues. -/
theorem Program.eager_of_validating {α : Type} {p : Program α} {source : Source} {path : KeyPath}
    {result : Validated α} (h : (p.run validating source path).outcome = .ok result) :
    (∃ v, result = .valid v ∧ (p.run eager source path).outcome = .ok v) ∨
      ∃ f issues, result = .invalid issues ∧ f.path ∈ issues.map Issue.path ∧
        (p.run eager source path).outcome = .error (Failure.read f) := by
  have hcut := p.run_cut source path
  cases result with
  | valid v =>
      refine .inl ⟨v, rfl, ?_⟩
      rw [hcut.outcome, hcut.of_carried (collecting_of_valid h)]
      rfl
  | invalid issues =>
      obtain ⟨f, rest, hfailed, rfl⟩ := validating_invalid h
      refine .inr ⟨f, _, rfl, ?_, hcut.of_failed hfailed⟩
      have hissue : f.issue ∈ reported (f :: rest) := by
        rw [reported, mem_distinct]
        exact List.mem_map_of_mem (List.mem_reverse.mpr List.mem_cons_self)
      exact List.mem_map.mpr ⟨f.issue, hissue, rfl⟩

/-- A value of an eager run is that of the validating run. -/
theorem Program.validating_of_eager {α : Type} {p : Program α} {source : Source} {path : KeyPath}
    {v : α} (h : (p.run eager source path).outcome = .ok v) :
    (p.run validating source path).outcome = .ok (.valid v) := by
  rw [run_validating, (p.run_cut source path).of_value h]
  rfl

/-! ## Objects -/

/-- A JSON object whose members can be written has a text. -/
theorem objectLine?_isSome {members : List (Text × Value)}
    (h : ∀ member ∈ members, (Json.render? .compact 1 member.2).isSome = true) :
    (objectLine? members).isSome = true := by
  rw [objectLine?, Option.isSome_map, Json.render?, Option.isSome_map]
  refine (Json.collects_renderMembers? _ _).isSome_iff.mpr ?_
  refine List.forall_mem_map.mpr fun member hmember => ?_
  rw [Value.plain?, Option.bind_some, Option.isSome_map]
  exact h member hmember

theorem objectLine?_eq_some {members : List (Text × Value)}
    (h : ∀ member ∈ members, (Json.render? .compact 1 member.2).isSome = true) :
    objectLine? members = some (objectLine members) := by
  obtain ⟨text, htext⟩ := Option.isSome_iff_exists.mp (objectLine?_isSome h)
  rw [objectLine, htext, Option.getD_some]

/-- Texts can be written. -/
theorem isSome_textList (ts : List Text) :
    (Json.render? .compact 1 (textList ts)).isSome = true := by
  rw [textList, Json.render?, Option.isSome_map]
  refine (Json.collects_renderItems? _ _).isSome_iff.mpr fun v hv => ?_
  obtain ⟨t, -, rfl⟩ := List.mem_map.mp hv
  rfl

/-- An object of trees means the mapping of its members. -/
theorem means_objectLine? {members : List (Text × Value)} {P : Binary64 → Prop} {text : Text}
    (hmembers : ∀ member ∈ members, member.2.IsTree P) (h : objectLine? members = some text) :
    Json.Means text (.map (members.map fun (name, v) => (.text name, v))) := by
  have hbreak : Json.IsSpace "\n" := by decide
  obtain ⟨t, ht, rfl⟩ := Option.map_eq_some_iff.mp h
  exact @Json.Means.spaced [] t _ _ nofun
    (Json.means_render? (Json.isTree_members_iff.mpr hmembers) ht) hbreak

/-! ## Issues -/

/-- What is told of an issue: its path, its kind and its message. -/
def Issue.told (i : Issue) : Value :=
  .map [(.text "path", .text i.path),
    (.text "kind", .text (match i.kind with
      | .missingKey => "missing_key"
      | .malformedValue => "malformed_value")),
    (.text "message", .text i.message)]

/-- What a command tells of the issues of its target. -/
def toldInvalid (command target : Text) (issues : List Issue) : Value :=
  .map [(.text "command", .text command), (.text "target", .text target),
    (.text "valid", .bool false), (.text "issues", .list (issues.map Issue.told))]

theorem Issue.object_eq_told (i : Issue) : i.object = i.told := by
  rcases i with ⟨path, kind, message⟩
  cases kind <;> rfl

/-- The object of issues is printed, and means what is told of them. -/
theorem Report.means_invalidObject (command target : Text) (issues : List Issue) :
    Json.Means (invalidObject command target issues) (toldInvalid command target issues) := by
  have hissues : (Json.render? .compact 1 (.list (issues.map Issue.object))).isSome = true := by
    rw [Json.render?, Option.isSome_map]
    refine (Json.collects_renderItems? _ _).isSome_iff.mpr fun v hv => ?_
    obtain ⟨i, -, rfl⟩ := List.mem_map.mp hv
    rfl
  have hline := @objectLine?_eq_some [("command", .text command), ("target", .text target),
    ("valid", .bool false), ("issues", .list (issues.map Issue.object))] (by
      simp only [List.forall_mem_cons]
      exact ⟨rfl, rfl, rfl, hissues, List.forall_mem_nil _⟩)
  have htold : issues.map Issue.object = issues.map Issue.told :=
    List.map_congr_left fun i _ => i.object_eq_told
  have hissue : ∀ v ∈ issues.map Issue.told, v.IsTree fun _ => True := by
    refine List.forall_mem_map.mpr fun i _ => .map ?_ ?_ <;> simp only [List.forall_mem_cons]
    · exact ⟨⟨_, rfl⟩, ⟨_, rfl⟩, ⟨_, rfl⟩, List.forall_mem_nil _⟩
    · exact ⟨.text _, .text _, .text _, List.forall_mem_nil _⟩
  have hmeans := means_objectLine? (P := fun _ => True) (by
    simp only [List.forall_mem_cons]
    exact ⟨.text _, .text _, .bool _, .list (htold ▸ hissue), List.forall_mem_nil _⟩) hline
  rw [toldInvalid, ← htold]
  exact hmeans

/-- Both commands report that a result is invalid, and as JSON with the same issues. -/
theorem Report.ofShow_invalid (target : Text) (json verbose : Bool) (issues : List Issue) :
    (ofCheck target json verbose (Validated.invalid issues : Validated Value)).code = .invalid ∧
      ∃ report, ofShow target json (.invalid issues) = .ok report ∧ report.code = .invalid ∧
        (json = true → (ofCheck target json verbose (Validated.invalid issues : Validated Value)).out =
            invalidObject "check" target issues ∧
          report.out = invalidObject "show" target issues) := by
  cases json with
  | false => exact ⟨rfl, _, rfl, rfl, nofun⟩
  | true => exact ⟨rfl, _, rfl, rfl, fun _ => ⟨Report.out_single _ _, Report.out_single _ _⟩⟩

/-! ## Values -/

/-- The text of a value: a JSON object that has the value in it, or the value by itself. -/
def valueText? (target : Text) (json : Bool) (tree : Value) : Option Text :=
  if json then
    objectLine? [("command", .text "show"), ("target", .text target), ("valid", .bool true),
      ("value", tree)]
  else (Json.render? .indented 0 tree).map (· ++ "\n")

/-- What is told of the value of a target: an object that has the value in it, or the value by
itself. -/
def toldValue (target : Text) (json : Bool) (tree : Value) : Value :=
  if json then
    .map [(.text "command", .text "show"), (.text "target", .text target),
      (.text "valid", .bool true), (.text "value", tree)]
  else tree

/-- The text of a value means what is told of it. -/
theorem means_valueText? {target text : Text} {json : Bool} {tree : Value} {P : Binary64 → Prop}
    (htree : tree.IsTree P) (h : valueText? target json tree = some text) :
    Json.Means text (toldValue target json tree) := by
  have hbreak : Json.IsSpace "\n" := by decide
  cases json with
  | true =>
      refine means_objectLine? (P := P) ?_ h
      simp only [List.forall_mem_cons]
      exact ⟨.text _, .text _, .bool _, htree, nofun⟩
  | false =>
      obtain ⟨t, ht, rfl⟩ := Option.map_eq_some_iff.mp h
      exact @Json.Means.spaced [] t _ _ nofun (Json.means_render? htree ht) hbreak

/-- A value that can be written has a report. -/
theorem Report.ofShow_valid (target : Text) (json : Bool) {v tree : Value}
    (htree : v.tree? = some tree) (h : tree.Writable) :
    ∃ text, valueText? target json tree = some text ∧
      Report.ofShow target json (.valid v) = .ok ⟨.success, [text]⟩ := by
  have hsome : (valueText? target json tree).isSome = true := by
    unfold valueText?
    split
    · refine objectLine?_isSome ?_
      simp only [List.forall_mem_cons]
      exact ⟨rfl, rfl, rfl, h _ _, nofun⟩
    · rw [Option.isSome_map, h]
  obtain ⟨text, htext⟩ := Option.isSome_iff_exists.mp hsome
  refine ⟨text, htext, ?_⟩
  unfold valueText? at htext
  simp only [Report.ofShow, htree, Option.bind_some, htext]

/-! ## Reports -/

theorem Run.outcome_reported {α : Type} (strategy : Text) (r : Run α) :
    (r.reported strategy).outcome = r.outcome := by
  unfold Run.reported
  split
  · rfl
  · split <;> rfl

theorem Modules.ne_nil_of_program {modules : Modules} {table : FunctionTable} {target : Text}
    {b : Blueprint} (h : modules.program table target = .ok b) : target ≠ [] := by
  rintro rfl
  cases h

namespace CommandLine

variable {α β : Type} {world : World} {request : Request} {source : Source}

/-- A step that is taken is followed by the next one. -/
theorem bind_of_taken {s : Step α} {a : α} (h : s.run.outcome = .ok (.ok a)) (k : α → Step β) :
    (s >>= k).run.outcome = (k a).run.outcome := by
  change (Run.bind s.run _).outcome = _
  rw [Run.outcome_bind, h]
  rfl

theorem taken_step {r : Run α} {a : α} (h : r.outcome = .ok a) :
    (step r).run.outcome = .ok (.ok a) := by
  change (Run.bind r _).outcome = _
  rw [Run.outcome_bind, h]
  rfl

/-- A command that reports ends with the code and the text of its report. -/
theorem runRequest_of_report {settings : Settings} {report : Report}
    (hsettings : Settings.resolve (settingsOf request) world.environment = .ok settings)
    (h : (runCommand world request).run.outcome = .ok (.ok report)) :
    (runRequest world request).code = report.code.number ∧
      (runRequest world request).out = report.out := by
  obtain ⟨loggers, hloggers⟩ := exists_loggers hsettings
  rw [runRequest, hsettings]
  simp only [hloggers, outcome, h]
  exact ⟨trivial, rfl⟩

/-- Nothing is lost of an outcome whose texts can all be printed. -/
theorem Outcome.printed_of_forall {fault? : Text → Option Text} {o : Outcome}
    (h : ∀ t ∈ o.prints, fault? t = none) : o.printed fault? = o := by
  have hall : ∀ ts : List Text, (∀ t ∈ ts, fault? t = none) → printable fault? ts = (ts, none) := by
    intro ts hts
    induction ts with
    | nil => rfl
    | cons t ts ih =>
        obtain ⟨ht, hts⟩ := List.forall_mem_cons.mp hts
        simp only [printable, ht, ih hts]
  rw [Outcome.printed, hall _ h]

/-- A text that cannot be printed ends a command with an internal error.  What is in front of it is
printed. -/
theorem Outcome.printed_of_fault {fault? : Text → Option Text} {o : Outcome}
    {before after : List Text} {t reason : Text} (hprints : o.prints = before ++ t :: after)
    (hbefore : ∀ s ∈ before, fault? s = none) (ht : fault? t = some reason) :
    (o.printed fault?).code = 4 ∧ (o.printed fault?).prints = before := by
  have hcut : ∀ ts : List Text, (∀ s ∈ ts, fault? s = none) →
      printable fault? (ts ++ t :: after) = (ts, some reason) := by
    intro ts hts
    induction ts with
    | nil => simp only [List.nil_append, printable, ht]
    | cons s ts ih =>
        obtain ⟨hs, hts⟩ := List.forall_mem_cons.mp hts
        simp only [List.cons_append, printable, hs, ih hts]
  rw [Outcome.printed, hprints, hcut before hbefore]
  exact ⟨rfl, rfl⟩

section Validation

variable {b : Blueprint} {result : Validated Value}

theorem validate_of_source {p : Program Value}
    (hsource : (sourceOf world request).run.outcome = .ok (.ok source))
    (hresult : (p.run validating source .root).outcome = .ok result) :
    (validate world request p).run.outcome = .ok (.ok result) := by
  rw [validate, bind_of_taken hsource]
  refine taken_step ?_
  rw [Program.evaluate, Run.outcome_reported, hresult]

/-- A command about a program that is there runs the program. -/
theorem runCommand_of_program
    (htarget : world.modules.program world.functions (request.target.getD []).strip = .ok b)
    (hverb : request.verb ≠ .keys) :
    runCommand world request =
      runProgram world request (request.target.getD []).strip b.program := by
  have hempty : (request.target.getD []).strip.isEmpty = false := by
    simpa using Modules.ne_nil_of_program htarget
  unfold runCommand
  split
  · next h => exact absurd h hverb
  · simp only [hempty, htarget, Bool.false_eq_true, if_false]

variable (htarget : world.modules.program world.functions (request.target.getD []).strip = .ok b)
  (hsource : (sourceOf world request).run.outcome = .ok (.ok source))
  (hresult : (b.program.run validating source .root).outcome = .ok result)

include htarget hsource hresult

/-- The report of a check of a program that is there, over sources that load. -/
theorem runCommand_check (hverb : request.verb = .check) :
    (runCommand world request).run.outcome =
      .ok (.ok (.ofCheck (request.target.getD []).strip request.json request.verbose result)) := by
  rw [runCommand_of_program htarget (by rw [hverb]; exact nofun), runProgram, hverb]
  simp only
  rw [bind_of_taken (validate_of_source hsource hresult)]
  cases result with
  | valid v => rfl
  | invalid issues => exact bind_of_taken (taken_step rfl) _

/-- What is done with the value of a program that is there, over sources that load. -/
theorem runCommand_print (hverb : request.verb = .print) :
    (runCommand world request).run.outcome = (step (Run.ofExcept
      (Report.ofShow (request.target.getD []).strip request.json result))).run.outcome := by
  rw [runCommand_of_program htarget (by rw [hverb]; exact nofun), runProgram, hverb]
  simp only
  exact bind_of_taken (validate_of_source hsource hresult) _

/-- The report of the value of a program that is there, over sources that load. -/
theorem runCommand_show (hverb : request.verb = .print) {report : Report}
    (hreport : Report.ofShow (request.target.getD []).strip request.json result = .ok report) :
    (runCommand world request).run.outcome = .ok (.ok report) := by
  rw [runCommand_print htarget hsource hresult hverb, hreport]
  exact taken_step rfl

end Validation

/-! ## Programs as targets -/

/-- A request about a program: its settings can be resolved, and its target is the program. -/
structure Targets (world : World) (request : Request) (p : Program Value) : Prop where
  /-- The settings. -/
  settings : ∃ settings, Settings.resolve (settingsOf request) world.environment = .ok settings
  /-- The target. -/
  program : ∃ b, world.modules.program world.functions (request.target.getD []).strip = .ok b ∧
    b.program = p

section Targets

variable {p : Program Value} {result : Validated Value} (htarget : Targets world request p)

include htarget

/-- The description of the target. -/
theorem report_of_describe (hverb : request.verb = .describe) {description : Text}
    (h : p.describe = .ok description) :
    (runRequest world request).code = (Report.ofDescription (request.target.getD []).strip
        request.json description).code.number ∧
      (runRequest world request).out = (Report.ofDescription (request.target.getD []).strip
        request.json description).out := by
  obtain ⟨settings, hsettings⟩ := htarget.settings
  obtain ⟨b, hb, rfl⟩ := htarget.program
  have hdescription : b.program.evaluateDescription.outcome = .ok description := by
    rw [Program.evaluateDescription, Run.outcome_reported, h]
    rfl
  refine runRequest_of_report hsettings ?_
  rw [runCommand_of_program hb (by rw [hverb]; exact nofun), runProgram, hverb]
  exact bind_of_taken (taken_step hdescription) _

variable (hsource : (sourceOf world request).run.outcome = .ok (.ok source))
  (hresult : (p.run validating source .root).outcome = .ok result)

include hsource hresult

/-- The result of a check of the target. -/
theorem report_of_check (hverb : request.verb = .check) :
    (runRequest world request).code = (Report.ofCheck (request.target.getD []).strip request.json
        request.verbose result).code.number ∧
      (runRequest world request).out = (Report.ofCheck (request.target.getD []).strip request.json
        request.verbose result).out := by
  obtain ⟨settings, hsettings⟩ := htarget.settings
  obtain ⟨b, hb, rfl⟩ := htarget.program
  exact runRequest_of_report hsettings (runCommand_check hb hsource hresult hverb)

/-- The value of the target. -/
theorem report_of_show (hverb : request.verb = .print) {report : Report}
    (hreport : Report.ofShow (request.target.getD []).strip request.json result = .ok report) :
    (runRequest world request).code = report.code.number ∧
      (runRequest world request).out = report.out := by
  obtain ⟨settings, hsettings⟩ := htarget.settings
  obtain ⟨b, hb, rfl⟩ := htarget.program
  exact runRequest_of_report hsettings (runCommand_show hb hsource hresult hverb hreport)

end Targets

/-! ## A check and the value -/

/-- What a check of a program and the command that prints its value have in common.  The settings
can be resolved, the target is a program whose functions return, the sources load, no error but one
of a failed read ends a validating run, and what the commands print can be printed.  If the eager
run gives a value, both commands succeed, and what is printed means the form of the value if the
integers of the form have texts.  Otherwise the eager run ends with a failed read, and both commands
report the issues of the validating run, that read among them. -/
theorem check_and_show_agree {world : World} {arguments : List Text} {request : Request}
    {settings : Settings} {b : Blueprint} {source : Source}
    (hrequest : Request.ofArguments (Text.ofString "check" :: arguments) = .request request)
    (hsettings : Settings.resolve (settingsOf request) world.environment = .ok settings)
    (htarget : world.modules.program world.functions (request.target.getD []).strip = .ok b)
    (hfunctions : b.program.FunctionsReturn)
    (hsource : (sourceOf world request).run.outcome = .ok (.ok source))
    (hreads : ∀ e, (b.program.run validating source .root).outcome = .error e →
      ∃ f, e.failure = .read f)
    (hprints : ∀ verb ∈ [Verb.check, Verb.print],
      ∀ t ∈ (runRequest world (request.withVerb verb)).prints, world.platform.printFault? t = none) :
    let target := (request.target.getD []).strip
    let checked := run world (Text.ofString "check" :: arguments)
    let shown := run world (Text.ofString "show" :: arguments)
    (∀ v, (b.program.run eager source .root).outcome = .ok v →
      checked.code = 0 ∧
        ∀ tree, v.IsForm tree →
          (∀ n, tree.Quotes n → (Text.ofNat n.natAbs).length ≤ digitLimit) →
          shown.code = 0 ∧ Json.Means shown.out (toldValue target request.json tree)) ∧
    ∀ e, (b.program.run eager source .root).outcome = .error e →
      (checked.code = 1 ∧ shown.code = 1) ∧
        ∃ f issues, e = Failure.read f ∧
          (b.program.run validating source .root).outcome = .ok (.invalid issues) ∧
          f.path ∈ issues.map Issue.path ∧
          (request.json = true → Json.Means checked.out (toldInvalid "check" target issues) ∧
            Json.Means shown.out (toldInvalid "show" target issues)) := by
  intro target checked shown
  obtain ⟨hverb, hrequest'⟩ := Request.ofArguments_check hrequest
  have hchecked : checked = runRequest world request := by
    have hsame : request.withVerb .check = request := by rw [Request.withVerb, ← hverb]
    have hprints := hprints .check List.mem_cons_self
    rw [hsame] at hprints
    simp only [checked, run, hrequest, Outcome.printed_of_forall hprints]
  have hshown : shown = runRequest world (request.withVerb .print) := by
    have hprints := hprints .print (List.mem_cons_of_mem _ List.mem_cons_self)
    simp only [shown, run, hrequest', Outcome.printed_of_forall hprints]
  -- what the two commands do with the result of the validating run
  have hcheck : ∀ result, (b.program.run validating source .root).outcome = .ok result →
      checked.code = (Report.ofCheck target request.json request.verbose result).code.number ∧
        checked.out = (Report.ofCheck target request.json request.verbose result).out := by
    intro result hresult
    rw [hchecked]
    exact runRequest_of_report hsettings (runCommand_check htarget hsource hresult hverb)
  have hshow : ∀ result report, (b.program.run validating source .root).outcome = .ok result →
      Report.ofShow target request.json result = .ok report →
        shown.code = report.code.number ∧ shown.out = report.out := by
    intro result report hresult hreport
    have hcommand : (runCommand world (request.withVerb .print)).run.outcome = .ok (.ok report) :=
      @runCommand_show _ (request.withVerb .print) _ _ _ htarget hsource hresult rfl _ hreport
    rw [hshown]
    exact runRequest_of_report hsettings hcommand
  constructor
  · intro v hv
    have hresult := Program.validating_of_eager hv
    refine ⟨?_, fun tree hform hdigits => ?_⟩
    · rw [(hcheck _ hresult).1, Report.ofCheck]
      split <;> rfl
    · have htree := Value.isForm_iff.mp hform
      have hwritable : tree.Writable := fun layout depth =>
        (Value.isSome_render?_iff (Value.isTree_tree? htree) layout depth).mpr fun n hn =>
          Text.hasDecimalText_iff.mpr (hdigits n hn)
      obtain ⟨text, htext, hreport⟩ := Report.ofShow_valid target request.json htree hwritable
      obtain ⟨hcode, hout⟩ := hshow _ _ hresult hreport
      rw [hcode, hout, Report.out_single]
      exact ⟨rfl, means_valueText? (Value.isTree_tree? htree) htext⟩
  · intro e he
    obtain ⟨result, hresult⟩ :=
      Program.validating_returns_of_foreign (built_sourceOf hsource) hfunctions hreads
    obtain ⟨v, -, hv⟩ | ⟨f, issues, rfl, hpath, hf⟩ := Program.eager_of_validating hresult
    · cases he.symm.trans hv
    · cases he.symm.trans hf
      obtain ⟨hinvalid, report, hreport, hinvalid', htexts⟩ :=
        Report.ofShow_invalid target request.json request.verbose issues
      obtain ⟨hcode, hout⟩ := hcheck _ hresult
      obtain ⟨hcode', hout'⟩ := hshow _ _ hresult hreport
      rw [hcode, hinvalid, hcode', hinvalid']
      refine ⟨⟨rfl, rfl⟩, f, issues, rfl, hresult, hpath, fun hjson => ?_⟩
      rw [hout, hout', (htexts hjson).1, (htexts hjson).2]
      exact ⟨Report.means_invalidObject _ _ _, Report.means_invalidObject _ _ _⟩

/-- A number that is none, which both commands report, and a number that is printed. -/
theorem check_and_show_agree_on_text :
    let port : Key := ⟨"port", by decide⟩
    let p : Program Value := (Program.scalar .integer port).map fun n => Run.pure (.int n)
    let b : Blueprint := .ofParts "ReadInt" [("key", .value (.text "port"))] p
    let platform : Platform := { Platform.usual with printFault? := fun _ => none }
    let world : World := ⟨[("app", [("settings", .program b)])], [], [], ⟨[], [], []⟩, [], platform⟩
    let wrong : List Text := ["app:settings", "--set", "port=x", "--json"]
    let right : List Text := ["app:settings", "--set", "port=8", "--json"]
    ((run world ("check" :: wrong)).code = 1 ∧
      Json.Means (run world ("show" :: wrong)).out
        (toldInvalid "show" "app:settings" [⟨"port", .malformedValue, "key not found: port"⟩])) ∧
    (run world ("check" :: right)).code = 0 ∧
      Json.Means (run world ("show" :: right)).out (toldValue "app:settings" true (.int 8)) := by
  intro port p b platform world wrong right
  have hfunctions : b.program.FunctionsReturn := ⟨trivial, fun n _ => ⟨.int n, rfl⟩⟩
  -- what reading each of the two texts ends with
  have hwrong : (p.run validating (.flat "<--set>" [("port", "x")]) .root).outcome =
      .ok (.invalid [⟨"port", .malformedValue, "key not found: port"⟩]) := rfl
  have hright : (p.run validating (.flat "<--set>" [("port", "8")]) .root).outcome =
      .ok (.valid (.int 8)) := rfl
  constructor
  · have hrequest : Request.ofArguments (Text.ofString "check" :: wrong) = .request
        ⟨.check, some "app:settings", .null, false, true, false, [], .null, ["port=x"]⟩ := rfl
    obtain ⟨-, herror⟩ := @check_and_show_agree world _ _ _ b _ hrequest rfl rfl hfunctions rfl
      (fun _ he => nomatch hwrong.symm.trans he) fun _ _ _ _ => rfl
    obtain ⟨⟨hcode, -⟩, f, issues, -, hissues, -, htold⟩ := herror _ rfl
    cases hwrong.symm.trans hissues
    exact ⟨hcode, (htold rfl).2⟩
  · have hrequest : Request.ofArguments (Text.ofString "check" :: right) = .request
        ⟨.check, some "app:settings", .null, false, true, false, [], .null, ["port=8"]⟩ := rfl
    obtain ⟨hvalue, -⟩ := @check_and_show_agree world _ _ _ b _ hrequest rfl rfl hfunctions rfl
      (fun _ he => nomatch hright.symm.trans he) fun _ _ _ _ => rfl
    obtain ⟨hcode, hform⟩ := hvalue (.int 8) rfl
    refine ⟨hcode, (hform _ (.int 8) fun n hn => ?_).2⟩
    cases hn with
    | here => decide
    | within h _ => cases h

end CommandLine

end ConfigReader
