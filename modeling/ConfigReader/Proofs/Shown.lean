import ConfigReader.Proofs.Commands

/-!
# Values as they are shown

The command that prints a value turns it into a tree and writes the tree as JSON, by itself or as a
member of an object.  Integers and keys that cannot be written end the command, which then prints
nothing.  Otherwise `CommandLine.shown_json` says when the text is JSON: exactly if no floating
point number of the tree is infinite or no number.  All of these numbers are shown in the value.
-/

namespace ConfigReader

/-- The text of a tree is JSON exactly if its floating point numbers are finite. -/
theorem isJson_valueText?_iff {target text : Text} {json : Bool} {P : Binary64 → Prop}
    {tree : Value} (htree : tree.IsTree P) (h : valueText? target json tree = some text) :
    Json.IsJson text ↔ tree.IsTree fun x => x.isFinite = true := by
  have hbreak : Json.IsSpace "\n" := by decide
  -- the object that has the tree in it is a tree of the same numbers
  have hmembers : ∀ {Q : Binary64 → Prop}, (∀ member ∈ ([("command", .text "show"),
      ("target", .text target), ("valid", .bool true), ("value", tree)] : List (Text × Value)),
        member.2.IsTree Q) ↔ tree.IsTree Q := by
    intro Q
    simp only [List.forall_mem_cons]
    exact ⟨fun h => h.2.2.2.1, fun h => ⟨.text _, .text _, .bool _, h, nofun⟩⟩
  unfold valueText? at h
  split at h
  · obtain ⟨t, ht, rfl⟩ := Option.map_eq_some_iff.mp h
    have hobject := Json.isTree_members_iff.mpr (hmembers.mpr htree)
    exact (Json.isJson_render?_iff hobject ht hbreak).trans
      (Json.isTree_members_iff.trans hmembers)
  · obtain ⟨t, ht, rfl⟩ := Option.map_eq_some_iff.mp h
    exact Json.isJson_render?_iff htree ht hbreak

/-- A value has a report if its tree has a text. -/
theorem Report.ofShow_eq (target : Text) (json : Bool) (v : Value) :
    Report.ofShow target json (.valid v) =
      match v.tree?.bind (valueText? target json) with
      | some text => .ok ⟨.success, [text]⟩
      | none => .error (.integerTooLong none) := rfl

namespace CommandLine

variable {world : World} {request : Request} {p : Program Value} {source : Source}

/-- A command that is ended by an error says so. -/
theorem runRequest_of_raised {settings : Settings} {e : Raised}
    (hsettings : Settings.resolve (settingsOf request) world.environment = .ok settings)
    (h : (runCommand world request).run.outcome = .error e) :
    ∃ log, runRequest world request = raisedOutcome log e := by
  obtain ⟨loggers, hloggers⟩ := exists_loggers hsettings
  refine ⟨logText world loggers (runCommand world request).run.trace, ?_⟩
  rw [runRequest, hsettings]
  simp only [hloggers, outcome, h]

/-- The command that prints a value, of a program that is valid over the source.  A value that can
be quoted in a message has a tree with a text.  If there is such a text, the command prints it.
Otherwise it ends with an internal error and prints nothing.

The tree has forms in JSON, and its floating point numbers are shown in the value.  The text is
JSON exactly if they are finite. -/
theorem shown_json {v : Value} (hverb : request.verb = .print) (htarget : Targets world request p)
    (hsource : (sourceOf world request).run.outcome = .ok (.ok source))
    (hresult : (p.run validating source .root).outcome = .ok (.valid v)) :
    let shown := runRequest world request
    let text? := valueText? (request.target.getD []).strip request.json
    (v.quoted?.isSome = true → ∃ tree text, v.tree? = some tree ∧ text? tree = some text) ∧
    (∀ tree text, v.tree? = some tree → text? tree = some text →
      (shown.code = 0 ∧ shown.out = text) ∧ tree.IsTree v.Shows ∧
        (Json.IsJson shown.out ↔ tree.IsTree fun x => x.isFinite = true)) ∧
    (v.tree?.bind text? = none → shown.code = 4 ∧ shown.out = []) ∧
    (v.quoted?.isSome = true → (∀ x, v.Shows x → x.isFinite = true) → Json.IsJson shown.out) := by
  intro shown text?
  have hexists : v.quoted?.isSome = true →
      ∃ tree text, v.tree? = some tree ∧ text? tree = some text := by
    intro hquoted
    obtain ⟨htree, hwritable⟩ := Value.prints_of_quoted hquoted
    obtain ⟨tree, htree⟩ := Option.isSome_iff_exists.mp htree
    obtain ⟨text, htext, -⟩ := Report.ofShow_valid (request.target.getD []).strip request.json htree
      (hwritable tree htree)
    exact ⟨tree, text, htree, htext⟩
  have hprinted : ∀ tree text, v.tree? = some tree → text? tree = some text →
      (shown.code = 0 ∧ shown.out = text) ∧ tree.IsTree v.Shows ∧
        (Json.IsJson shown.out ↔ tree.IsTree fun x => x.isFinite = true) := by
    intro tree text htree htext
    have hbind : v.tree?.bind (valueText? (request.target.getD []).strip request.json) =
        some text := by rw [htree, Option.bind_some, ← htext]
    have hreport : Report.ofShow (request.target.getD []).strip request.json (.valid v) =
        .ok ⟨.success, [text]⟩ := by rw [Report.ofShow_eq, hbind]
    obtain ⟨hcode, hout⟩ := report_of_show htarget hsource hresult hverb hreport
    rw [Report.out_single] at hout
    have hshown := Value.isTree_tree? htree
    refine ⟨⟨hcode, hout⟩, hshown, ?_⟩
    rw [hout]
    exact isJson_valueText?_iff hshown htext
  refine ⟨hexists, hprinted, fun hnone => ?_, fun hquoted hfinite => ?_⟩
  · have hreport : Report.ofShow (request.target.getD []).strip request.json (.valid v) =
        .error (.integerTooLong none) := by rw [Report.ofShow_eq, hnone]
    obtain ⟨settings, hsettings⟩ := htarget.settings
    obtain ⟨b, hb, rfl⟩ := htarget.program
    have hcommand : (runCommand world request).run.outcome =
        .error (Failure.integerTooLong none).raised := by
      rw [runCommand_print hb hsource hresult hverb, hreport]
      rfl
    obtain ⟨log, hlog⟩ := runRequest_of_raised hsettings hcommand
    simp only [shown, hlog]
    exact ⟨rfl, rfl⟩
  · obtain ⟨tree, text, htree, htext⟩ := hexists hquoted
    obtain ⟨-, hshown, hjson⟩ := hprinted tree text htree htext
    exact hjson.mpr (hshown.mono hfinite)

/-- A tuple of a number and a text. -/
theorem shown_json_of_tuple :
    let v : Value := .tuple [.float (.ofRatio false 1 2), .text "a\"b"]
    let b : Blueprint := .ofParts "Pure" [] (.pure v)
    let world : World := ⟨[("app", [("settings", .program b)])], [], [], ⟨[], [], []⟩, [], .usual⟩
    let request : Request :=
      ⟨.print, some "app:settings", .null, false, false, false, [], .null, ["port=x"]⟩
    (runRequest world request).out = "[\n  0.5,\n  \"a\\\"b\"\n]\n" ∧
      Json.IsJson (runRequest world request).out := by
  intro v b world request
  have htarget : Targets world request (.pure v) := ⟨⟨_, rfl⟩, ⟨b, rfl, rfl⟩⟩
  have hfinite : ∀ x, v.Shows x → x.isFinite = true := by
    intro x (hx : (Value.tuple _).Shows x)
    cases hx with
    | part h hx =>
        obtain rfl | h := List.mem_cons.mp h
        · cases hx with
          | here => decide +kernel
          | part h _ => cases h
        · obtain rfl := List.mem_singleton.mp h
          cases hx with
          | part h _ => cases h
  have hquoted : v.quoted?.isSome = true := rfl
  obtain ⟨-, -, -, hjson⟩ := @shown_json world request (.pure v) _ v rfl htarget rfl rfl
  exact ⟨by decide +kernel, hjson hquoted hfinite⟩

/-- A number that is none is printed as no JSON text has it. -/
theorem nan_shown :
    let b : Blueprint := .ofParts "Pure" [] (.pure (.float .nan))
    let world : World := ⟨[("m", [("P", .program b)])], [], [], ⟨[], [], []⟩, [], .usual⟩
    (run world ["show", "m:P", "--set", "a=b"]).code = 0 ∧
      (run world ["show", "m:P", "--set", "a=b"]).out = "NaN\n" ∧ ¬ Json.IsJson "NaN\n" := by
  intro b world
  have hstray : Json.IsStray "NaN\n" := fun _ => rfl
  exact ⟨rfl, by decide +kernel, fun h => h.isClean.not_isStray hstray⟩

end CommandLine

end ConfigReader
