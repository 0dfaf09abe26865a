import ConfigReader.Proofs.Loading
import ConfigReader.Proofs.Replies
import ConfigReader.Proofs.Settings
import ConfigReader.Proofs.Sources

/-!
# Requests

What comes of the arguments of a command before its program is run.  Commands that take a target
read the same arguments alike (`Request.ofWords_withVerb`).  There are loggers for the settings
whenever these can be resolved (`CommandLine.exists_loggers`), and the sources that are loaded are
sources of the library (`CommandLine.built_sourceOf`), so that their errors are known.
-/

namespace ConfigReader

/-! ## Arguments of two commands -/

/-- The request for another command. -/
def Request.withVerb (verb : Verb) (r : Request) : Request := { r with verb := verb }

/-- What is read, for another command. -/
def Reading.withVerb (verb : Verb) : Reading → Reading
  | .request r => .request (r.withVerb verb)
  | .help => .help
  | .refused => .refused

namespace Request

variable {verb : Verb}

theorem set_withVerb (r : Request) (value : Value) (f : Flag) :
    (r.withVerb verb).set value f =
      ((r.set value f).map (withVerb verb)).mapError (Reading.withVerb verb) := by
  cases f with
  | format =>
      simp only [set]
      split
      · rfl
      · split <;> rfl
  | _ => rfl

theorem setAll_withVerb (settings : List (Flag × Value)) (r : Request) :
    (r.withVerb verb).setAll settings =
      ((r.setAll settings).map (withVerb verb)).mapError (Reading.withVerb verb) := by
  induction settings generalizing r with
  | nil => rfl
  | cons setting rest ih =>
      simp only [setAll, List.foldlM_cons] at ih ⊢
      rw [set_withVerb]
      cases r.set setting.2 setting.1 with
      | error reading => rfl
      | ok r => exact ih r

theorem verb_of_set {r r' : Request} {value : Value} {f : Flag} (h : r.set value f = .ok r') :
    r'.verb = r.verb := by
  cases f with
  | help => cases h
  | format =>
      simp only [set] at h
      split at h
      · cases h
        rfl
      · split at h
        · cases h
          rfl
        · cases h
  | _ =>
      cases h
      rfl

/-- No option changes the command. -/
theorem verb_of_setAll {settings : List (Flag × Value)} {r r' : Request}
    (h : r.setAll settings = .ok r') : r'.verb = r.verb := by
  induction settings generalizing r with
  | nil =>
      cases h
      rfl
  | cons setting rest ih =>
      simp only [setAll, List.foldlM_cons] at ih h
      obtain ⟨next, hnext, h⟩ := Except.bind_eq_ok.mp h
      rw [ih h, verb_of_set hnext]

/-- Options that can be set can be set for another command, and change no command. -/
theorem setAll_withVerb_of_ok {settings : List (Flag × Value)} {r r' : Request}
    (hr : r.setAll settings = .ok r') (h : verb.takesTarget = r.verb.takesTarget) :
    (r.withVerb verb).setAll settings = .ok (r'.withVerb verb) ∧
      verb.takesTarget = r'.verb.takesTarget := by
  rw [setAll_withVerb, hr, verb_of_setAll hr]
  exact ⟨rfl, h⟩

theorem needsTarget_withVerb {r : Request} (h : verb.takesTarget = r.verb.takesTarget) :
    (r.withVerb verb).needsTarget = r.needsTarget := by
  rw [needsTarget, needsTarget, ← h]
  rfl

/-- Words are read alike for commands that both take a target, or both do not. -/
theorem ofWords_withVerb (spellings : Spellings) (stray : Bool) (verb : Verb) (r : Request)
    (words : List Word) (h : verb.takesTarget = r.verb.takesTarget) :
    ofWords spellings stray (r.withVerb verb) words =
      (ofWords spellings stray r words).withVerb verb := by
  have htarget : ∀ (r : Request) (t : Text), { r.withVerb verb with target := some t } =
    ({ r with target := some t } : Request).withVerb verb := fun _ _ => rfl
  fun_induction ofWords spellings stray r words with
  | case5 stray r t rest hneeds ih =>
      have hneeds := (needsTarget_withVerb h).trans (Bool.eq_false_iff.mpr hneeds)
      rw [ofWords.eq_def]
      simp only [hneeds, Bool.false_eq_true, if_false]
      exact ih h
  -- options stand in front, and the rest is read for the request with them
  | case11 stray r f short attached rest settings hbundle r' hr ih =>
      obtain ⟨hr', h'⟩ := setAll_withVerb_of_ok hr h
      simp only [ofWords, hbundle, hr', ih h']
  | case13 stray r f short attached settings g hbundle hg t rest r' hr ih =>
      obtain ⟨hr', h'⟩ := setAll_withVerb_of_ok hr h
      simp only [ofWords, hbundle, hg, if_true, hr', ih h']
  | case16 stray r f short attached rest settings g hbundle hg r' hr ih =>
      obtain ⟨hr', h'⟩ := setAll_withVerb_of_ok hr h
      simp only [ofWords, hbundle, hg, Bool.false_eq_true, if_false, hr', ih h']
  | _ =>
      have hneeds := needsTarget_withVerb h
      simp_all [ofWords, setAll_withVerb, Except.map, Except.mapError, Reading.withVerb]

/-- Arguments are read alike for commands with the same options. -/
theorem ofCommand_withVerb (verb verb' : Verb) (stray : Bool) (arguments : List Text)
    (hspellings : Flag.spellings verb' = Flag.spellings verb)
    (htarget : verb'.takesTarget = verb.takesTarget) :
    ofCommand stray verb' arguments = (ofCommand stray verb arguments).withVerb verb' := by
  rw [ofCommand, ofCommand, hspellings]
  cases Word.ofArguments? (Flag.spellings verb) arguments with
  | none => rfl
  | some words => exact ofWords_withVerb _ _ verb' (empty verb) words htarget

/-- A check and the command that prints the value have the same arguments. -/
theorem ofArguments_check {arguments : List Text} {request : Request}
    (h : ofArguments (Text.ofString "check" :: arguments) = .request request) :
    request.verb = .check ∧
      ofArguments (Text.ofString "show" :: arguments) = .request (request.withVerb .print) := by
  have hcheck : ofCommand false .check arguments = .request request := h
  have hself := ofCommand_withVerb .check .check false arguments rfl rfl
  have hshow := ofCommand_withVerb .check .print false arguments rfl rfl
  rw [hcheck] at hself hshow
  exact ⟨congrArg Request.verb (Reading.request.inj hself), hshow⟩

end Request

/-! ## Settings -/

/-- There are loggers for resolved settings. -/
theorem CommandLine.exists_loggers {commandLine : List (Text × Value)}
    {environment : List (Text × Text)} {settings : Settings}
    (h : Settings.resolve commandLine environment = .ok settings) :
    ∃ loggers, loggersOf settings = .ok loggers := by
  obtain ⟨n, hn⟩ := Settings.level_of_resolve h
  exact ⟨_, Loggers.configure_of_name hn _ _ _ _⟩

/-! ## Sources of requests -/

namespace Source

variable {readers : Readers} {files : Files} {source : Source}

theorem built_fromFile {format : Format} {p : FilePath}
    (h : (fromFile readers files format p).outcome = .ok source) : source.Built := by
  by_cases hformat : format = .properties
  · subst hformat
    obtain ⟨entries, -, h⟩ := Run.bind_eq_ok.mp h
    cases h
    exact .flat _ entries
  · rw [fromFile_eq hformat] at h
    obtain ⟨w, -, h⟩ := Run.bind_eq_ok.mp h
    cases hcount : w.entryCount? with
    | none =>
        rw [hcount] at h
        cases h
    | some count =>
        rw [hcount, Option.elim_some] at h
        obtain ⟨_, -, h⟩ := Run.bind_eq_ok.mp h
        cases hcopy : readers.copyFault? w with
        | some said =>
            rw [hcopy] at h
            cases h
        | none =>
            rw [hcopy] at h
            cases h
            exact .web _ w

theorem built_load {path : Text} {given : Value}
    (h : (load readers files path given).outcome = .ok source) : source.Built := by
  obtain ⟨p, -, h⟩ := Run.bind_eq_ok.mp h
  obtain ⟨format, -, h⟩ := Run.bind_eq_ok.mp h
  obtain ⟨found, -, h⟩ := Run.bind_eq_ok.mp h
  cases found with
  | false => cases h
  | true => exact built_fromFile h

theorem built_stack {sources : List Source} (hsources : ∀ s ∈ sources, s.Built)
    (h : stack sources = .ok source) : source.Built := by
  match sources with
  | [] => cases h
  | [s] =>
      cases h
      exact hsources _ List.mem_cons_self
  | s :: t :: rest =>
      cases h
      exact .layered _ hsources

theorem built_loadAll {paths : List Text} {given : Value}
    (h : (loadAll readers files paths given).outcome = .ok source) : source.Built := by
  unfold loadAll at h
  split at h
  · cases h
  · obtain ⟨sources, hsources, h⟩ := Run.bind_eq_ok.mp h
    rw [Run.outcome_mapM] at hsources
    have hbuilt : ∀ s ∈ sources, s.Built := fun s hs =>
      (exists_of_mem_mapM hsources hs).elim fun _ h => built_load h.2
    cases hstack : stack sources with
    | error fault =>
        rw [hstack] at h
        cases h
    | ok s =>
        rw [hstack] at h
        cases h
        exact built_stack hbuilt hstack

end Source

namespace CommandLine

variable {α β : Type} {world : World} {request : Request} {source : Source}

theorem exists_of_bind {s : Step α} {k : α → Step β} {b : β}
    (h : (s >>= k).run.outcome = .ok (.ok b)) :
    ∃ a, s.run.outcome = .ok (.ok a) ∧ (k a).run.outcome = .ok (.ok b) := by
  change (Run.bind s.run _).outcome = _ at h
  obtain ⟨a, hs, h⟩ := Run.bind_eq_ok.mp h
  cases a with
  | error r => cases h
  | ok a => exact ⟨a, hs, h⟩

theorem of_refuseSourceFaults {r : Run α} {a : α}
    (h : (refuseSourceFaults r).run.outcome = .ok (.ok a)) : r.outcome = .ok a := by
  unfold refuseSourceFaults at h
  cases hr : r.outcome with
  | ok b =>
      simp only [hr] at h
      cases h
      rfl
  | error e =>
      simp only [hr] at h
      split at h <;> cases h

/-- The source of a request is a source of the library. -/
theorem built_sourceOf (h : (sourceOf world request).run.outcome = .ok (.ok source)) :
    source.Built := by
  unfold sourceOf at h
  cases hpairs : request.overrides.mapM readOverride with
  | error r =>
      rw [hpairs] at h
      obtain ⟨pairs, h, -⟩ := exists_of_bind h
      cases h
  | ok pairs =>
      simp only [hpairs, pure_bind] at h
      split at h
      · cases h
      · split at h
        · cases h
          exact .flat _ _
        · obtain ⟨below, hbelow, h⟩ := exists_of_bind h
          have hbuilt := Source.built_loadAll (of_refuseSourceFaults hbelow)
          split at h
          · cases h
            exact hbuilt
          · cases h
            refine .layered _ fun s hs => ?_
            obtain rfl | hs := List.mem_cons.mp hs
            · exact .flat _ _
            · rw [List.mem_singleton.mp hs]
              exact hbuilt

end CommandLine

end ConfigReader
