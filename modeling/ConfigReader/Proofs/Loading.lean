import ConfigReader.CommandLine
import ConfigReader.Proofs.Lookups

/-!
# Loading files

A file is opened, decoded and read before there is a source.  Most of what can go wrong on
the way is a source fault: nothing can be opened, the text does not follow its format, the
document is no mapping.  Such a load is *contained*, and the front end refuses the command.
Three things are not contained: bytes that are not UTF-8, a reader that fails in a way of its
own, and a document with too much within each other to be copied.
`CommandLine.load_contained_iff` says that there is nothing else, whatever the readers are.
-/

namespace ConfigReader

/-- A file in the working directory opens under its name. -/
theorem Files.opened_here {files : Files} {name : Text} {bytes : List Nat}
    (hbytes : Utf8.encodingFault? Utf8.isEscape 0 name = none)
    (hzero : name.contains (.scalar (Char.ofNat 0)) = false)
    (hshort : Utf8.length name ≤ longestName) (hempty : name ≠ []) (habove : name ≠ above)
    (hentry : files.entry? (files.here ++ [name]) = some (.file bytes)) :
    files.opened ⟨[], [name]⟩ = .content bytes := by
  have htext : (FilePath.mk [] [name]).text = name := by
    simp [FilePath.text, Text.join, hempty]
  have hpath : ¬ Utf8.length name > longestPath :=
    Nat.not_lt.mpr (Nat.le_trans hshort (by decide))
  have hnext : (descend files.here.reverse name).reverse = files.here ++ [name] := by
    simp [descend, habove]
  have hfollow : files.follow [name] files.here.reverse = .content bytes := by
    unfold follow
    simp only [Nat.not_lt.mpr hshort, if_false, hnext, hentry]
  have horigin : files.origin ⟨[], [name]⟩ = files.here.reverse := rfl
  simp only [opened, htext, hbytes, List.any_cons, hzero, List.any_nil, Bool.or_self,
    Bool.false_eq_true, if_false, hpath, horigin, hfollow]

theorem Run.ofExcept_ok {α : Type} (a : α) : Run.ofExcept (.ok a) = (pure a : Run α) := rfl

namespace Source

variable {readers : Readers} {files : Files} {p : FilePath} {bytes : List Nat}

/-- The run gives a source, or ends with a source fault. -/
def Contained (r : Run Source) : Prop :=
  (∃ s, r.outcome = .ok s) ∨ ∃ cause, r.outcome = .error (Failure.source cause).raised

/-- The document can be copied, if it is a mapping. -/
def Copied (readers : Readers) (w : Web) : Prop :=
  w.entryCount?.isSome = true → readers.copyFault? w = none

theorem contained_of_error {r : Run Source} {f : Failure} (h : r.outcome = .error f.raised) :
    Contained r ↔ ∃ cause, f = .source cause := by
  constructor
  · rintro (⟨s, hs⟩ | ⟨cause, hcause⟩)
    · rw [h] at hs
      cases hs
    · rw [h] at hcause
      exact ⟨cause, congrArg Raised.failure (Except.error.inj hcause)⟩
  · rintro ⟨cause, rfl⟩
    exact .inr ⟨cause, h⟩

/-! ## Files that are there -/

theorem bytes_of_content (hopened : files.opened p = .content bytes) (format : Format) :
    files.bytes format p = .ok bytes := by
  rw [Files.bytes, hopened]

theorem exists_undecodable (format : Format) (bytes : List Nat) (fault : Utf8.Fault) :
    ∃ reason, Files.undecodable format bytes fault = .undecodable reason := by
  cases format <;> exact ⟨_, rfl⟩

theorem load_eq_fromFile {path : Text} {given : Value} {format : Format}
    (hp : (FilePath.parse path).expandHome files.home = .ok p)
    (hformat : formatGiven p given = .ok format) (hopened : files.opened p = .content bytes) :
    load readers files path given = fromFile readers files format p := by
  have hhas : files.has p = .ok true := by rw [Files.has, hopened]
  simp only [load, hp, hformat, hhas, Run.ofExcept_ok, pure_bind, if_true]

/-- A load of bytes that are no text ends with what the reader says to them, if it does not come
to the first fault, and otherwise with the fault. -/
theorem fromFile_of_fault (hopened : files.opened p = .content bytes) {fault : Utf8.Fault}
    (hfault : Utf8.decode bytes = .error fault) (format : Format) :
    ((∃ detail, readers.stops? format bytes = some detail) ∧
      ∃ cause, (fromFile readers files format p).outcome = .error (Failure.source cause).raised) ∨
    readers.stops? format bytes = none ∧
      ∃ reason, (fromFile readers files format p).outcome =
        .error (Failure.undecodable reason).raised := by
  have hbytes := bytes_of_content hopened format
  obtain ⟨reason, hreason⟩ := exists_undecodable format bytes fault
  by_cases hproperties : format = .properties
  · subst hproperties
    refine .inr ⟨rfl, reason, ?_⟩
    have htable : tableIn files p = .error (.undecodable reason) := by
      simp only [tableIn, hbytes, hfault, hreason]
    simp only [fromFile, htable]
    rfl
  · cases hstops : readers.stops? format bytes with
    | some detail =>
        have hdocument : documentIn readers files format p =
            .error (.source (.invalid format p.text detail)) := by
          simp only [documentIn, hbytes, hfault, hstops]
        refine .inl ⟨⟨detail, rfl⟩, .invalid format p.text detail, ?_⟩
        cases format with
        | properties => exact absurd rfl hproperties
        | _ =>
            simp only [fromFile, hdocument]
            rfl
    | none =>
        have hdocument : documentIn readers files format p = .error (.undecodable reason) := by
          simp only [documentIn, hbytes, hfault, hstops, hreason]
        refine .inr ⟨rfl, reason, ?_⟩
        cases format with
        | properties => exact absurd rfl hproperties
        | _ =>
            simp only [fromFile, hdocument]
            rfl

/-- A properties file that can be decoded is contained. -/
theorem contained_properties (hopened : files.opened p = .content bytes) {t : Text}
    (ht : Utf8.decode bytes = .ok t) : Contained (fromFile readers files .properties p) := by
  have hbytes := bytes_of_content hopened .properties
  simp only [fromFile, tableIn, hbytes, ht]
  cases Properties.parse t.universalNewlines with
  | error f => exact .inr ⟨_, rfl⟩
  | ok entries => exact .inl ⟨_, rfl⟩

/-- What a load comes to when the reader has answered. -/
def documentEnd (readers : Readers) (format : Format) (p : FilePath)
    (parsed : Except ReaderFault Web) : Except Raised Source :=
  match parsed with
  | .ok w =>
      if w.entryCount?.isSome then
        match readers.copyFault? w with
        | none => .ok (ofWeb p.text w)
        | some said => .error (Failure.builtin "RecursionError" said).raised
      else .error (Failure.source (.fileRoot p.text)).raised
  | .error (.invalid detail) => .error (Failure.source (.invalid format p.text detail)).raised
  | .error (.failed f) => .error f.raised

/-- A document becomes a source once it is there, if it is a mapping that can be copied. -/
theorem fromFile_eq {format : Format} (hformat : format ≠ .properties) :
    fromFile readers files format p = Run.bind (Run.ofExcept (documentIn readers files format p))
      fun w => w.entryCount?.elim (Run.raise (Failure.source (.fileRoot p.text)).raised)
        fun count => Run.bind (Run.emit (.log (loadedCall format p count))) fun _ =>
          (readers.copyFault? w).elim (Run.pure (ofWeb p.text w))
            fun said => Run.raise (Failure.builtin "RecursionError" said).raised := by
  cases format with
  | properties => exact absurd rfl hformat
  | _ =>
      refine congrArg (Run.bind _) (funext fun w => ?_)
      cases w.entryCount? with
      | none => rfl
      | some count => cases readers.copyFault? w <;> rfl

/-- The load of a document from its text. -/
theorem fromFile_document (hopened : files.opened p = .content bytes) {t : Text}
    (ht : Utf8.decode bytes = .ok t) {format : Format} (hformat : format ≠ .properties) :
    (fromFile readers files format p).outcome =
      documentEnd readers format p (readers.document format t) := by
  have hbytes := bytes_of_content hopened format
  rw [fromFile_eq hformat, Run.outcome_bind]
  simp only [documentIn, hbytes, ht]
  cases readers.document format t with
  | error fault => cases fault <;> rfl
  | ok w =>
      simp only [Run.ofExcept, Except.bind, documentEnd]
      cases w.entryCount? with
      | none => rfl
      | some count =>
          rw [Option.elim, Run.outcome_bind]
          cases readers.copyFault? w <;> rfl

/-- A document whose reader has answered is contained if it can be copied. -/
theorem documentEnd_contained_iff {format : Format} {parsed : Except ReaderFault Web}
    {r : Run Source} (hr : r.outcome = documentEnd readers format p parsed)
    (hreader : ∀ f, parsed ≠ .error (.failed f)) :
    Contained r ↔ ∀ w, parsed = .ok w → Copied readers w := by
  cases parsed with
  | error fault => cases fault with
    | failed f => exact absurd rfl (hreader f)
    | invalid detail => exact ⟨fun _ w hw => (nomatch hw), fun _ => .inr ⟨_, hr⟩⟩
  | ok w =>
      have hcopied : (∀ w', Except.ok w = (.ok w' : Except ReaderFault Web) → Copied readers w') ↔
          Copied readers w := ⟨fun h => h w rfl, fun h w' hw' => Except.ok.inj hw' ▸ h⟩
      rw [hcopied]
      by_cases hsome : w.entryCount?.isSome = true
      · cases hcopy : readers.copyFault? w with
        | none =>
            simp only [documentEnd, hsome, hcopy, if_true] at hr
            exact ⟨fun _ _ => hcopy, fun _ => .inl ⟨_, hr⟩⟩
        | some said =>
            simp only [documentEnd, hsome, hcopy, if_true] at hr
            rw [contained_of_error hr]
            constructor
            · rintro ⟨cause, hcause⟩
              cases hcause
            · intro h
              cases hcopy.symm.trans (h hsome)
      · simp only [documentEnd, hsome, Bool.false_eq_true, if_false] at hr
        exact ⟨fun _ h => absurd h hsome, fun _ => .inr ⟨_, hr⟩⟩

/-- The errors that a document can end with behind its reader. -/
theorem documentEnd_error {format : Format} {parsed : Except ReaderFault Web} {e : Raised}
    (h : documentEnd readers format p parsed = .error e)
    (hreader : ∀ f, parsed ≠ .error (.failed f)) :
    (∃ cause, e = (Failure.source cause).raised) ∨
      ∃ said, e = (Failure.builtin "RecursionError" said).raised := by
  cases parsed with
  | error fault => cases fault with
    | failed f => exact absurd rfl (hreader f)
    | invalid detail => exact .inl ⟨_, (Except.error.inj h).symm⟩
  | ok w =>
      simp only [documentEnd] at h
      split at h
      · split at h
        · cases h
        · exact .inr ⟨_, (Except.error.inj h).symm⟩
      · exact .inl ⟨_, (Except.error.inj h).symm⟩

/-- The reader of a format takes a decoded text, or says that it does not follow the format. -/
def Parses (readers : Readers) (format : Format) (bytes : List Nat) : Prop :=
  format ≠ .properties → ∀ t, Utf8.decode bytes = .ok t →
    ∀ f, readers.document format t ≠ .error (.failed f)

theorem fromFile_contained_iff (hopened : files.opened p = .content bytes) {format : Format}
    (hreader : Parses readers format bytes) :
    Contained (fromFile readers files format p) ↔
      (∃ t, Utf8.decode bytes = .ok t ∧
        (format = .properties ∨ ∀ w, readers.document format t = .ok w → Copied readers w)) ∨
      (∃ fault, Utf8.decode bytes = .error fault) ∧
        ∃ detail, readers.stops? format bytes = some detail := by
  cases ht : Utf8.decode bytes with
  | error fault =>
      obtain ⟨hstops, hsource⟩ | ⟨hstops, reason, hreason⟩ :=
        @fromFile_of_fault readers _ _ _ hopened _ ht format
      · exact ⟨fun _ => .inr ⟨⟨fault, rfl⟩, hstops⟩, fun _ => .inr hsource⟩
      · rw [contained_of_error hreason, hstops]
        constructor
        · rintro ⟨cause, hcause⟩
          cases hcause
        · rintro (⟨t, hdecoded, -⟩ | ⟨-, detail, hdetail⟩)
          · cases hdecoded
          · cases hdetail
  | ok t =>
      by_cases hproperties : format = .properties
      · subst hproperties
        exact ⟨fun _ => .inl ⟨t, rfl, .inl rfl⟩, fun _ => contained_properties hopened ht⟩
      · rw [documentEnd_contained_iff (fromFile_document hopened ht hproperties)
          (hreader hproperties t ht)]
        constructor
        · exact fun h => .inl ⟨t, rfl, .inr h⟩
        · rintro (⟨t', ht', hcopied⟩ | ⟨⟨fault, hfault⟩, -⟩)
          · cases ht'
            exact hcopied.resolve_left hproperties
          · cases hfault

/-- The errors that are not contained. -/
theorem fromFile_error (hopened : files.opened p = .content bytes) {format : Format}
    (hreader : Parses readers format bytes) {e : Raised}
    (h : (fromFile readers files format p).outcome = .error e) :
    (∃ cause, e = (Failure.source cause).raised) ∨
      (∃ reason, e = (Failure.undecodable reason).raised) ∨
      ∃ said, e = (Failure.builtin "RecursionError" said).raised := by
  cases ht : Utf8.decode bytes with
  | error fault =>
      obtain ⟨-, cause, hcause⟩ | ⟨-, reason, hreason⟩ :=
        @fromFile_of_fault readers _ _ _ hopened _ ht format
      · rw [h] at hcause
        exact .inl ⟨cause, Except.error.inj hcause⟩
      · rw [h] at hreason
        exact .inr (.inl ⟨reason, Except.error.inj hreason⟩)
  | ok t =>
      by_cases hproperties : format = .properties
      · subst hproperties
        obtain ⟨s, hs⟩ | ⟨cause, hcause⟩ := @contained_properties readers _ _ _ hopened _ ht
        · rw [h] at hs
          cases hs
        · rw [h] at hcause
          exact .inl ⟨cause, Except.error.inj hcause⟩
      · rw [fromFile_document hopened ht hproperties] at h
        exact (documentEnd_error h (hreader hproperties t ht)).imp_right .inr

/-- The first file that does not load ends the load of several files. -/
theorem loadAll_of_error {before after : List Text} {path : Text} {given : Value} {e : Raised}
    (hbefore : ∀ b ∈ before, ∃ s, (load readers files b given).outcome = .ok s)
    (h : (load readers files path given).outcome = .error e) :
    (loadAll readers files (before ++ path :: after) given).outcome = .error e := by
  have hmap : ((before ++ path :: after).mapM fun path => load readers files path given).outcome =
      .error e := by
    rw [Run.outcome_mapM]
    exact mapM_of_first hbefore h after
  have hsome : (before ++ path :: after).isEmpty = false := by simp
  rw [loadAll, hsome]
  change (Run.bind _ _).outcome = _
  rw [Run.bind_of_error hmap]

end Source

/-! ## Requests that read files -/

namespace CommandLine

variable {α β : Type} {world : World} {request : Request} {e : Raised}

/-- What an error that ends the load of sources makes of a step: a source fault refuses the
command, and any other error goes on. -/
def refusing (e : Raised) : Except Raised (Except Refusal α) :=
  match e.failure with
  | .source cause => .ok (.error (.source cause))
  | _ => .error e

/-- A step after one that has ended so is not taken. -/
theorem bind_of_refusing {s : Step α} (h : s.run.outcome = refusing e) (k : α → Step β) :
    (s >>= k).run.outcome = refusing e := by
  change (Run.bind s.run _).outcome = _
  rw [Run.outcome_bind, h]
  unfold refusing
  split <;> rfl

theorem sourceOf_of_error {pairs : List (Text × Text)}
    (hpairs : request.overrides.mapM readOverride = .ok pairs) (hsources : request.sources ≠ [])
    (h : (Source.loadAll world.platform.readers world.files request.sources
      request.format).outcome = .error e) :
    (sourceOf world request).run.outcome = refusing e := by
  have hsources : request.sources.isEmpty = false := by simp [hsources]
  have hload : (refuseSourceFaults (Source.loadAll world.platform.readers world.files
      request.sources request.format)).run.outcome = refusing e := by
    simp only [refuseSourceFaults, h, refusing]
    cases e.failure <;> rfl
  rw [sourceOf, hpairs]
  simp only [pure_bind, hsources, Bool.and_false, Bool.false_eq_true, if_false]
  exact bind_of_refusing hload _

/-- A request that reads files: its settings and its single keys are in order, and its
program is there if its command is about one. -/
structure Reads (world : World) (request : Request) : Prop where
  /-- The settings can be resolved, and there are loggers for them. -/
  settings : ∃ settings loggers,
    Settings.resolve (settingsOf request) world.environment = .ok settings ∧
      loggersOf settings = .ok loggers
  /-- The single keys can be read. -/
  overrides : ∃ pairs, request.overrides.mapM readOverride = .ok pairs
  /-- The command lists keys, or it is about a program that is there. -/
  program : request.verb = .keys ∨ ((request.verb = .check ∨ request.verb = .print) ∧
    ((request.target.getD []).strip).isEmpty = false ∧
      ∃ b, world.modules.program world.functions (request.target.getD []).strip = .ok b)

/-- The code of a command whose sources do not load. -/
def codeOf (e : Raised) : Nat :=
  match e.failure with
  | .source _ => ExitCode.usage.number
  | _ => (raisedOutcome [] e).code

theorem code_raisedOutcome (log : Text) (e : Raised) :
    (raisedOutcome log e).code = (raisedOutcome [] e).code := by
  unfold raisedOutcome
  split
  · rfl
  · split <;> rfl

theorem code_of_refusing {loggers : Loggers} {s : Step Report} (h : s.run.outcome = refusing e) :
    (outcome world loggers s).code = codeOf e := by
  unfold outcome
  simp only [h]
  unfold refusing codeOf
  cases e.failure <;> first | rfl | exact code_raisedOutcome _ e

theorem runCommand_of_error (hreads : Reads world request) (hsources : request.sources ≠ [])
    (h : (Source.loadAll world.platform.readers world.files request.sources
      request.format).outcome = .error e) :
    (runCommand world request).run.outcome = refusing e := by
  obtain ⟨pairs, hpairs⟩ := hreads.overrides
  have hsource := sourceOf_of_error hpairs hsources h
  obtain hkeys | ⟨hverb, htarget, b, hb⟩ := hreads.program
  · rw [runCommand, hkeys]
    exact bind_of_refusing hsource _
  · have hvalidate : ∀ p, (validate world request p).run.outcome = refusing e :=
      fun p => bind_of_refusing hsource _
    obtain hverb | hverb := hverb
    · rw [runCommand, hverb]
      simp only [htarget, hb, runProgram, hverb]
      exact bind_of_refusing (hvalidate _) _
    · rw [runCommand, hverb]
      simp only [htarget, hb, runProgram, hverb]
      exact bind_of_refusing (hvalidate _) _

theorem code_of_load_error (hreads : Reads world request) (hsources : request.sources ≠ [])
    (h : (Source.loadAll world.platform.readers world.files request.sources
      request.format).outcome = .error e) :
    (runRequest world request).code = codeOf e := by
  obtain ⟨settings, loggers, hsettings, hloggers⟩ := hreads.settings
  rw [runRequest, hsettings]
  simp only [hloggers]
  exact code_of_refusing (runCommand_of_error hreads hsources h)

/-- The load of a file that is there is contained if its bytes are UTF-8 and its document, if
it has one, can be copied.  Bytes that are not UTF-8 are contained only if they go unnoticed,
since the reader finds before that they do not follow the format.  Otherwise the load is not
contained.  A request whose first file that does not load is this one ends with the code for
wrong usage if the load is contained, and with the code for internal errors otherwise. -/
theorem load_contained_iff {readers : Readers} {files : Files} {path : Text} {given : Value}
    {p : FilePath} {format : Format} {bytes : List Nat}
    (hp : (FilePath.parse path).expandHome files.home = .ok p)
    (hformat : Source.formatGiven p given = .ok format)
    (hopened : files.opened p = .content bytes) (hreader : Source.Parses readers format bytes) :
    (Source.Contained (Source.load readers files path given) ↔
      (∃ t, Utf8.decode bytes = .ok t ∧
        (format = .properties ∨
          ∀ w, readers.document format t = .ok w → Source.Copied readers w)) ∨
      (∃ fault, Utf8.decode bytes = .error fault) ∧
        ∃ detail, readers.stops? format bytes = some detail) ∧
    ∀ world request before after, world.platform.readers = readers → world.files = files →
      request.format = given → request.sources = before ++ path :: after → Reads world request →
      (∀ b ∈ before, ∃ s, (Source.load readers files b given).outcome = .ok s) →
      (¬ ∃ s, (Source.load readers files path given).outcome = .ok s) →
      (Source.Contained (Source.load readers files path given) ∧
          (runRequest world request).code = ExitCode.usage.number) ∨
        (¬ Source.Contained (Source.load readers files path given) ∧
          (runRequest world request).code = ExitCode.internal.number) := by
  have hload : Source.load readers files path given = Source.fromFile readers files format p :=
    Source.load_eq_fromFile hp hformat hopened
  refine ⟨by rw [hload]; exact Source.fromFile_contained_iff hopened hreader, ?_⟩
  rintro world request before after rfl rfl rfl hsources hreads hbefore hfails
  cases he : (Source.load world.platform.readers world.files path request.format).outcome with
  | ok s => exact absurd ⟨s, he⟩ hfails
  | error e =>
      have hall : (Source.loadAll world.platform.readers world.files request.sources
          request.format).outcome = .error e := by
        rw [hsources]
        exact Source.loadAll_of_error hbefore he
      have hcode := code_of_load_error hreads (by simp [hsources]) hall
      have herror := he
      rw [hload] at herror
      obtain ⟨cause, rfl⟩ | ⟨reason, rfl⟩ | ⟨said, rfl⟩ :=
        Source.fromFile_error hopened hreader herror
      · exact .inl ⟨.inr ⟨cause, he⟩, hcode⟩
      · refine .inr ⟨?_, hcode⟩
        rw [Source.contained_of_error he]
        exact nofun
      · refine .inr ⟨?_, hcode⟩
        rw [Source.contained_of_error he]
        exact nofun

/-- A JSON file that ends after its first bracket: its load is contained, and the command is
refused. -/
theorem load_contained_unfinished :
    let files : Files := ⟨[(["work", "a.json"], .file [123])], ["work"], "/root"⟩
    let world : World := ⟨[], [], [], files, [], .usual⟩
    let request : Request := { Request.empty .keys with sources := ["a.json"] }
    Source.Contained (Source.load .usual files "a.json" .null) ∧
      (runRequest world request).code = ExitCode.usage.number := by
  intro files world request
  have hp : (FilePath.parse "a.json").expandHome files.home = .ok ⟨[], ["a.json"]⟩ := rfl
  have hformat : Source.formatGiven ⟨[], ["a.json"]⟩ .null = .ok .json := rfl
  have hopened : files.opened ⟨[], ["a.json"]⟩ = .content [123] :=
    Files.opened_here rfl rfl (by decide) nofun (by decide) rfl
  have hdecoded : Utf8.decode [123] = .ok "\x7b" := rfl
  have hparse : Readers.usual.document .json "\x7b" = .error (.invalid "syntax error") := rfl
  have hreader : Source.Parses .usual .json [123] := by
    intro _ t ht f
    rw [hdecoded] at ht
    cases ht
    rw [hparse]
    nofun
  obtain ⟨hcontained, hcode⟩ := load_contained_iff hp hformat hopened hreader
  have hload : Source.Contained (Source.load .usual files "a.json" .null) := by
    refine hcontained.mpr (.inl ⟨_, hdecoded, .inr fun w hw => ?_⟩)
    rw [hparse] at hw
    cases hw
  have hfails : ¬ ∃ s, (Source.load .usual files "a.json" .null).outcome = .ok s := by
    have hjson : Format.json ≠ .properties := by decide
    rw [Source.load_eq_fromFile hp hformat hopened,
      Source.fromFile_document hopened hdecoded hjson, hparse]
    nofun
  have hreads : Reads world request := ⟨⟨_, _, rfl, rfl⟩, ⟨_, rfl⟩, .inl rfl⟩
  refine ⟨hload, ?_⟩
  obtain ⟨-, h⟩ | ⟨h, -⟩ := hcode world request [] [] rfl rfl rfl rfl hreads nofun hfails
  · exact h
  · exact absurd hload h

/-- A file with the single byte 255.  In no format is its load contained, and a command that
lists its keys ends with the code for internal errors. -/
theorem undecodable_file_escapes :
    let files : Files := ⟨[(["work", "a"], .file [255])], ["work"], "/root"⟩
    let world : World := ⟨[], [], [], files, [], .usual⟩
    let request (format : Format) : Request :=
      { Request.empty .keys with sources := ["a"], format := .text format.name }
    files.opened ⟨[], ["a"]⟩ = .content [255] ∧
      (∀ format : Format, ¬ Source.Contained (Source.load .usual files "a" (.text format.name))) ∧
      ∀ format : Format, (runRequest world (request format)).code = ExitCode.internal.number := by
  intro files world request
  have hp : (FilePath.parse "a").expandHome files.home = .ok ⟨[], ["a"]⟩ := rfl
  have hformat : ∀ format : Format,
      Source.formatGiven ⟨[], ["a"]⟩ (.text format.name) = .ok format := by
    intro format
    cases format <;> rfl
  have hopened : files.opened ⟨[], ["a"]⟩ = .content [255] :=
    Files.opened_here rfl rfl (by decide) nofun (by decide) rfl
  have hdecoded : Utf8.decode [255] = .error ⟨[255], 0, .start⟩ := rfl
  have herror : ∀ format : Format, ∃ reason,
      (Source.load .usual files "a" (.text format.name)).outcome =
        .error (Failure.undecodable reason).raised := by
    intro format
    rw [Source.load_eq_fromFile hp (hformat format) hopened]
    obtain ⟨⟨detail, hstops⟩, -⟩ | ⟨-, hreason⟩ :=
      @Source.fromFile_of_fault .usual _ _ _ hopened _ hdecoded format
    · cases format <;> cases hstops
    · exact hreason
  refine ⟨hopened, fun format => ?_, fun format => ?_⟩
  · obtain ⟨reason, h⟩ := herror format
    rw [Source.contained_of_error h]
    exact nofun
  · obtain ⟨reason, h⟩ := herror format
    have hreads : Reads world (request format) := ⟨⟨_, _, rfl, rfl⟩, ⟨_, rfl⟩, .inl rfl⟩
    rw [code_of_load_error hreads nofun (@Source.loadAll_of_error _ _ [] [] _ _ _ nofun h)]
    rfl

end CommandLine

end ConfigReader
