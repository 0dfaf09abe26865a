import ConfigReader.CommandLine
import ConfigReader.Logging.Bound
import ConfigReader.Proofs.Loading

/-!
# Messages of the library

A bound logger may use some fields of a call and change its message.  A call is *plain* if it has
none of these fields and does not ask for an error.  Bound loggers hand the message of a plain call
on as it is, if its level counts (`BoundLogger.HandsOn`), and the one that is used by default does
(`BoundLogger.handsOn_usual`).

All calls of the library are plain (`Source.isPlain_loadAll`, `Run.isPlain_reported`,
`CommandLine.isPlain_failedEntry`).  So whatever bound logger hands them on, their messages are
logged as they are and raise no error (`Loggers.logBy_of_plain`, `Loggers.exists_logBy`).
-/

namespace ConfigReader

/-! ## Plain calls -/

namespace LogCall

/-- The fields that a bound logger may use. -/
def usedFields : List Text :=
  [Fields.positional, Fields.asksError, Fields.asksStack, "self", "event", "method_name"]

/-- Nothing in the call is used by a bound logger, and nothing is part of a message already. -/
structure IsPlain (c : LogCall) : Prop where
  /-- The call does not ask for the error at hand. -/
  method : c.method ≠ .exception
  /-- No field is used. -/
  fields : ∀ field ∈ c.fields, field.1 ∉ usedFields
  /-- No field is part of a message already. -/
  unreserved : ∀ field ∈ c.fields, field.1 ∉ reservedFields

end LogCall

namespace Fields

variable {fields : Fields} {name : Text}

theorem lookup_of_unused (h : ∀ field ∈ fields, field.1 ≠ name) : List.lookup name fields = none := by
  refine List.lookup_eq_none_iff.mpr fun field hfield => ?_
  exact bne_iff_ne.mpr (h field hfield).symm

theorem without_of_unused (h : ∀ field ∈ fields, field.1 ≠ name) : fields.without name = fields :=
  List.filter_eq_self.mpr fun field hfield => decide_eq_true (h field hfield)

theorem any_of_unused (h : ∀ field ∈ fields, field.1 ≠ name) :
    fields.any (fun field => field.1 = name) = false :=
  List.any_eq_false.mpr fun field hfield => by simpa using h field hfield

end Fields

namespace LogCall.IsPlain

variable {c : LogCall} (h : c.IsPlain)

include h

theorem unused (name : Text) (hname : name ∈ usedFields) : ∀ field ∈ c.fields, field.1 ≠ name := by
  rintro field hfield rfl
  exact h.fields field hfield hname

theorem clash? : c.fields.clash? c.method = none := by
  have hself := Fields.any_of_unused (h.unused "self" (by decide))
  have hevent := Fields.any_of_unused (h.unused "event" (by decide))
  have hmethod := Fields.any_of_unused (h.unused "method_name" (by decide))
  simp only [Fields.clash?, hself, hevent, hmethod, Bool.false_eq_true, if_false]

/-- The message of a plain call is handed on as it is. -/
theorem filled : c.filled = .ok c.entry := by
  have hpositional := Fields.lookup_of_unused (h.unused Fields.positional (by decide))
  have herror := h.unused Fields.asksError (by decide)
  have hstack := h.unused Fields.asksStack (by decide)
  obtain ⟨logger, method, event, fields⟩ := c
  cases method with
  | exception => exact absurd rfl h.method
  | _ =>
      simp only [LogCall.filled, fillPositional, hpositional, Except.map,
        Fields.without_of_unused hstack, Fields.withError, Fields.lookup_of_unused herror,
        Fields.without_of_unused herror]
      rfl

end LogCall.IsPlain

/-! ## Bound loggers -/

/-- A bound logger hands the messages of plain calls on as they are, and drops those that do not
count. -/
structure BoundLogger.HandsOn (bound : BoundLogger) : Prop where
  /-- A plain call that counts. -/
  counting : ∀ {counts : Int → Bool} {c : LogCall}, c.IsPlain → counts c.method.level = true →
    bound.handOn counts c = .ok (some c.entry)
  /-- A plain call that does not count. -/
  dropping : ∀ {counts : Int → Bool} {c : LogCall}, c.IsPlain → counts c.method.level = false →
    bound.handOn counts c = .ok none

/-- The bound logger that is used by default hands messages on. -/
theorem BoundLogger.handsOn_usual : BoundLogger.usual.HandsOn := by
  constructor <;> intro counts c hc hcounts
  · simp only [usual, hc.clash?, hcounts, hc.filled, if_true]
    rfl
  · simp only [usual, hc.clash?, hcounts, Bool.false_eq_true, if_false]

namespace Loggers

variable {loggers : Loggers} {bound : BoundLogger} {timestamp : Text} {c : LogCall}

/-- A plain call logs its message, whatever bound logger hands it on. -/
theorem logBy_of_plain (hbound : bound.HandsOn) (hc : c.IsPlain) :
    loggers.logBy bound timestamp c = loggers.log timestamp c.entry := by
  unfold logBy
  by_cases hcounts : loggers.effectiveLevel c.logger ≤ c.method.level
  · rw [hbound.counting hc (decide_eq_true hcounts)]
  · have hlow : c.entry.level < loggers.effectiveLevel c.entry.logger := Int.not_le.mp hcounts
    rw [hbound.dropping hc (decide_eq_false hcounts), log, if_pos hlow]

/-- A message without a field that it has already can be logged. -/
theorem exists_log {e : LogEntry} (h : ∀ field ∈ e.fields, field.1 ∉ reservedFields) :
    ∃ written, loggers.log timestamp e = .ok written := by
  unfold log
  split
  · exact ⟨_, rfl⟩
  · split
    · next name v hfind =>
      have hreserved := List.find?_some hfind
      exact absurd (List.contains_iff_mem.mp hreserved) (h _ (List.mem_of_find?_eq_some hfind))
    · dsimp only
      split
      · split <;> exact ⟨_, rfl⟩
      · exact ⟨_, rfl⟩

/-- A plain call raises no error, whatever bound logger hands it on. -/
theorem exists_logBy (hbound : bound.HandsOn) (hc : c.IsPlain) :
    ∃ written, loggers.logBy bound timestamp c = .ok written := by
  rw [logBy_of_plain hbound hc]
  exact exists_log hc.unreserved

end Loggers

/-! ## Messages of runs -/

/-- An event that logs nothing but a plain call. -/
def Event.IsPlain (e : Event) : Prop := ∀ c, e.logged? = some c → c.IsPlain

theorem Event.isPlain_log {c : LogCall} (h : c.IsPlain) : (Event.log c).IsPlain := by
  rintro _ ⟨⟩
  exact h

/-- A run leaves plain events only. -/
def Run.IsPlain {α : Type} (r : Run α) : Prop := ∀ e ∈ r.trace, e.IsPlain

namespace Run

variable {α β : Type}

theorem isPlain_ofExcept (x : Except Failure α) : (ofExcept x).IsPlain := by
  cases x <;> exact nofun

theorem isPlain_emit {e : Event} (h : e.IsPlain) : (emit e).IsPlain :=
  fun _ he => List.mem_singleton.mp he ▸ h

theorem IsPlain.bind {x : Run α} {f : α → Run β} (hx : x.IsPlain) (hf : ∀ a, (f a).IsPlain) :
    (x >>= f).IsPlain := by
  change ∀ e ∈ (Run.bind x f).trace, e.IsPlain
  unfold Run.bind
  split
  · exact hx
  · exact List.forall_mem_append.mpr ⟨hx, hf _⟩

theorem isPlain_mapM {f : α → Run β} (hf : ∀ a, (f a).IsPlain) :
    ∀ l : List α, (l.mapM f).IsPlain
  | [] => by
      rw [List.mapM_nil]
      exact nofun
  | a :: l => by
      rw [List.mapM_cons]
      exact (hf a).bind fun b => (isPlain_mapM hf l).bind fun _ => nofun

end Run

/-! ## Messages of the library -/

theorem Source.isPlain_loadedCall (format : Format) (p : FilePath) (count : Nat) :
    (loadedCall format p count).IsPlain := by
  refine ⟨nofun, ?_, ?_⟩ <;> simp only [loadedCall, List.forall_mem_cons]
  · exact ⟨by decide, by decide, by decide, nofun⟩
  · exact ⟨by decide, by decide, by decide, nofun⟩

/-- What loading files logs is plain. -/
theorem Source.isPlain_loadAll (readers : Readers) (files : Files) (paths : List Text)
    (given : Value) : (loadAll readers files paths given).IsPlain := by
  have hfile : ∀ format p, (fromFile readers files format p).IsPlain := by
    intro format p
    have hemit : ∀ count, (Run.emit (.log (loadedCall format p count))).IsPlain := fun count =>
      Run.isPlain_emit (Event.isPlain_log (isPlain_loadedCall format p count))
    by_cases hformat : format = .properties
    · subst hformat
      exact (Run.isPlain_ofExcept _).bind fun entries => (hemit _).bind fun _ => nofun
    · rw [fromFile_eq hformat]
      refine (Run.isPlain_ofExcept _).bind fun w => ?_
      cases w.entryCount? with
      | none => exact nofun
      | some count =>
          refine (hemit count).bind fun _ => ?_
          cases readers.copyFault? w <;> exact nofun
  have hload : ∀ path, (load readers files path given).IsPlain := by
    intro path
    refine (Run.isPlain_ofExcept _).bind fun p => (Run.isPlain_ofExcept _).bind fun format =>
      (Run.isPlain_ofExcept _).bind fun found => ?_
    split
    · exact hfile format p
    · exact nofun
  unfold loadAll
  split
  · exact nofun
  · exact (Run.isPlain_mapM hload paths).bind fun _ => Run.isPlain_ofExcept _

/-- An evaluation logs what the program logs, and a plain message at its end. -/
theorem Run.isPlain_reported {α : Type} (strategy : Text) (r : Run α) :
    ∀ e ∈ (r.reported strategy).trace, e ∈ r.trace ∨ e.IsPlain := by
  have hentry : ∀ (message : Text) (fields : Fields),
      (∀ field ∈ fields, field.1 ∈ (["strategy", "path", "kind"] : List Text)) →
        (evaluationEntry message fields).IsPlain := by
    intro message fields hfields
    have hnames : ∀ name ∈ (["strategy", "path", "kind"] : List Text),
        name ∉ LogCall.usedFields ∧ name ∉ reservedFields := by decide
    refine Event.isPlain_log ⟨nofun, fun field hfield => ?_, fun field hfield => ?_⟩
    · exact (hnames _ (hfields field hfield)).1
    · exact (hnames _ (hfields field hfield)).2
  have hadded : ∀ {entry : Event}, entry.IsPlain →
      ∀ e ∈ r.trace ++ [entry], e ∈ r.trace ∨ e.IsPlain := by
    intro entry hentry e he
    obtain he | he := List.mem_append.mp he
    · exact .inl he
    · exact .inr (List.mem_singleton.mp he ▸ hentry)
  unfold reported
  split
  · exact hadded (hentry _ _ (by simp))
  · split
    · exact hadded (hentry _ _ (by simp))
    · exact fun e he => .inl he

/-- The message that a check failed is plain. -/
theorem CommandLine.isPlain_failedEntry (target : Text) (count : Nat) :
    (failedEntry target count).IsPlain := by
  refine Event.isPlain_log ⟨nofun, ?_, ?_⟩ <;> simp only [List.forall_mem_cons]
  · exact ⟨by decide, by decide, nofun⟩
  · exact ⟨by decide, by decide, nofun⟩

end ConfigReader
