import ConfigReader.Proofs.Agreement

/-!
# Traces of the strategies

`Program.trace` is what a run does, step by step: the lookups it makes and the calls
of functions, each function told by its place in the program.  It is the trace of a
*marked* program over a *recorded* source, whose functions and answers leave one event
each and nothing else.  Marks change no outcome (`Program.outcome_marked`).

`Program.story` is what there is to do, if nothing is skipped for the failure of
something else: every lookup of the program, and a call wherever all lookups below it
are answered.  The accumulating strategies follow the story to its end, or to the call
that raises an error.  The eager strategy stops on the way, at the first failed read.
-/

namespace ConfigReader

/-! ## Marked programs over recorded sources -/

/-- The lookup of an event. -/
def Event.question? : Event → Option Lookup
  | lookup _ question => some question
  | _ => none

/-- The source that leaves one event for a lookup and no other. -/
def Source.recorded (source : Source) : Source :=
  { source with answer := fun q => ⟨[.lookup none q], (source.answer q).outcome⟩ }

/-- The call that leaves one event, the place of the function, and no other. -/
def Run.markedCall {α : Type} (place : Text) (x : Run α) : Run α := ⟨[.call place], x.outcome⟩

namespace Program

/-- The program whose functions leave their places in the trace.  The place of a part is
the place of the whole with a digit for the side it is on. -/
def marked : {α : Type} → Program α → Text → Program α
  | _, pure value, _ => pure value
  | _, scalar kind key, _ => scalar kind key
  | _, scalars key kind, _ => scalars key kind
  | _, records key item, place => records key (item.marked place)
  | _, nested key inner, place => nested key (inner.marked place)
  | _, map program fn, place =>
      map (program.marked (place ++ "0")) fun a => (fn a).markedCall place
  | _, ap fnProgram program, place =>
      ap (map (fnProgram.marked (place ++ "0")) fun f => Run.pure fun a => (f a).markedCall place)
        (program.marked (place ++ "1"))
  | _, unsupported typeName, _ => unsupported typeName

/-- The lookups and calls of a run, in order. -/
def trace {F : Type → Type} {α : Type} (s : Strategy F) (p : Program α) (source : Source)
    (path : KeyPath) : List Event :=
  ((p.marked []).run s source.recorded path).trace

/-- The call of a function at a place, if no read failed below it. -/
def callAt (place : Text) : List ReadFailure → List Event
  | [] => [.call place]
  | _ :: _ => []

/-- All lookups and calls of a program in a scope that no failed read stands against:
every lookup, and the call of every function whose arguments have values. -/
def story (source : Source) : {α : Type} → Program α → KeyPath → Text → List Event
  | _, pure _, _, _ => []
  | _, scalar kind key, path, _ => [.lookup none (.scalar kind (path.resolve key.text))]
  | _, scalars key kind, path, _ =>
      .lookup none (.elements (path.resolve key.text) kind) ::
        (source.elementIds (path.resolve key.text) kind).flatMap fun id =>
          [.lookup none (.scalar kind ((path.child key.text).resolve id))]
  | _, records key item, path, place =>
      .lookup none (.records (path.resolve key.text)) ::
        (source.recordIds (path.resolve key.text)).flatMap fun id =>
          item.story source ((path.child key.text).child id) place
  | _, nested key inner, path, place => inner.story source (path.child key.text) place
  | _, map program _, path, place =>
      program.story source path (place ++ "0") ++ callAt place (program.failures source path)
  | _, ap fnProgram program, path, place =>
      fnProgram.story source path (place ++ "0") ++ (program.story source path (place ++ "1") ++
        callAt place (fnProgram.failures source path ++ program.failures source path))
  | _, unsupported _, _, _ => []

end Program

/-! ## Marks change no outcome -/

section Outcomes

variable {α β : Type}

@[simp] theorem outcome_markedCall (place : Text) (x : Run α) :
    (x.markedCall place).outcome = x.outcome := rfl

@[simp] theorem reply_recorded (source : Source) (q : Lookup) :
    source.recorded.reply q = source.reply q := rfl

/-- The outcome of an answered lookup depends on the reply and what is made of it. -/
theorem outcome_withAnswer {F : Type → Type} {s : Strategy F} {source source' : Source}
    {q : Lookup} {use use' : q.Answer → Run (F β)} (hq : source'.reply q = source.reply q)
    (h : ∀ a, (use' a).outcome = (use a).outcome) :
    (s.withAnswer source' q use').outcome = (s.withAnswer source q use).outcome := by
  rw [Strategy.withAnswer_eq, Strategy.withAnswer_eq, Run.outcome_after, Run.outcome_after, hq]
  cases source.reply q with
  | ok a => exact h a
  | error halt => cases halt <;> rfl

theorem outcome_scalar (source : Source) (path : Text) (kind : Kind) :
    (collecting.scalar source.recorded path kind).outcome =
      (collecting.scalar source path kind).outcome :=
  outcome_withAnswer (reply_recorded source _) fun _ => rfl

theorem outcome_gather {ι : Type} {element element' : ι → Run (Collected α)}
    (h : ∀ i, (element' i).outcome = (element i).outcome) :
    ∀ (ids : List ι) (items : Collected (List α)),
      (collecting.gather element' items ids).outcome = (collecting.gather element items ids).outcome
  | [], items => rfl
  | i :: rest, items => by
      have hi : (element' i).asItem.outcome = (element i).asItem.outcome := by
        simp only [Run.asItem, h i]
      rw [gather_collecting, gather_collecting, Run.outcome_bind, Run.outcome_bind, hi]
      exact congrArg _ (funext fun item => outcome_gather h rest _)

theorem outcome_map_collecting {f f' : α → Run β} (h : ∀ a, (f' a).outcome = (f a).outcome)
    (x : Collected α) : (collecting.map f' x).outcome = (collecting.map f x).outcome := by
  cases x with
  | value a => simp only [collecting, Run.outcome_bind, h a]
  | failed first rest => rfl

/-- Calls of marked functions have the outcomes of the functions. -/
theorem outcome_ap_marked (place : Text) (f : Collected (α → Run β)) (x : Run (Collected α)) :
    ((collecting.map (fun g => Run.pure fun a => (g a).markedCall place) f).bind fun g =>
      x.bind fun a => collecting.ap g a).outcome =
        (x.bind fun a => collecting.ap f a).outcome := by
  cases f with
  | value g =>
      simp only [collecting, Run.pure_bind, Run.outcome_bind]
      refine congrArg _ (funext fun a => ?_)
      cases a with
      | value a => simp only [Run.outcome_bind, outcome_markedCall]
      | failed first rest => rfl
  | failed first rest => simp only [collecting, Run.pure_bind]

/-- A marked program over a recorded source has the outcome of the program. -/
theorem Program.outcome_marked (p : Program α) (source : Source) (path : KeyPath) (place : Text) :
    ((p.marked place).run collecting source.recorded path).outcome =
      (p.run collecting source path).outcome := by
  induction p generalizing path place with
  | pure value => rfl
  | scalar kind key => exact outcome_scalar source _ kind
  | scalars key kind =>
      exact outcome_withAnswer rfl fun ids =>
        outcome_gather (fun id => outcome_scalar source _ kind) ids _
  | records key item ih =>
      exact outcome_withAnswer rfl fun ids => outcome_gather (fun id => ih _ place) ids _
  | nested key inner ih => exact ih _ place
  | map program fn ih =>
      rw [marked, run, run, Run.outcome_bind, Run.outcome_bind, ih]
      exact congrArg _ (funext fun x => outcome_map_collecting (fun a => outcome_markedCall place (fn a)) x)
  | ap fnProgram program ihf iha =>
      rw [marked, run, run, run, Run.bind_assoc, Run.outcome_bind, Run.outcome_bind, ihf]
      refine congrArg _ (funext fun f => ?_)
      rw [outcome_ap_marked, Run.outcome_bind, Run.outcome_bind, iha]
  | unsupported typeName => rfl

/-- A marked program over a recorded source ends an eager run like the program. -/
theorem Program.ending_marked (p : Program α) (source : Source) (path : KeyPath) (place : Text) :
    (p.marked place).ending source.recorded path = p.ending source path := by
  induction p generalizing path place with
  | pure value => rfl
  | scalar kind key => rfl
  | scalars key kind => rfl
  | records key item ih => simp only [marked, ending, reply_recorded, ih]
  | nested key inner ih => exact ih _ place
  | map program fn ih =>
      rw [marked, ending, ending, ih]
      rfl
  | ap fnProgram program ihf iha =>
      rw [marked, ending, ending, ending, ihf, iha]
      cases fnProgram.ending source path <;> rfl
  | unsupported typeName => rfl

end Outcomes

/-! ## Runs that follow a story -/

/-- The events of a run are those of the story, unless an error ends it before. -/
def Follows {α : Type} (story : List Event) (x : Run α) : Prop :=
  x.trace <+: story ∧ ∀ a, x.outcome = .ok a → x.trace = story

namespace Follows

variable {α β : Type} {story more : List Event}

theorem pure (a : α) : Follows [] (Run.pure a) := ⟨List.prefix_rfl, fun _ _ => rfl⟩

theorem raise (e : Raised) : Follows story (Run.raise e : Run α) :=
  ⟨List.nil_prefix, fun _ h => nomatch h⟩

theorem asItem {x : Run α} (h : Follows story x) : Follows story x.asItem :=
  ⟨h.1, fun a ha => h.2 a (Run.asItem_eq_ok.mp ha)⟩

/-- One story after another. -/
theorem bind {x : Run α} {k : α → Run β} (h : Follows story x)
    (hk : ∀ a, x.outcome = .ok a → Follows more (k a)) : Follows (story ++ more) (x.bind k) := by
  cases hx : x.outcome with
  | error e =>
      rw [Run.bind_of_error hx]
      exact ⟨h.1.trans (List.prefix_append story more), fun _ hb => nomatch hb⟩
  | ok a =>
      rw [Run.bind_of_ok hx, h.2 a hx]
      refine ⟨(List.prefix_append_right_inj story).mpr (hk a hx).1, fun b hb => ?_⟩
      exact congrArg (story ++ ·) ((hk a hx).2 b hb)

theorem withAnswer {source : Source} {q : Lookup} {use : q.Answer → Run (Collected β)}
    (hok : ∀ a, source.reply q = .ok a → Follows story (use a))
    (hhalt : ∀ halt, source.reply q = .error halt → story = []) :
    Follows (.lookup none q :: story) (collecting.withAnswer source.recorded q use) := by
  rw [Strategy.withAnswer_eq, reply_recorded]
  have hafter : ∀ {x : Run (Collected β)}, Follows story x →
      Follows (.lookup none q :: story) (x.after [.lookup none q]) := fun hx =>
    ⟨List.cons_prefix_cons.mpr ⟨rfl, hx.1⟩, fun a ha => congrArg (_ :: ·) (hx.2 a ha)⟩
  refine hafter ?_
  cases hr : source.reply q with
  | ok a => exact hok a hr
  | error halt => cases halt with
    | unread f =>
        rw [hhalt _ hr]
        exact .pure _
    | raised e => exact .raise e

theorem scalar (source : Source) (path : Text) (kind : Kind) :
    Follows [.lookup none (.scalar kind path)] (collecting.scalar source.recorded path kind) :=
  .withAnswer (fun a _ => .pure (Collected.value a)) fun _ _ => rfl

/-- The stories of elements follow each other. -/
theorem gather {ι : Type} {element : ι → Run (Collected α)} {stories : ι → List Event}
    (h : ∀ i, Follows (stories i) (element i)) :
    ∀ (ids : List ι) (items : Collected (List α)),
      Follows (ids.flatMap stories) (collecting.gather element items ids)
  | [], items => .pure items
  | i :: rest, items => by
      rw [gather_collecting, List.flatMap_cons]
      exact (h i).asItem.bind fun item _ => gather h rest _

theorem markedCall (place : Text) (x : Run α) : Follows [.call place] (x.markedCall place) :=
  ⟨List.prefix_rfl, fun _ _ => rfl⟩

/-- A function is called with a value, and with nothing else. -/
theorem map (place : Text) (fn : α → Run β) (x : Collected α) :
    Follows (Program.callAt place x.failures)
      (collecting.map (fun a => (fn a).markedCall place) x) := by
  cases x with
  | value a => exact (markedCall place (fn a)).bind fun b _ => .pure (Collected.value b)
  | failed first rest => exact .pure _

/-- A carried function is called with a value, and with nothing else. -/
theorem ap (place : Text) (f : Collected (α → Run β)) (x : Run (Collected α))
    (hx : Follows story x) {failures : List ReadFailure}
    (hf : ∀ y, x.outcome = .ok y → y.failures = failures) :
    Follows (story ++ Program.callAt place (f.failures ++ failures))
      ((collecting.map (fun g => Run.pure fun a => (g a).markedCall place) f).bind fun g =>
        x.bind fun a => collecting.ap g a) := by
  cases f with
  | value g =>
      simp only [collecting, Run.pure_bind]
      refine hx.bind fun y hy => ?_
      rw [← hf y hy]
      cases y with
      | value a => exact (markedCall place (g a)).bind fun b _ => .pure (Collected.value b)
      | failed first rest => exact .pure _
  | failed first rest =>
      simp only [collecting, Run.pure_bind]
      exact hx.bind fun y _ => .pure _

end Follows

namespace Program

variable {α : Type}

/-- The collecting strategy follows the story of a program. -/
theorem run_follows (p : Program α) (source : Source) (path : KeyPath) (place : Text) :
    Follows (p.story source path place) ((p.marked place).run collecting source.recorded path) := by
  induction p generalizing path place with
  | pure value => exact .pure _
  | scalar kind key => exact .scalar source _ kind
  | scalars key kind =>
      refine .withAnswer (fun ids hr => ?_) fun halt hr => ?_
      · rw [Source.elementIds_of_ok hr]
        exact .gather (fun id => .scalar source _ kind) ids _
      · rw [Source.elementIds_of_error hr, List.flatMap_nil]
  | records key item ih =>
      refine .withAnswer (fun ids hr => ?_) fun halt hr => ?_
      · rw [Source.recordIds_of_ok hr]
        exact .gather (fun id => ih _ place) ids _
      · rw [Source.recordIds_of_error hr, List.flatMap_nil]
  | nested key inner ih => exact ih _ place
  | map program fn ih =>
      refine (ih path (place ++ "0")).bind fun x hx => ?_
      rw [outcome_marked] at hx
      rw [← failures_of_run hx]
      exact .map place fn x
  | ap fnProgram program ihf iha =>
      rw [marked, run, run, Run.bind_assoc]
      refine (ihf path (place ++ "0")).bind fun f hf => ?_
      rw [outcome_marked] at hf
      rw [← failures_of_run hf]
      refine .ap place f _ (iha path (place ++ "1")) fun x hx => ?_
      rw [outcome_marked] at hx
      exact failures_of_run hx
  | unsupported typeName => exact .raise _

/-- The accumulating strategies do the same. -/
theorem trace_optional (p : Program α) (source : Source) (path : KeyPath) :
    p.trace optional source path = p.trace validating source path := by
  unfold trace
  rw [run_optional, run_validating, Run.trace_map, Run.trace_map]

/-- The eager strategy does the beginning of what the accumulating ones do. -/
theorem trace_eager_isPrefix (p : Program α) (source : Source) (path : KeyPath) :
    p.trace eager source path <+: p.trace validating source path := by
  unfold trace
  rw [run_validating, Run.trace_map]
  exact ((p.marked []).run_cut source.recorded path).trace_isPrefix

/-- A failed read is the only thing that lets the eager strategy do less. -/
theorem trace_eager_eq {p : Program α} {source : Source} {path : KeyPath}
    (h : (∃ v, (p.run eager source path).outcome = .ok v) ∨
      ∃ e, p.ending source path = .error (.raised e)) :
    p.trace eager source path = p.trace validating source path := by
  have hcut := (p.marked []).run_cut source.recorded path
  rw [ending_marked] at hcut
  unfold trace
  rw [run_validating, Run.trace_map]
  obtain ⟨v, hv⟩ | ⟨e, he⟩ := h
  · rw [(p.run_cut source path).outcome, ← hcut.outcome] at hv
    rw [hcut.of_value hv]
  · rw [he] at hcut
    rw [hcut.of_raised.1]

/-- The validating strategy does nothing but what the story tells. -/
theorem trace_isPrefix_story (p : Program α) (source : Source) (path : KeyPath) :
    p.trace validating source path <+: p.story source path [] := by
  unfold trace
  rw [run_validating, Run.trace_map]
  exact (p.run_follows source path []).1

/-- A validating run that comes to its end has done all that the story tells. -/
theorem trace_eq_story {p : Program α} {source : Source} {path : KeyPath} {r : Validated α}
    (h : (p.run validating source path).outcome = .ok r) :
    p.trace validating source path = p.story source path [] := by
  obtain ⟨y, hy, _⟩ := validating_eq_ok.mp h
  rw [← p.outcome_marked source path []] at hy
  unfold trace
  rw [run_validating, Run.trace_map]
  exact (p.run_follows source path []).2 y hy

/-- The lookups of a story are those of the program. -/
theorem story_reads (source : Source) (p : Program α) (path : KeyPath) (place : Text) :
    (p.story source path place).filterMap Event.question? = p.reads source path := by
  have hlookup : ∀ (q : Lookup) (rest : List Event),
      (Event.lookup none q :: rest).filterMap Event.question? =
        q :: rest.filterMap Event.question? := fun _ _ => rfl
  have hcall : ∀ (place : Text) (fs : List ReadFailure),
      (callAt place fs).filterMap Event.question? = [] := fun _ fs => by cases fs <;> rfl
  induction p generalizing path place with
  | pure value => rfl
  | scalar kind key => rfl
  | scalars key kind =>
      rw [story, reads, hlookup, List.filterMap_flatMap, List.map_eq_flatMap]
      rfl
  | records key item ih =>
      rw [story, reads, hlookup, List.filterMap_flatMap]
      simp only [ih]
  | nested key inner ih => exact ih _ place
  | map program fn ih => rw [story, List.filterMap_append, ih, hcall, List.append_nil, reads]
  | ap fnProgram program ihf iha =>
      rw [story, List.filterMap_append, List.filterMap_append, ihf, iha, hcall, List.append_nil,
        reads]
  | unsupported typeName => rfl

/-- The lookups of a run, in order. -/
def lookups {F : Type → Type} (s : Strategy F) (p : Program α) (source : Source)
    (path : KeyPath) : List Lookup :=
  (p.trace s source path).filterMap Event.question?

/-- A validating run that comes to its end makes all lookups of the program. -/
theorem lookups_validating {source : Source} {p : Program α} {path : KeyPath} {r : Validated α}
    (h : (p.run validating source path).outcome = .ok r) :
    p.lookups validating source path = p.reads source path := by
  rw [lookups, trace_eq_story h, story_reads]

/-- The validating run makes the lookups of the program from the first one on. -/
theorem lookups_validating_isPrefix (p : Program α) (source : Source) (path : KeyPath) :
    p.lookups validating source path <+: p.reads source path := by
  have h := (p.trace_isPrefix_story source path).filterMap Event.question?
  rwa [story_reads] at h

/-- The optional run makes the lookups of the validating one. -/
theorem lookups_optional (p : Program α) (source : Source) (path : KeyPath) :
    p.lookups optional source path = p.lookups validating source path := by
  rw [lookups, trace_optional, lookups]

/-- The eager run makes the first lookups of the validating one. -/
theorem lookups_eager_isPrefix (p : Program α) (source : Source) (path : KeyPath) :
    p.lookups eager source path <+: p.lookups validating source path :=
  (p.trace_eager_isPrefix source path).filterMap Event.question?

end Program

end ConfigReader
