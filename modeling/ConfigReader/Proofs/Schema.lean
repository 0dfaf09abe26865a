import ConfigReader.Description
import ConfigReader.Proofs.Returning
import ConfigReader.Proofs.Sources
import ConfigReader.Proofs.Traces

/-!
# Descriptions as schemas

A description is written without a source, so it cannot know the elements of a list of
records, and a run cannot tell from the path of a lookup which of its segments are
elements.  A *trail* remembers this.  It is spelt out in two ways: as the scope a lookup
is made in, and with every element masked.

A *visit* is a lookup with its trail.  `Program.visits` lists the visits of a program
over a source, in the order of the walk.  Every run makes the lookups of the first of
them, and each visit has its line in the description (`Program.line_mem`).  The result
is `Program.description_covers_runs`.
-/

namespace ConfigReader

/-! ## Trails -/

/-- The way from the root to a scope: keys of the program, and ids of elements. -/
inductive Trail where
  /-- The root. -/
  | root
  /-- The scope under a key. -/
  | key (parent : Trail) (key : Key)
  /-- The scope of an element. -/
  | element (parent : Trail) (id : Text)

namespace Trail

/-- The scope at the end of a trail. -/
def scope : Trail → KeyPath
  | root => .root
  | key parent k => parent.scope.child k.text
  | element parent id => parent.scope.child id

/-- The scope at the end of a trail, with a placeholder for the id of any element. -/
def masked : Trail → KeyPath
  | root => .root
  | key parent k => parent.masked.child k.text
  | element parent _ => parent.masked.child anyElement

/-- The source tells the ids on the trail, each one among the elements of the list that
the trail comes through. -/
def Discovered (source : Source) : Trail → Prop
  | root => True
  | key parent _ => parent.Discovered source
  | element parent id => parent.Discovered source ∧ id ∈ source.recordIds parent.scope.scope

end Trail

/-! ## Visits -/

/-- A lookup of a program, with the trail to its scope. -/
inductive Visit where
  /-- A scalar of its own. -/
  | scalar (trail : Trail) (kind : Kind) (key : Key)
  /-- The elements of a list of scalars. -/
  | elements (trail : Trail) (key : Key) (kind : Kind)
  /-- A scalar that is an element of a list. -/
  | element (trail : Trail) (key : Key) (kind : Kind) (id : Text)
  /-- The elements of a list of records. -/
  | records (trail : Trail) (key : Key)

namespace Visit

/-- The trail to the scope. -/
def trail : Visit → Trail
  | scalar trail _ _ => trail
  | elements trail _ _ => trail
  | element trail _ _ _ => trail
  | records trail _ => trail

/-- The lookup. -/
def question : Visit → Lookup
  | scalar trail kind key => .scalar kind (trail.scope.resolve key.text)
  | elements trail key kind => .elements (trail.scope.resolve key.text) kind
  | element trail key kind id => .scalar kind ((trail.scope.child key.text).resolve id)
  | records trail key => .records (trail.scope.resolve key.text)

/-- The scalar is an element of a list. -/
def isElement : Visit → Bool
  | element .. => true
  | _ => false

/-- The path and the type name of the line that covers the lookup.  The element of a list
of scalars has the line of the list.  A list of records has no line, only what is read
in its elements. -/
def line? : Visit → Option (Text × Text)
  | scalar trail kind key => some (trail.masked.resolve key.text, kind.typeName)
  | elements trail key kind => some (trail.masked.resolve key.text, kind.typeName ++ "[]")
  | element trail key kind _ => some (trail.masked.resolve key.text, kind.typeName ++ "[]")
  | records _ _ => none

end Visit

/-- The path and the type name of a lookup, as a line has them. -/
def Lookup.line? : Lookup → Option (Text × Text)
  | scalar kind path => some (path, kind.typeName)
  | elements path kind => some (path, kind.typeName ++ "[]")
  | records _ => none

namespace Program

variable {α : Type}

/-- The visits of a program at the end of a trail, in the order of the walk. -/
def visits (source : Source) : {α : Type} → Program α → Trail → List Visit
  | _, pure _, _ => []
  | _, scalar kind key, trail => [.scalar trail kind key]
  | _, scalars key kind, trail =>
      .elements trail key kind ::
        (source.elementIds (trail.scope.resolve key.text) kind).map (.element trail key kind)
  | _, records key item, trail =>
      .records trail key ::
        (source.recordIds (trail.scope.resolve key.text)).flatMap fun id =>
          item.visits source ((trail.key key).element id)
  | _, nested key inner, trail => inner.visits source (trail.key key)
  | _, map program _, trail => program.visits source trail
  | _, ap fnProgram program, trail =>
      fnProgram.visits source trail ++ program.visits source trail
  | _, unsupported _, _ => []

/-- Visits make the lookups of the program. -/
theorem visits_question (source : Source) (p : Program α) (trail : Trail) :
    (p.visits source trail).map Visit.question = p.reads source trail.scope := by
  induction p generalizing trail with
  | pure value => rfl
  | scalar kind key => rfl
  | scalars key kind =>
      rw [visits, List.map_cons, List.map_map]
      rfl
  | records key item ih =>
      rw [visits, List.map_cons, List.map_flatMap]
      simp only [ih]
      rfl
  | nested key inner ih => exact ih (trail.key key)
  | map program fn ih => exact ih trail
  | ap fnProgram program ihf iha => rw [visits, List.map_append, ihf, iha, reads]
  | unsupported typeName => rfl

/-- Trails are made of what the source tells. -/
theorem discovered_of_visits {source : Source} {p : Program α} {trail : Trail}
    (h : trail.Discovered source) {visit : Visit} (hv : visit ∈ p.visits source trail) :
    visit.trail.Discovered source := by
  induction p generalizing trail with
  | pure value => cases hv
  | scalar kind key =>
      rw [List.mem_singleton.mp hv]
      exact h
  | scalars key kind =>
      obtain rfl | hv := List.mem_cons.mp hv
      · exact h
      · obtain ⟨id, _, rfl⟩ := List.mem_map.mp hv
        exact h
  | records key item ih =>
      obtain rfl | hv := List.mem_cons.mp hv
      · exact h
      · obtain ⟨id, hid, hv⟩ := List.mem_flatMap.mp hv
        have hitem : ((trail.key key).element id).Discovered source := ⟨h, hid⟩
        exact ih hitem hv
  | nested key inner ih =>
      have hinner : (trail.key key).Discovered source := h
      exact ih hinner hv
  | map program fn ih => exact ih h hv
  | ap fnProgram program ihf iha =>
      obtain hv | hv := List.mem_append.mp hv
      · exact ihf h hv
      · exact iha h hv
  | unsupported typeName => cases hv

end Program

/-! ## Lines -/

/-- The path and the type name of a read. -/
def Leaf.entry? : Leaf → Option (Text × Text)
  | read path typeName => some (path, typeName)
  | unsupported _ => none

namespace Program

variable {α : Type}

/-- The lines of the description of a program in a scope: paths and type names. -/
def lines (p : Program α) (path : KeyPath) : List (Text × Text) :=
  (p.leaves path).filterMap Leaf.entry?

theorem lines_ap {β : Type} (fnProgram : Program (α → Run β)) (program : Program α)
    (path : KeyPath) :
    (ap fnProgram program).lines path = fnProgram.lines path ++ program.lines path := by
  rw [lines, leaves, List.filterMap_append]
  rfl

/-- The leaves of a program without other objects in it are reads. -/
theorem leaves_of_supported {p : Program α} (h : p.Supported) (path : KeyPath) :
    p.leaves path = (p.lines path).map fun (path, typeName) => .read path typeName := by
  induction p generalizing path with
  | pure value => rfl
  | scalar kind key => rfl
  | scalars key kind => rfl
  | records key item ih => exact ih h _
  | nested key inner ih => exact ih h _
  | map program fn ih => exact ih h path
  | ap fnProgram program ihf iha =>
      rw [lines_ap, List.map_append, leaves, ← ihf h.1, ← iha h.2]
  | unsupported typeName => exact h.elim

/-- Reads are described line by line. -/
theorem describeLeaves_reads (lines : List (Text × Text)) :
    describeLeaves (lines.map fun (path, typeName) => .read path typeName) =
      .ok (lines.flatMap fun (path, typeName) => Leaf.line path typeName) := by
  induction lines with
  | nil => rfl
  | cons line rest ih =>
      rw [List.map_cons, describeLeaves, ih]
      rfl

/-- A program without other objects in it has a description: its lines. -/
theorem describe_of_supported {p : Program α} (h : p.Supported) :
    p.describe =
      .ok ((p.lines .root).flatMap fun (path, typeName) => Leaf.line path typeName) := by
  rw [describe, describeIn, leaves_of_supported h, describeLeaves_reads]

/-- The line of a visit is in the description. -/
theorem line_mem {source : Source} {p : Program α} {trail : Trail} {visit : Visit}
    {line : Text × Text} (hv : visit ∈ p.visits source trail) (hl : visit.line? = some line) :
    line ∈ p.lines trail.masked := by
  induction p generalizing trail with
  | pure value => cases hv
  | scalar kind key =>
      rw [List.mem_singleton.mp hv] at hl
      cases hl
      exact List.mem_singleton_self _
  | scalars key kind =>
      obtain rfl | hv := List.mem_cons.mp hv
      · cases hl
        exact List.mem_singleton_self _
      · obtain ⟨id, _, rfl⟩ := List.mem_map.mp hv
        cases hl
        exact List.mem_singleton_self _
  | records key item ih =>
      obtain rfl | hv := List.mem_cons.mp hv
      · cases hl
      · obtain ⟨id, hid, hv⟩ := List.mem_flatMap.mp hv
        exact ih hv
  | nested key inner ih => exact ih hv
  | map program fn ih => exact ih hv
  | ap fnProgram program ihf iha =>
      rw [lines_ap]
      obtain hv | hv := List.mem_append.mp hv
      · exact List.mem_append_left _ (ihf hv)
      · exact List.mem_append_right _ (iha hv)
  | unsupported typeName => cases hv

/-- Any number of elements share a line. -/
example :
    let servers : Key := ⟨"servers", by decide⟩
    let host : Key := ⟨"host", by decide⟩
    let source := Source.ofDocument "<document>" [(.text "servers", .list [.map [], .map []])]
    let line : Text × Text := ("servers.[].host", "String")
    ((records servers (scalar .string host)).visits source .root).map Visit.line? =
      [none, some line, some line] := by
  decide

end Program

/-! ## Runs -/

namespace Program

variable {α : Type}

/-- No lists of records are read. -/
def WithoutRecords : {α : Type} → Program α → Prop
  | _, pure _ => True
  | _, scalar _ _ => True
  | _, scalars _ _ => True
  | _, records _ _ => False
  | _, nested _ inner => inner.WithoutRecords
  | _, map program _ => program.WithoutRecords
  | _, ap fnProgram program => fnProgram.WithoutRecords ∧ program.WithoutRecords
  | _, unsupported _ => True

/-- Without lists of records, the lookups are those of the lines, one for one, apart from
the elements of lists of scalars. -/
theorem lines_of_visits {source : Source} {p : Program α} {trail : Trail}
    (h : p.WithoutRecords) (ht : trail.masked = trail.scope) :
    ((p.visits source trail).filter fun visit => !visit.isElement).map
        (fun visit => visit.question.line?) =
      (p.lines trail.masked).map some := by
  induction p generalizing trail with
  | pure value => rfl
  | scalar kind key =>
      rw [ht]
      rfl
  | scalars key kind =>
      have helements : ((source.elementIds (trail.scope.resolve key.text) kind).map
          (Visit.element trail key kind)).filter (fun visit => !visit.isElement) = [] := by
        rw [List.filter_map]
        simp [Function.comp_def, Visit.isElement]
      rw [visits, List.filter_cons_of_pos rfl, helements, ht]
      rfl
  | records key item ih => exact h.elim
  | nested key inner ih =>
      have hinner : (trail.key key).masked = (trail.key key).scope :=
        congrArg (KeyPath.child · key.text) ht
      exact ih h hinner
  | map program fn ih => exact ih h ht
  | ap fnProgram program ihf iha =>
      rw [visits, List.filter_append, List.map_append, ihf h.1 ht, iha h.2 ht, lines_ap,
        List.map_append]
  | unsupported typeName => rfl

/-- The description of a program covers every run.  The lookups of a run are those of the
first visits, and each visit has its line, with the ids that the source tells masked.

Without lists of records, a validating run makes the lookups of all visits, and these
are the lookups of the lines in order, apart from the elements of lists of scalars.
For this the functions have to return and the source has to answer. -/
theorem description_covers_runs (p : Program α) (hp : p.Supported) (source : Source) :
    p.describe =
      .ok ((p.lines .root).flatMap fun (path, typeName) => Leaf.line path typeName) ∧
    (p.lookups eager source .root <+: (p.visits source .root).map Visit.question ∧
      p.lookups optional source .root <+: (p.visits source .root).map Visit.question ∧
      p.lookups validating source .root <+: (p.visits source .root).map Visit.question) ∧
    (∀ visit ∈ p.visits source .root, visit.trail.Discovered source ∧
      ∀ line, visit.line? = some line → line ∈ p.lines .root) ∧
    (p.WithoutRecords → p.FunctionsReturn → (∀ q ∈ p.reads source .root, source.Answers q) →
      p.lookups validating source .root = (p.visits source .root).map Visit.question ∧
      ((p.visits source .root).filter fun visit => !visit.isElement).map
          (fun visit => visit.question.line?) =
        (p.lines .root).map some) := by
  have hv : p.lookups validating source .root <+: (p.visits source .root).map Visit.question := by
    rw [visits_question]
    exact p.lookups_validating_isPrefix source .root
  refine ⟨describe_of_supported hp, ⟨?_, ?_, hv⟩, ?_, ?_⟩
  · exact (p.lookups_eager_isPrefix source .root).trans hv
  · rw [lookups_optional]
    exact hv
  · intro visit hvisit
    have hroot : Trail.root.Discovered source := trivial
    exact ⟨discovered_of_visits hroot hvisit, fun line => line_mem hvisit⟩
  · intro hr hf hq
    obtain ⟨r, h⟩ := validating_returns hp hf hq
    refine ⟨?_, lines_of_visits hr rfl⟩
    rw [lookups_validating h, visits_question]
    rfl

/-- A list of numbers in a scope, and a text that is not there. -/
theorem description_covers_nested_list :
    let db : Key := ⟨"db", by decide⟩
    let host : Key := ⟨"host", by decide⟩
    let ports : Key := ⟨"ports", by decide⟩
    let p := nested db (map2 (scalar .string host) (scalars ports .integer)
      fun name numbers => Run.pure (name, numbers))
    let source := Source.ofDocument "<document>"
      [(.text "db", .map [(.text "ports", .list [.int 80, .text "x"])])]
    p.describe = .ok "- db.host: String\n- db.ports: Integer[]\n" ∧
      p.lookups validating source .root =
        [.scalar .string "db.host", .elements "db.ports" .integer,
          .scalar .integer "db.ports.0", .scalar .integer "db.ports.1"] ∧
      ((p.visits source .root).filter fun visit => !visit.isElement).map
          (fun visit => visit.question.line?) =
        (p.lines .root).map some := by
  intro db host ports p source
  have hf : p.FunctionsReturn := functionsReturn_map2 trivial trivial fun _ _ _ _ => ⟨_, rfl⟩
  have hreads : p.reads source .root =
      [.scalar .string "db.host", .elements "db.ports" .integer,
        .scalar .integer "db.ports.0", .scalar .integer "db.ports.1"] := rfl
  have hq : ∀ q ∈ p.reads source .root, source.Answers q := by
    rw [hreads]
    intro q hq
    simp only [List.mem_cons, List.not_mem_nil, or_false] at hq
    obtain rfl | rfl | rfl | rfl := hq
    · trivial
    · trivial
    · trivial
    · exact ⟨_, _, _, rfl⟩
  obtain ⟨hd, -, -, hall⟩ := description_covers_runs p ⟨trivial, trivial⟩ source
  obtain ⟨hl, hlines⟩ := hall ⟨trivial, trivial⟩ hf hq
  exact ⟨hd, hl, hlines⟩

/-- A source that does not answer keeps a run from the lines that follow: a table with an
element id of too many digits ends it at the list. -/
theorem lines_unread_behind_long_id :
    let a : Key := ⟨"a", by decide⟩
    let b : Key := ⟨"b", by decide⟩
    let p := map2 (scalars a .string) (scalar .string b) fun items text => Run.pure (items, text)
    let id : Text := List.replicate 4301 (.scalar '1')
    let source := Source.flat "<mapping>" [(a.text ++ [separator] ++ id, "x")]
    (p.Supported ∧ p.WithoutRecords ∧ p.FunctionsReturn) ∧
      p.lines .root = [(a.text, ("String[]" : Text)), (b.text, "String")] ∧
      p.lookups validating source .root = [.elements a.text .string] ∧
      ¬ ∀ line ∈ p.lines .root, ∃ q ∈ p.lookups validating source .root,
        q.line? = some line := by
  intro a b p id source
  have hdigits : id.isDigits = true := by
    rw [Text.isDigits, List.all_replicate]
    rfl
  have hlong : digitLimit < id.length := by
    rw [List.length_replicate]
    decide
  -- nothing below may compute with the id
  clear_value id
  have hids := Entries.elementIds_of_long_id hdigits hlong a.text "x"
  have hreply : source.reply (.elements a.text .string) =
      .error (.raised (Failure.integerTooLong (some id.length))) := by
    simp only [Source.reply, source, Source.flat, Entries.answer, hids]
    rfl
  have hrun : (scalars a .string).run validating source.recorded .root =
      ⟨[.lookup none (.elements a.text .string)],
        .error (Failure.integerTooLong (some id.length))⟩ :=
    Strategy.withAnswer_of_raised hreply
  have hlookups : p.lookups validating source .root = [.elements a.text .string] := by
    change ((((((scalars a .string).run validating source.recorded .root).bind _).bind _).bind
      _).trace).filterMap Event.question? = _
    rw [hrun]
    rfl
  have hlines : p.lines .root = [(a.text, ("String[]" : Text)), (b.text, "String")] := rfl
  refine ⟨⟨⟨trivial, trivial⟩, ⟨trivial, trivial⟩, ?_⟩, hlines, hlookups, ?_⟩
  · exact functionsReturn_map2 trivial trivial fun _ _ _ _ => ⟨_, rfl⟩
  · rw [hlines, hlookups]
    intro h
    have hb : (b.text, ("String" : Text)) ∈ [(a.text, ("String[]" : Text)), (b.text, "String")] :=
      List.mem_cons_of_mem _ (List.mem_singleton_self _)
    obtain ⟨q, hq, hline⟩ := h _ hb
    rw [List.mem_singleton.mp hq] at hline
    revert hline
    decide

end Program

end ConfigReader
