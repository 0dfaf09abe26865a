import ConfigReader.CommandLine
import ConfigReader.Proofs.Replies
import ConfigReader.Proofs.Segments
import ConfigReader.Source.Document

/-!
# Single keys on top

A single key of a request is a layer of its own, on top of the sources
(`CommandLine.sourceOf_single_key`).  It answers the scalar lookups of its path, and it
answers one more kind of lookup: for a list that the path leads into it finds one
element, the one that the path goes through.  The first layer that finds elements tells
all of them, so the elements that only the sources below have are not read
(`Program.override_hides_elements`).

Everything else is left alone.  `Program.eager_overridden` says that an eager run keeps
its value if it does not read the path, and if the lists that the path leads into have
no other element.
-/

namespace ConfigReader

/-- A source with a single key on top. -/
def Source.overridden (path text : Text) (below : Source) : Source :=
  .layered [.flat "<--set>" (Entries.ofPairs [(path, text)]), below]

/-- The id of the element through which a path leads into a list, if it does. -/
def Text.elementOn? (list path : Text) : Option Text :=
  (Entries.segmentAfter? list path).filter Text.isDigits

/-- A request with one single key reads its files below that key. -/
theorem CommandLine.sourceOf_single_key {world : World} {request : Request}
    {given path text : Text} (hgiven : request.overrides = [given])
    (hread : readOverride given = .ok (path, text)) (hsources : request.sources ≠ []) :
    sourceOf world request =
      (Source.overridden path text <$>
        refuseSourceFaults
          (Source.loadAll world.platform.readers world.files request.sources request.format)) := by
  have hsources : request.sources.isEmpty = false := by simp [hsources]
  have hpairs : [given].mapM readOverride = .ok [(path, text)] := by
    rw [List.mapM_cons, hread]
    rfl
  rw [sourceOf, hgiven, hpairs]
  simp only [pure_bind, List.isEmpty_cons, Bool.false_and, hsources, Bool.false_eq_true, if_false]
  rw [map_eq_pure_bind]
  rfl

/-! ## What a single key answers -/

namespace Entries

/-- A table with one entry has the elements that its path leads through. -/
theorem elementIds_single (path text list : Text) :
    elementIds [(path, text)] list = match Text.elementOn? list path with
      | none => .ok []
      | some id =>
          if id.length > digitLimit then .error (.integerTooLong (some id.length))
          else .ok [id] := by
  have hfound : elementSegments [(path, text)] list = (Text.elementOn? list path).toList := by
    unfold elementSegments Text.elementOn?
    cases hsegment : segmentAfter? list path with
    | none => simp [hsegment]
    | some id =>
        cases hdigits : id.isDigits <;>
          simp [hsegment, hdigits, Option.filter_some, List.eraseDups_cons]
  rw [elementIds_def, hfound]
  cases Text.elementOn? list path with
  | none => simp
  | some id =>
      by_cases hlong : id.length > digitLimit
      · simp [hlong]
      · simp [hlong]

variable {path text list id : Text}

theorem present_of_no_element (h : Text.elementOn? list path = none) :
    answer.present (elementIds [(path, text)] list) = .ok none := by
  rw [elementIds_single, h]
  rfl

theorem present_of_element (h : Text.elementOn? list path = some id)
    (hshort : id.length ≤ digitLimit) :
    answer.present (elementIds [(path, text)] list) = .ok (some [id]) := by
  rw [elementIds_single, h]
  simp only [gt_iff_lt, Nat.not_lt.mpr hshort, if_false]
  rfl

end Entries

namespace Source

/-- The lookup comes to the same below a single key: it does not read the path, and if
it is for a list that the path leads into, the list has the element on the path only. -/
def Unaffected (below : Source) (path : Text) : Lookup → Prop
  | .scalar _ asked => asked ≠ path
  | .elements list kind => ∀ id, Text.elementOn? list path = some id →
      id.length ≤ digitLimit ∧ below.elementIds list kind = [id]
  | .records list => ∀ id, Text.elementOn? list path = some id →
      id.length ≤ digitLimit ∧ below.recordIds list = [id]

variable {below : Source} {path text : Text}

/-- A lookup that the single key does not answer falls through. -/
theorem reply_of_unanswered {q : Lookup} {a : q.Answer}
    (h : (Entries.ofPairs [(path, text)]).answer q = .ok none) (ha : below.reply q = .ok a) :
    (below.overridden path text).reply q = .ok a := by
  refine reply_eq_ok.mpr ?_
  change (firstAnswer q _).outcome = _
  have htop : ((flat "<--set>" (Entries.ofPairs [(path, text)])).answer q).asItem.outcome =
      .ok none :=
    Run.asItem_eq_ok.mpr (congrArg (fun r => (Run.ofExcept r).outcome) h)
  have hbelow : (below.answer q).asItem.outcome = .ok (some a) :=
    Run.asItem_eq_ok.mpr (reply_eq_ok.mp ha)
  rw [firstAnswer, Run.bind_of_ok htop, firstAnswer, Run.bind_of_ok hbelow]
  rfl

/-- A lookup that the single key answers stops there. -/
theorem reply_of_answered {q : Lookup} {a : q.Answer}
    (h : (Entries.ofPairs [(path, text)]).answer q = .ok (some a)) :
    (below.overridden path text).reply q = .ok a := by
  have hanswer : ((below.overridden path text).answer q).outcome = .ok (some a) := by
    change (firstAnswer q _).outcome = _
    have htop : ((flat "<--set>" (Entries.ofPairs [(path, text)])).answer q).asItem.outcome =
        .ok (some a) :=
      Run.asItem_eq_ok.mpr (congrArg (fun r => (Run.ofExcept r).outcome) h)
    rw [firstAnswer, Run.bind_of_ok htop]
    rfl
  exact reply_eq_ok.mpr hanswer

/-- A value that is found below a single key is found with the key on top, unless the
lookup is affected. -/
theorem Unaffected.reply {q : Lookup} {a : q.Answer} (hq : below.Unaffected path q)
    (h : below.reply q = .ok a) : (below.overridden path text).reply q = .ok a := by
  cases q with
  | scalar kind asked =>
      have hnone : Entries.get? [(path, text)] asked = none := by
        rw [Entries.get?_cons, if_neg hq]
        rfl
      have hanswer : (Entries.ofPairs [(path, text)]).answer (.scalar kind asked) = .ok none := by
        change Entries.answer [(path, text)] _ = _
        simp only [Entries.answer, hnone]
      exact reply_of_unanswered hanswer h
  | elements list kind =>
      cases hon : Text.elementOn? list path with
      | none =>
          have hanswer : (Entries.ofPairs [(path, text)]).answer (.elements list kind) = .ok none :=
            Entries.present_of_no_element hon
          exact reply_of_unanswered hanswer h
      | some id =>
          obtain ⟨hshort, hids⟩ := hq id hon
          rw [elementIds_of_ok h] at hids
          subst hids
          exact reply_of_answered (Entries.present_of_element hon hshort)
  | records list =>
      cases hon : Text.elementOn? list path with
      | none =>
          have hanswer : (Entries.ofPairs [(path, text)]).answer (.records list) = .ok none :=
            Entries.present_of_no_element hon
          exact reply_of_unanswered hanswer h
      | some id =>
          obtain ⟨hshort, hids⟩ := hq id hon
          rw [recordIds_of_ok h] at hids
          subst hids
          exact reply_of_answered (Entries.present_of_element hon hshort)

end Source

/-! ## Runs below a single key -/

theorem Except.toOption_eq_some {ε α : Type} {x : Except ε α} {a : α} :
    x.toOption = some a ↔ x = .ok a := by
  cases x <;> simp [Except.toOption]

namespace Program

/-- A single key on top leaves the value of an eager run alone if the run does not read
its path, and if each list of the run that the path leads into has the element on the
path only. -/
theorem eager_overridden {α : Type} {p : Program α} {below : Source} {scope : KeyPath}
    {path text : Text} {v : α} (hv : (p.run eager below scope).outcome = .ok v)
    (h : ∀ q ∈ p.lookups eager below scope, below.Unaffected path q) :
    (p.run eager (below.overridden path text) scope).outcome = .ok v := by
  rw [lookups_eager hv] at h
  exact eager_of_replies hv fun q hq _ ha => (h q hq).reply ha

/-- A field of the only server is set, and the list of groups keeps both of its elements. -/
theorem override_keeps_other_lists :
    let servers : Key := ⟨"servers", by decide⟩
    let host : Key := ⟨"host", by decide⟩
    let groups : Key := ⟨"groups", by decide⟩
    let p : Program (List Text × List Text) :=
      map2 (records servers (scalar .string host)) (scalars groups .string)
        fun hosts names => Run.pure (hosts, names)
    let below := Source.ofDocument "<document>"
      [(.text "groups", .list [.text "x", .text "y"]),
        (.text "servers", .list [.map [(.text "host", .text "a"), (.text "port", .int 1)]])]
    let path : Text := "servers.0.port"
    (p.run eager below .root).outcome = .ok (["a"], ["x", "y"]) ∧
      (∀ q ∈ p.lookups eager below .root, below.Unaffected path q) ∧
      (p.run eager (below.overridden path "2") .root).outcome = .ok (["a"], ["x", "y"]) := by
  intro servers host groups p below path
  have hv : (p.run eager below .root).outcome = .ok (["a"], ["x", "y"]) :=
    eager_eq_ok.mpr (Except.toOption_eq_some.mp (by decide +kernel))
  have hreads : p.reads below .root =
      [.records "servers", .scalar .string "servers.0.host", .elements "groups" .string,
        .scalar .string "groups.0", .scalar .string "groups.1"] := by decide +kernel
  have hids : below.recordIds "servers" = [("0" : Text)] := by decide +kernel
  have hother : ∀ kind asked, asked ≠ path → below.Unaffected path (.scalar kind asked) :=
    fun _ _ hne => hne
  have h : ∀ q ∈ p.lookups eager below .root, below.Unaffected path q := by
    rw [lookups_eager hv, hreads]
    intro q hq
    simp only [List.mem_cons, List.not_mem_nil, or_false] at hq
    obtain rfl | rfl | rfl | rfl | rfl := hq
    · intro id hid
      cases hid
      exact ⟨by decide, hids⟩
    · exact hother _ _ (by decide)
    · exact fun id hid => nomatch hid
    · exact hother _ _ (by decide)
    · exact hother _ _ (by decide)
  exact ⟨hv, h, eager_overridden hv h⟩

/-- A field of the first of two servers is set, and the second one is not read any more. -/
theorem override_hides_elements :
    let servers : Key := ⟨"servers", by decide⟩
    let host : Key := ⟨"host", by decide⟩
    let p : Program (List Text) := records servers (scalar .string host)
    let below := Source.ofDocument "<document>"
      [(.text "servers", .list [.map [(.text "host", .text "a"), (.text "port", .int 1)],
        .map [(.text "host", .text "b")]])]
    let path : Text := "servers.0.port"
    (∃ keys, below.keys = .ok keys ∧ path ∈ keys) ∧
      (∀ kind, Lookup.scalar kind path ∉ p.lookups eager below .root) ∧
      (p.run eager below .root).outcome = .ok ["a", "b"] ∧
      (p.run eager (below.overridden path "2") .root).outcome = .ok ["a"] := by
  intro servers host p below path
  have hv : (p.run eager below .root).outcome = .ok ["a", "b"] :=
    eager_eq_ok.mpr (Except.toOption_eq_some.mp (by decide +kernel))
  have hreads : p.reads below .root =
      [.records "servers", .scalar .string "servers.0.host", .scalar .string "servers.1.host"] := by
    decide +kernel
  refine ⟨⟨_, rfl, List.mem_mergeSort.mpr (by decide)⟩, fun kind => ?_, hv, ?_⟩
  · rw [lookups_eager hv, hreads]
    cases kind <;> decide
  · exact eager_eq_ok.mpr (Except.toOption_eq_some.mp (by decide +kernel))

end Program

end ConfigReader
