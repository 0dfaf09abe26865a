import ConfigReader.Proofs.Layers
import ConfigReader.Proofs.Replies
import ConfigReader.Proofs.Sources

/-!
# Precedence

A higher layer that has something for a lookup settles it.  A program takes several lookups,
among them those of the elements of a list, whose ids another lookup has told.  So two layers
could answer for parts of one list.  They do not, as long as the program finds all it asks
for in the higher layer: `Program.higher_layer_settles`.

What matters is how the run over the higher layer ends.  Only a read that finds nothing
there gets to the layers below.  A value that does not fit is found, and so is an empty list
or an empty text.

A source as a layer differs from the source in one error, the one that marks the end of
items (`Source.asLayer`).  No source of the library ends a lookup with it.
-/

namespace ConfigReader

variable {α β : Type}

/-! ## Ends without a missing read -/

/-- The end of a run is not that a read finds nothing. -/
def Settled (e : Except Halt α) : Prop := ∀ asked, e ≠ .error (.unread (.missing asked))

namespace Settled

theorem of_bind {e : Except Halt α} {k : α → Except Halt β} (h : Settled (e.bind k)) :
    Settled e := by
  intro asked he
  rw [he] at h
  exact h asked rfl

theorem of_bind_ok {e : Except Halt α} {k : α → Except Halt β} {a : α} (h : Settled (e.bind k))
    (he : e = .ok a) : Settled (k a) := by
  rw [he] at h
  exact h

theorem of_leavingItem {e : Except Halt α} (h : Settled (e.mapError Halt.leavingItem)) :
    Settled e := by
  intro asked he
  rw [he] at h
  exact h asked rfl

end Settled

/-! ## Ends over a source and over the layer -/

/-- Two ends are the same, unless an error is raised. -/
inductive AlikeUnlessRaised : Except Halt α → Except Halt α → Prop where
  /-- Both are the same. -/
  | same (e : Except Halt α) : AlikeUnlessRaised e e
  /-- Both are errors that are raised. -/
  | raised (e e' : Raised) : AlikeUnlessRaised (.error (.raised e)) (.error (.raised e'))

namespace AlikeUnlessRaised

variable {e e' : Except Halt α}

theorem settled (h : AlikeUnlessRaised e e') (hs : Settled e) : Settled e' := by
  cases h with
  | same => exact hs
  | raised => exact nofun

theorem bind (h : AlikeUnlessRaised e e') {k k' : α → Except Halt β}
    (hk : ∀ a, AlikeUnlessRaised (k a) (k' a)) : AlikeUnlessRaised (e.bind k) (e'.bind k') := by
  cases h with
  | raised e e' => exact .raised e e'
  | same e => cases e with
    | ok a => exact hk a
    | error halt => exact .same _

theorem leavingItem (h : AlikeUnlessRaised e e') :
    AlikeUnlessRaised (e.mapError Halt.leavingItem) (e'.mapError Halt.leavingItem) := by
  cases h with
  | same e => exact .same _
  | raised e e' => exact .raised e.leavingItem e'.leavingItem

theorem mapM {ι : Type} {f f' : ι → Except Halt α} (h : ∀ i, AlikeUnlessRaised (f i) (f' i)) :
    ∀ ids : List ι, AlikeUnlessRaised (ids.mapM f) (ids.mapM f')
  | [] => .same _
  | i :: rest => by
      rw [List.mapM_cons, List.mapM_cons]
      exact (h i).bind fun a => (mapM h rest).bind fun items => .same _

end AlikeUnlessRaised

theorem Source.reply_asLayer (s : Source) (q : Lookup) :
    AlikeUnlessRaised (s.reply q) (s.asLayer.reply q) := by
  have hanswer : (s.asLayer.answer q).outcome =
      (s.answer q).outcome.mapError Raised.leavingItem := rfl
  rw [reply, reply, hanswer]
  cases (s.answer q).outcome with
  | ok found => cases found <;> exact .same _
  | error e =>
      simp only [Except.mapError]
      split
      · next hread =>
          rw [e.leavingItem_of_not (by rw [hread]; rfl), hread]
          exact .same _
      · next hother =>
          split
          · next hread =>
              rw [e.leavingItem_of_read hread] at hread
              exact absurd hread (hother _ _ _)
          · exact .raised _ _

/-- A source of the library is the same as a layer. -/
theorem Source.Built.asLayer_eq {source : Source} (hs : source.Built) : source.asLayer = source :=
  Source.asLayer_eq fun _ _ he => (hs.error_cause he).not_stopIteration

/-- The run over a source ends like the one over the layer, unless an error is raised. -/
theorem Program.ending_asLayer (top : Source) (p : Program α) (path : KeyPath) :
    AlikeUnlessRaised (p.ending top path) (p.ending top.asLayer path) := by
  induction p generalizing path with
  | pure value => exact .same _
  | scalar kind key => exact top.reply_asLayer _
  | scalars key kind =>
      refine (top.reply_asLayer _).bind fun ids => .mapM (fun id => ?_) ids
      exact (top.reply_asLayer _).leavingItem
  | records key item ih =>
      exact (top.reply_asLayer _).bind fun ids => .mapM (fun id => (ih _).leavingItem) ids
  | nested key inner ih => exact ih _
  | map program fn ih => exact (ih path).bind fun a => .same _
  | ap fnProgram program ihf iha =>
      exact (ihf path).bind fun f => (iha path).bind fun a => .same _
  | unsupported typeName => exact .same _

/-! ## Runs over a layer and over layers -/

/-- A lookup that finds something in the top layer is answered by it. -/
theorem Source.answer_of_settled {top : Source} {q : Lookup} (h : Settled (top.asLayer.reply q))
    (lower : List Source) : (layered (top :: lower)).answer q = top.asLayer.answer q := by
  refine firstAnswer_of_settled (fun hpass => ?_) lower
  have hnone : (top.asLayer.answer q).outcome = .ok none := Run.asItem_eq_ok.mpr hpass
  exact h q.path (by rw [reply, hnone])

theorem withAnswer_of_settled {top : Source} {q : Lookup} {e : q.Answer → Except Halt β}
    {use use' : q.Answer → Run β} (lower : List Source)
    (h : Settled ((top.asLayer.reply q).bind e))
    (huse : ∀ a, Settled (e a) → use' a = use a) :
    eager.withAnswer (.layered (top :: lower)) q use' = eager.withAnswer top.asLayer q use := by
  have hanswer := Source.answer_of_settled h.of_bind lower
  have hreply : (Source.layered (top :: lower)).reply q = top.asLayer.reply q := by
    rw [Source.reply, Source.reply, hanswer]
  rw [Strategy.withAnswer_eq, Strategy.withAnswer_eq, hanswer, hreply]
  cases ha : top.asLayer.reply q with
  | ok a => exact congrArg (Run.after _) (huse a (h.of_bind_ok ha))
  | error halt => cases halt <;> rfl

theorem scalar_of_settled {top : Source} {path : Text} {kind : Kind} (lower : List Source)
    (h : Settled (top.asLayer.reply (.scalar kind path))) :
    eager.scalar (.layered (top :: lower)) path kind = eager.scalar top.asLayer path kind := by
  refine withAnswer_of_settled (e := .ok) lower ?_ fun a _ => rfl
  cases hr : top.asLayer.reply (.scalar kind path) <;> rw [hr] at h <;> exact h

/-- Elements run alike as long as no read finds nothing. -/
theorem gather_of_settled {ι : Type} {e : ι → Except Halt α} {element element' : ι → Run α}
    (hvalue : ∀ i a, (element i).outcome = .ok a → e i = .ok a)
    (helement : ∀ i, Settled (e i) → element' i = element i) :
    ∀ {ids : List ι} {items : List α},
      Settled (ids.mapM fun i => (e i).mapError Halt.leavingItem) →
        eager.gather element' items ids = eager.gather element items ids
  | [], items, _ => rfl
  | i :: rest, items, h => by
      rw [List.mapM_cons] at h
      rw [gather_eager, gather_eager]
      refine Run.bind_congr (congrArg Run.asItem (helement i h.of_bind.of_leavingItem)) ?_
      intro item hitem
      have hi : (e i).mapError Halt.leavingItem = .ok item := by
        rw [hvalue i item (Run.asItem_eq_ok.mp hitem)]
        rfl
      exact gather_of_settled hvalue helement (h.of_bind_ok hi).of_bind

namespace Program

theorem run_of_settled (lower : List Source) {top : Source} {p : Program α} {path : KeyPath}
    (h : Settled (p.ending top.asLayer path)) :
    p.run eager (.layered (top :: lower)) path = p.run eager top.asLayer path := by
  induction p generalizing path with
  | pure value => rfl
  | scalar kind key => exact scalar_of_settled lower h
  | scalars key kind =>
      refine withAnswer_of_settled lower h fun ids hids => gather_of_settled ?_ ?_ hids
      · intro id a ha
        rw [(Cut.scalar top.asLayer _ kind).outcome] at ha
        exact mapError_eq_ok.mp ha
      · exact fun id hid => scalar_of_settled lower hid
  | records key item ih =>
      refine withAnswer_of_settled lower h fun ids hids => gather_of_settled ?_ ?_ hids
      · exact fun id a ha => eager_eq_ok.mp ha
      · exact fun id hid => ih hid
  | nested key inner ih => exact ih h
  | map program fn ih => exact Run.bind_congr (ih h.of_bind) fun a _ => rfl
  | ap fnProgram program ihf iha =>
      refine Run.bind_congr (ihf h.of_bind) fun f hf => ?_
      have hargument : Settled (program.ending top.asLayer path) :=
        (h.of_bind_ok (eager_eq_ok.mp hf)).of_bind
      exact Run.bind_congr (iha hargument) fun a _ => rfl
  | unsupported typeName => rfl

/-- Lower layers never change what a higher layer settles.  If the eager run over a source
ends with a value, with a value that does not fit or with the error of a function, with
anything but a read that finds nothing, then the run with other sources below it is the run
over the source as a layer.  The other sources may be watched, and no lookup of theirs is
among its events.  The run over the layer is the run over the source itself, if the source
does not end a lookup with the error that marks the end of items. -/
theorem higher_layer_settles (p : Program α) (top : Source) (lower : List Source)
    (path : KeyPath) (h : Settled (p.ending top path)) :
    p.run eager (.layered (top :: lower)) path = p.run eager top.asLayer path ∧
      (∀ label, p.run eager (.layered (top :: lower.map (Source.watched label))) path =
        p.run eager top.asLayer path) ∧
      ((∀ q e, (top.answer q).outcome = .error e → e.failure.isA .stopIteration = false) →
        p.run eager top.asLayer path = p.run eager top path) := by
  have hlayer : Settled (p.ending top.asLayer path) := (p.ending_asLayer top path).settled h
  refine ⟨run_of_settled lower hlayer, fun label => run_of_settled _ hlayer, fun hfree => ?_⟩
  rw [Source.asLayer_eq hfree]

/-- An empty list and an empty text are found, and so is a port that is no number, although
the layer below has better ones. -/
theorem higher_layer_settles_poor_values :
    let names : Key := ⟨"names", by decide⟩
    let title : Key := ⟨"title", by decide⟩
    let port : Key := ⟨"port", by decide⟩
    let p : Program (List Text × Text × Int) :=
      map3 (scalars names .string) (scalar .string title) (scalar .integer port)
        fun names title port => Run.pure (names, title, port)
    let top := Source.ofDocument "<document>"
      [(.text "names", .list []), (.text "title", .text ""), (.text "port", .text "x")]
    let below := Source.ofDocument "<document>"
      [(.text "names", .list [.text "a"]), (.text "title", .text "b"), (.text "port", .int 80)]
    Settled (p.ending top .root) ∧
      (p.run eager (.layered [top, below.watched (some "below")]) .root) =
        ⟨[], .error (Failure.read (.malformed "port" "Integer" (.text "x")))⟩ := by
  intro names title port p top below
  have hend : p.ending top .root =
      .error (.unread (.malformed "port" "Integer" (.text "x"))) := rfl
  have h : Settled (p.ending top .root) := by
    rw [hend]
    exact nofun
  have htop : p.run eager top .root =
      ⟨[], .error (Failure.read (.malformed "port" "Integer" (.text "x")))⟩ := rfl
  obtain ⟨-, hwatched, hitself⟩ := p.higher_layer_settles top [below] .root h
  have hfree : ∀ q e, (top.answer q).outcome = .error e → e.failure.isA .stopIteration = false :=
    fun q e he => ((Source.Built.document "<document>" _).error_cause he).not_stopIteration
  exact ⟨h, (hwatched (some "below")).trans ((hitself hfree).trans htop)⟩

end Program

end ConfigReader
