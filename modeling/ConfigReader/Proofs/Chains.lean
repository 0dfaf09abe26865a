import ConfigReader.CommandLine.ExitCode
import Mathlib.Data.List.Chain
import Mathlib.Data.List.Nodup
import Mathlib.Data.List.Perm.Subperm

/-!
# Ways along error objects

The links of error objects may lead anywhere, in circles too.  A *way* goes along the links and
comes to no object twice.  It *ends* at an object that leads nowhere, and before an object that it
came to already.

There is one ended way from each object (`Raised.EndedWay.unique`).  A way has at most as many
places as there are objects, so that many steps find it, and further ones find nothing else
(`Raised.endedWay_follow`).  The exit code of an error is that of the first object on its way that
has one: `Raised.chain_routed`.
-/

namespace ConfigReader

namespace Raised

variable {e : Raised} {start here after : Nat} {places places' : List Nat}

/-! ## Links -/

/-- The object at a place leads to the one at another place. -/
inductive Link (e : Raised) (here after : Nat) : Prop where
  /-- To its cause. -/
  | cause (o : ErrorObject) (hobject : e.object? here = some o) (hcause : o.cause = some after)
      (hafter : after < e.size)
  /-- Without a cause, to its context, unless that is not to be shown. -/
  | context (o : ErrorObject) (hobject : e.object? here = some o) (hcause : o.cause = none)
      (hshown : o.suppressed = false) (hcontext : o.context = some after) (hafter : after < e.size)

theorem isSome_object? {place : Nat} : (e.object? place).isSome = true ↔ place < e.size := by
  cases place with
  | zero => simp [object?, size]
  | succ place => simp [object?, size]

theorem Link.lt (h : e.Link here after) : after < e.size := by
  cases h with
  | cause _ _ _ hafter => exact hafter
  | context _ _ _ _ _ hafter => exact hafter

theorem link_iff {o : ErrorObject} (hobject : e.object? here = some o) :
    e.Link here after ↔ o.next? = some after ∧ after < e.size := by
  constructor
  · intro h
    cases h with
    | cause o' hobject' hcause hafter =>
        cases hobject.symm.trans hobject'
        exact ⟨by rw [ErrorObject.next?, hcause], hafter⟩
    | context o' hobject' hcause hshown hcontext hafter =>
        cases hobject.symm.trans hobject'
        refine ⟨?_, hafter⟩
        simp only [ErrorObject.next?, hcause, hshown, hcontext, Bool.false_eq_true, if_false]
  · rintro ⟨hnext, hafter⟩
    rw [ErrorObject.next?] at hnext
    split at hnext
    · next place hcause => exact .cause o hobject (hcause.trans hnext) hafter
    · next hcause =>
        split at hnext
        · cases hnext
        · next hshown =>
            exact .context o hobject hcause (Bool.not_eq_true _ ▸ hshown) hnext hafter

/-- Following a link once is going to the place it leads to. -/
theorem next?_eq_some_iff : e.next? here = some after ↔ e.Link here after := by
  cases hobject : e.object? here with
  | none =>
      have hnext : e.next? here = none := by rw [next?, hobject, Option.bind_none]
      rw [hnext]
      constructor
      · nofun
      · intro h
        cases h with
        | cause o ho => cases hobject.symm.trans ho
        | context o ho => cases hobject.symm.trans ho
  | some o =>
      rw [link_iff hobject, next?, hobject, Option.bind_some, Option.bind_eq_some_iff]
      constructor
      · rintro ⟨place, hnext, hplace⟩
        obtain ⟨there, hthere, rfl⟩ := Option.map_eq_some_iff.mp hplace
        exact ⟨hnext, isSome_object?.mp (Option.isSome_of_eq_some hthere)⟩
      · rintro ⟨hnext, hafter⟩
        obtain ⟨there, hthere⟩ := Option.isSome_iff_exists.mp (isSome_object?.mpr hafter)
        exact ⟨after, hnext, Option.map_eq_some_iff.mpr ⟨there, hthere, rfl⟩⟩

theorem Link.unique {after' : Nat} (h : e.Link here after) (h' : e.Link here after') :
    after' = after := by
  rw [← next?_eq_some_iff] at h h'
  exact Option.some.inj (h'.symm.trans h)

/-! ## Ways -/

/-- Places along the links from a start, none of them twice. -/
structure Way (e : Raised) (start : Nat) (places : List Nat) : Prop where
  /-- The way begins at the start. -/
  starts : places.head? = some start
  /-- Each place leads to the next one. -/
  linked : places.IsChain e.Link
  /-- No place is on the way twice. -/
  nodup : places.Nodup

/-- A way that does not go on: its last place leads nowhere, or to a place on it. -/
structure EndedWay (e : Raised) (start : Nat) (places : List Nat) : Prop extends
    Way e start places where
  /-- Where the last place leads to is on the way already. -/
  ends : ∀ last, places.getLast? = some last → ∀ after, e.Link last after → after ∈ places

namespace Way

theorem single (e : Raised) (start : Nat) : e.Way start [start] where
  starts := rfl
  linked := .singleton start
  nodup := List.nodup_singleton start

/-- A way goes on to the place that its last one leads to, if it is new. -/
theorem concat (h : e.Way start (places ++ [here])) (hlink : e.Link here after)
    (hnew : after ∉ places ++ [here]) : e.Way start (places ++ [here] ++ [after]) where
  starts := by rw [List.head?_append, h.starts, Option.some_or]
  linked := by
    refine List.isChain_append.mpr ⟨h.linked, .singleton after, ?_⟩
    rw [List.getLast?_concat]
    rintro _ ⟨⟩ _ ⟨⟩
    exact hlink
  nodup := List.nodup_append.mpr ⟨h.nodup, List.nodup_singleton after, fun a ha b hb hab => by
    rw [List.mem_singleton] at hb
    exact hnew (hb ▸ hab ▸ ha)⟩

/-- Objects stand at all places of a way. -/
theorem lt (h : e.Way start places) (hstart : start < e.size) :
    ∀ place ∈ places, place < e.size := by
  obtain ⟨rest, rfl⟩ := List.head?_eq_some_iff.mp h.starts
  have hlinked := h.linked
  clear h
  induction rest generalizing start with
  | nil =>
      intro place hplace
      rwa [List.mem_singleton.mp hplace]
  | cons after rest ih =>
      obtain ⟨hlink, hrest⟩ := List.isChain_cons_cons.mp hlinked
      intro place hplace
      obtain rfl | hplace := List.mem_cons.mp hplace
      · exact hstart
      · exact ih hlink.lt hrest place hplace

/-- A way is no longer than there are objects. -/
theorem length_le (h : e.Way start places) (hstart : start < e.size) : places.length ≤ e.size := by
  have hsub : places ⊆ List.range e.size := fun place hplace =>
    List.mem_range.mpr (h.lt hstart place hplace)
  have hlength := (h.nodup.subperm hsub).length_le
  rwa [List.length_range] at hlength

end Way

/-- Of two lists along the same links from one start, one begins with the other. -/
theorem prefix_or_prefix : ∀ {places places' : List Nat},
    places.IsChain e.Link → places'.IsChain e.Link → places.head? = places'.head? →
      places <+: places' ∨ places' <+: places
  | [], _, _, _, _ => .inl List.nil_prefix
  | _ :: _, [], _, _, hhead => nomatch hhead
  | start :: rest, start' :: rest', hlinked, hlinked', hhead => by
      obtain rfl : start = start' := Option.some.inj hhead
      rw [List.prefix_cons_inj, List.prefix_cons_inj]
      match rest, rest' with
      | [], _ => exact .inl List.nil_prefix
      | _, [] => exact .inr List.nil_prefix
      | after :: rest, after' :: rest' =>
          obtain ⟨hlink, hrest⟩ := List.isChain_cons_cons.mp hlinked
          obtain ⟨hlink', hrest'⟩ := List.isChain_cons_cons.mp hlinked'
          exact prefix_or_prefix hrest hrest' (congrArg some (hlink'.unique hlink))

/-- A way that begins with an ended one is that one. -/
theorem EndedWay.eq_of_prefix (h : e.EndedWay start places) (h' : e.Way start places')
    (hbegins : places <+: places') : places' = places := by
  obtain ⟨more, rfl⟩ := hbegins
  cases more with
  | nil => exact List.append_nil places
  | cons after more =>
      obtain ⟨rest, hrest⟩ := List.head?_eq_some_iff.mp h.starts
      obtain ⟨last, hlast⟩ : ∃ last, places.getLast? = some last := by
        rw [hrest]
        exact ⟨_, List.getLast?_cons⟩
      have hlink : e.Link last after :=
        (List.isChain_append.mp h'.linked).2.2 last hlast after rfl
      have hdisjoint := (List.nodup_append.mp h'.nodup).2.2
      exact absurd rfl (hdisjoint after (h.ends last hlast after hlink) after List.mem_cons_self)

/-- From a start there is one ended way. -/
theorem EndedWay.unique (h : e.EndedWay start places) (h' : e.EndedWay start places') :
    places' = places := by
  obtain hbegins | hbegins :=
    prefix_or_prefix h.linked h'.linked (h.starts.trans h'.starts.symm)
  · exact h.eq_of_prefix h'.toWay hbegins
  · exact (h'.eq_of_prefix h.toWay hbegins).symm

/-! ## Following links -/

/-- Steps from the last place of a way lead to its end.  With each step the way gets longer, so
there is a step left as long as it can go on. -/
theorem endedWay_of_way {fuel : Nat} {seen : List Nat} (hstart : start < e.size)
    (hfuel : e.size ≤ fuel + seen.length) (h : e.Way start (seen.reverse ++ [here])) :
    e.EndedWay start (seen.reverse ++ e.follow fuel seen here) := by
  induction fuel generalizing seen here with
  | zero =>
      have hlength := h.length_le hstart
      rw [List.length_append, List.length_reverse, List.length_singleton] at hlength
      omega
  | succ fuel ih =>
      -- the way stops here if all links from here lead back
      have hstop : (∀ after, e.Link here after → after ∈ here :: seen) →
          e.EndedWay start (seen.reverse ++ [here]) := by
        refine fun hback => ⟨h, fun last hlast after hlink => ?_⟩
        rw [List.getLast?_concat] at hlast
        cases hlast
        have hmem := hback after hlink
        simpa [or_comm] using hmem
      rw [follow]
      split
      · next hnext =>
          refine hstop fun after hlink => ?_
          rw [← next?_eq_some_iff, hnext] at hlink
          cases hlink
      · next after hnext =>
          have hlink : e.Link here after := next?_eq_some_iff.mp hnext
          split
          · next hseen =>
              refine hstop fun after' hlink' => ?_
              rw [hlink.unique hlink']
              simpa using hseen
          · next hseen =>
              have hnew : after ∉ seen.reverse ++ [here] := by
                simpa [or_comm] using hseen
              have hway : e.Way start ((here :: seen).reverse ++ [after]) := by
                rw [List.reverse_cons]
                exact h.concat hlink hnew
              have hlonger : e.size ≤ fuel + (here :: seen).length := by
                rw [List.length_cons]
                omega
              have hended := ih hlonger hway
              rwa [List.reverse_cons, List.append_assoc] at hended

/-- As many steps as there are objects, or more, find the ended way. -/
theorem endedWay_follow (hstart : start < e.size) {fuel : Nat} (hfuel : e.size ≤ fuel) :
    e.EndedWay start (e.follow fuel [] start) :=
  @endedWay_of_way e start start fuel [] hstart hfuel (.single e start)

theorem zero_lt_size (e : Raised) : 0 < e.size := Nat.succ_pos _

/-! ## Exit codes -/

/-- An error object has an exit code by itself: one of a validation without a value, or one of a
command that cannot be carried out as it is given.  An object belongs to a class if its own class is
that class or is derived from it. -/
inductive Decides (e : Raised) (place : Nat) : Nat → Prop where
  /-- The configuration does not fit the program. -/
  | invalid (o : ErrorObject) (hobject : e.object? place = some o)
      (hclass : o.failure.isA .programValidation = true) : Decides e place 1
  /-- A source, the settings, a program or a file is not what it has to be. -/
  | usage (o : ErrorObject) (hobject : e.object? place = some o)
      (hother : o.failure.isA .programValidation = false)
      (hclass : o.failure.isA .source ∨ o.failure.isA .settings ∨ o.failure.isA .invalidProgram ∨
        o.failure.isA .fileNotFound ∨ o.failure.isA .notADirectory ∨ o.failure.isA .permission) :
      Decides e place 2

/-- The code of the object at a place, if it has one by itself. -/
def code? (e : Raised) (place : Nat) : Option ExitCode :=
  (e.object? place).bind fun o => ExitCode.ofFailure? o.failure

theorem ofRaised_eq (e : Raised) :
    ExitCode.ofRaised e = (e.chain.findSome? e.code?).getD .internal := by
  rw [ExitCode.ofRaised, chainFailures]
  congr 1
  induction e.chain with
  | nil => rfl
  | cons place rest ih =>
      rw [List.findSome?_cons]
      cases hobject : e.object? place with
      | none =>
          have hcode : e.code? place = none := by rw [code?, hobject, Option.bind_none]
          rw [List.filterMap_cons_none (by rw [hobject, Option.map_none]), ih, hcode]
      | some o =>
          have hcode : e.code? place = ExitCode.ofFailure? o.failure := by
            rw [code?, hobject, Option.bind_some]
          rw [List.filterMap_cons_some (by rw [hobject, Option.map_some]), List.findSome?_cons, ih,
            hcode]

theorem any_usageClasses {f : Failure} : ExitCode.usageClasses.any f.isA = true ↔
    f.isA .source ∨ f.isA .settings ∨ f.isA .invalidProgram ∨ f.isA .fileNotFound ∨
      f.isA .notADirectory ∨ f.isA .permission := by
  simp only [ExitCode.usageClasses, List.any_cons, List.any_nil, Bool.or_eq_true, Bool.or_false]

theorem decides_iff {place n : Nat} :
    e.Decides place n ↔ ∃ code, e.code? place = some code ∧ n = code.number := by
  constructor
  · intro h
    cases h with
    | invalid o hobject hclass =>
        refine ⟨.invalid, ?_, rfl⟩
        rw [code?, hobject, Option.bind_some, ExitCode.ofFailure?, if_pos hclass]
    | usage o hobject hother hclass =>
        refine ⟨.usage, ?_, rfl⟩
        rw [code?, hobject, Option.bind_some, ExitCode.ofFailure?, if_neg (by rw [hother]; nofun),
          if_pos (any_usageClasses.mpr hclass)]
  · rintro ⟨code, hcode, rfl⟩
    obtain ⟨o, hobject, hcode⟩ := Option.bind_eq_some_iff.mp hcode
    rw [ExitCode.ofFailure?] at hcode
    split at hcode
    · next hclass =>
        cases hcode
        exact .invalid o hobject hclass
    · next hother =>
        split at hcode
        · next hclass =>
            cases hcode
            exact .usage o hobject (Bool.not_eq_true _ ▸ hother) (any_usageClasses.mp hclass)
        · cases hcode

theorem not_decides_iff {place : Nat} : (∀ n, ¬ e.Decides place n) ↔ e.code? place = none := by
  constructor
  · intro h
    by_contra hcode
    obtain ⟨code, hcode⟩ := Option.ne_none_iff_exists'.mp hcode
    exact h _ (decides_iff.mpr ⟨code, hcode, rfl⟩)
  · intro h n hn
    obtain ⟨code, hcode, -⟩ := decides_iff.mp hn
    cases h.symm.trans hcode

/-- From every object, following the links comes to an end, whatever they are, with the one way that
starts there, comes to no object twice, and stops where no link leads on or where it leads back.
The chain of an error is this way from its top.  The first object on it that has an exit code by
itself decides, and without one the error counts as internal. -/
theorem chain_routed (e : Raised) :
    (∀ start, start < e.size → ∀ fuel, e.size ≤ fuel → ∀ places,
      e.follow fuel [] start = places ↔ e.EndedWay start places) ∧
    e.EndedWay 0 e.chain ∧
    ((∃ before place after, e.chain = before ++ place :: after ∧
        (∀ earlier ∈ before, ∀ n, ¬ e.Decides earlier n) ∧
        e.Decides place (ExitCode.ofRaised e).number) ∨
      (∀ place ∈ e.chain, ∀ n, ¬ e.Decides place n) ∧ (ExitCode.ofRaised e).number = 4) := by
  refine ⟨fun start hstart fuel hfuel places => ?_, endedWay_follow e.zero_lt_size le_rfl, ?_⟩
  · have hfollow := endedWay_follow hstart hfuel
    constructor
    · rintro rfl
      exact hfollow
    · exact fun h => h.unique hfollow
  · cases hfound : e.chain.findSome? e.code? with
    | some code =>
        obtain ⟨before, place, after, hchain, hcode, hbefore⟩ :=
          List.findSome?_eq_some_iff.mp hfound
        refine .inl ⟨before, place, after, hchain, ?_, ?_⟩
        · exact fun earlier hearlier => not_decides_iff.mpr (hbefore earlier hearlier)
        · rw [ofRaised_eq, hfound]
          exact decides_iff.mpr ⟨code, hcode, rfl⟩
    | none =>
        refine .inr ⟨fun place hplace => ?_, ?_⟩
        · exact not_decides_iff.mpr (List.findSome?_eq_none_iff.mp hfound place hplace)
        · rw [ofRaised_eq, hfound]
          rfl

/-- An error and its cause that lead to each other: each way goes once around.  The cause is of a
class derived from that of sources and decides.  The error has a class of the same name that is
derived from nothing known, and does not. -/
theorem chain_routed_into_circle :
    let loading : ErrorClass := .derived "app" "SourceError" [.own .source]
    let other : ErrorClass := .derived "app.errors" "SourceError" []
    let top : ErrorObject := ⟨.stated other "no settings", some 1, none, false⟩
    let cause : ErrorObject := ⟨.stated loading "no file", none, some 0, false⟩
    let e : Raised := ⟨top, [cause]⟩
    e.EndedWay 0 [0, 1] ∧ e.EndedWay 1 [1, 0] ∧ (∀ n, ¬ e.Decides 0 n) ∧
      (ExitCode.ofRaised e).number = 2 := by
  intro loading other top cause e
  obtain ⟨hways, hchain, -⟩ := chain_routed e
  refine ⟨hchain, (hways 1 (by decide) 2 (by decide) [1, 0]).mp rfl, ?_, by decide +kernel⟩
  exact not_decides_iff.mpr (by decide +kernel)

end Raised

end ConfigReader
