import ConfigReader.Description
import ConfigReader.Proofs.Replies
import ConfigReader.Proofs.Returning

/-!
# The laws of application

Programs can be regrouped.  A function that changes nothing may be left out, functions called
one after the other may be joined to one, a constant may stand on either side of an
application, nested applications may be turned around, and scopes go through to both sides.
`Program.applicative_laws` says that this changes nothing under any strategy: not the result,
not the error, not the issues or their order, not the lookups or their order.

What a regrouping may change is which functions are called.  If the function side of an
application fails, the argument side is run nevertheless, with the functions in it.  So nested
applications can be turned around only if the functions of the inner one return.

A strategy is *lawful* if its steps allow for this.  The eager one and the collecting one are.
The validating one on its own is not: an application takes repeated issues out, and a mapped
function leaves them in.  But it never comes to carry repeated issues, as an image of the
collecting strategy.
-/

namespace ConfigReader

variable {F : Type → Type} {α β γ : Type}

/-! ## Lookups of a run -/

namespace Run

/-- The lookups among the events of a run. -/
def asked (x : Run α) : List Lookup := x.trace.filterMap Event.question?

theorem asked_bind_of_ok {x : Run α} {a : α} (h : x.outcome = .ok a) (k : α → Run β) :
    (x.bind k).asked = x.asked ++ (k a).asked := by
  rw [bind_of_ok h, asked, List.filterMap_append, asked, asked]

theorem asked_bind_of_error {x : Run α} {e : Raised} (h : x.outcome = .error e)
    (k : α → Run β) : (x.bind k).asked = x.asked := by
  rw [bind_of_error h, asked, asked]

/-- A continuation that asks for nothing leaves the lookups as they are. -/
theorem asked_bind_of_silent (x : Run α) {k : α → Run β} (h : ∀ a, (k a).asked = []) :
    (x.bind k).asked = x.asked := by
  cases hx : x.outcome with
  | error e => exact asked_bind_of_error hx k
  | ok a => rw [asked_bind_of_ok hx, h, List.append_nil]

theorem outcome_bind_congr {x : Run α} {k k' : α → Run β}
    (h : ∀ a, x.outcome = .ok a → (k a).outcome = (k' a).outcome) :
    (x.bind k).outcome = (x.bind k').outcome := by
  cases hx : x.outcome with
  | error e => rw [bind_of_error hx, bind_of_error hx]
  | ok a => rw [bind_of_ok hx, bind_of_ok hx, h a hx]

/-- Two runs come to the same end by the same lookups. -/
def Alike (x y : Run α) : Prop := x.outcome = y.outcome ∧ x.asked = y.asked

namespace Alike

theorem refl (x : Run α) : Alike x x := ⟨rfl, rfl⟩

theorem bind {x y : Run α} {k l : α → Run β} (h : Alike x y)
    (hk : ∀ a, Alike (k a) (l a)) : Alike (x.bind k) (y.bind l) := by
  cases hx : x.outcome with
  | error e =>
      have hy : y.outcome = .error e := h.1 ▸ hx
      refine ⟨by rw [bind_of_error hx, bind_of_error hy], ?_⟩
      rw [asked_bind_of_error hx, asked_bind_of_error hy, h.2]
  | ok a =>
      have hy : y.outcome = .ok a := h.1 ▸ hx
      refine ⟨by rw [bind_of_ok hx, bind_of_ok hy, (hk a).1], ?_⟩
      rw [asked_bind_of_ok hx, asked_bind_of_ok hy, h.2, (hk a).2]

theorem after {x y : Run α} (h : Alike x y) (events : List Event) :
    Alike (x.after events) (y.after events) := by
  refine ⟨h.1, ?_⟩
  rw [asked, asked, Run.after, Run.after, List.filterMap_append, List.filterMap_append]
  exact congrArg _ h.2

theorem asItem {x y : Run α} (h : Alike x y) : Alike x.asItem y.asItem :=
  ⟨congrArg (Except.mapError Raised.leavingItem) h.1, h.2⟩

theorem withAnswer {s : Strategy F} {source : Source} {q : Lookup}
    {use use' : q.Answer → Run (F β)} (h : ∀ a, Alike (use a) (use' a)) :
    Alike (s.withAnswer source q use) (s.withAnswer source q use') := by
  rw [Strategy.withAnswer_eq, Strategy.withAnswer_eq]
  refine Alike.after ?_ _
  cases source.reply q with
  | ok a => exact h a
  | error halt => cases halt with
    | unread f => exact refl _
    | raised e => exact refl _

theorem gather {s : Strategy F} {ι : Type} {element element' : ι → Run (F α)}
    (h : ∀ i, Alike (element i) (element' i)) :
    ∀ (items : F (List α)) (ids : List ι),
      Alike (s.gather element items ids) (s.gather element' items ids)
  | _, [] => refl _
  | _, i :: rest => (h i).asItem.bind fun _ => (refl _).bind fun _ => (refl _).bind fun items =>
      gather h items rest

end Alike

end Run

/-! ## Lawful strategies -/

/-- The functions that call a function after another one. -/
def composed (g : β → Run γ) : Run ((α → Run β) → Run (α → Run γ)) :=
  Run.pure fun f => Run.pure fun a => (f a).bind g

namespace Strategy

/-- A function of a function side, marked by its place. -/
def markedSide (place : Text) (f : α → Run β) : Run (α → Run β) :=
  Run.pure fun a => (f a).markedCall place

/-- The steps of a strategy can be regrouped, and make no lookups. -/
structure Lawful (s : Strategy F) : Prop where
  /-- A function that gives back its argument changes nothing. -/
  map_return : ∀ {α : Type} (x : F α), s.map Run.pure x = Run.pure x
  /-- Two functions are called like one. -/
  map_map : ∀ {α β γ : Type} (f : α → Run β) (g : β → Run γ) (x : F α),
    (s.map f x).bind (s.map g) = s.map (fun a => (f a).bind g) x
  /-- A constant function is called with a constant. -/
  pure_ap_pure : ∀ {α β : Type} (f : α → Run β) (a : α),
    s.ap (s.pure f) (s.pure a) = (f a).bind fun b => Run.pure (s.pure b)
  /-- A function is called with a constant. -/
  ap_pure : ∀ {α β : Type} (f : F (α → Run β)) (a : α),
    s.ap f (s.pure a) = s.map (fun h => h a) f
  /-- Functions are composed without a call.  They are then called one after the other, if
  the call of the first one returns. -/
  ap_ap : ∀ {α β γ : Type} (g : F (β → Run γ)), ∃ g', s.map composed g = Run.pure g' ∧
    ∀ f : F (α → Run β), ∃ h, s.ap g' f = Run.pure h ∧ ∀ x,
      (∀ f' a, f = s.pure f' → x = s.pure a → ∃ b, (f' a).outcome = .ok b) →
        ((s.ap f x).bind (s.ap g)).outcome = (s.ap h x).outcome
  /-- A value that is carried at the end of a run is one that the eager run returns. -/
  ending_of_run : ∀ {α : Type} {p : Program α} {source : Source} {path : KeyPath} {a : α},
    (p.run s source path).outcome = .ok (s.pure a) → p.ending source path = .ok a
  /-- Marks change no outcome. -/
  outcome_marked : ∀ {α : Type} (p : Program α) (source : Source) (path : KeyPath)
    (place : Text), ((p.marked place).run s source.recorded path).outcome =
      (p.run s source path).outcome
  /-- The call of a marked function makes no lookup. -/
  asked_map : ∀ {α β : Type} (place : Text) (fn : α → Run β) (x : F α),
    (s.map (fun a => (fn a).markedCall place) x).asked = []
  /-- All lookups of an application are made before the call. -/
  asked_ap : ∀ {α β : Type} (place : Text) (f : F (α → Run β)) (x : Run (F α)),
    ((s.map (markedSide place) f).bind fun g => x.bind (s.ap g)).asked = x.asked

theorem lawful_eager : eager.Lawful where
  map_return _ := rfl
  map_map _ _ _ := rfl
  pure_ap_pure f a := (Run.bind_pure (f a)).symm
  ap_pure _ _ := rfl
  ap_ap g := ⟨fun f => Run.pure fun a => (f a).bind g, rfl, fun f =>
    ⟨fun a => (f a).bind g, rfl, fun _ _ => rfl⟩⟩
  ending_of_run := Program.eager_eq_ok.mp
  outcome_marked p source path place := by
    rw [((p.marked place).run_cut source.recorded path).outcome, Program.ending_marked,
      ← (p.run_cut source path).outcome]
  asked_map _ _ _ := rfl
  asked_ap place f x := by
    rw [eager, Run.asked_bind_of_ok (a := fun a => (f a).markedCall place) rfl]
    exact Run.asked_bind_of_silent x fun _ => rfl

/-- The end of a call is no matter to what is carried behind it. -/
theorem bind_of_returns {x : Run α} (h : ∃ a, x.outcome = .ok a) (y : Run β) :
    (x.bind fun _ => y).outcome = y.outcome := by
  obtain ⟨a, ha⟩ := h
  rw [Run.bind_of_ok ha]

theorem composes_collecting (g : Collected (β → Run γ)) :
    ∃ g', collecting.map composed g = Run.pure g' ∧
      ∀ f : Collected (α → Run β), ∃ h, collecting.ap g' f = Run.pure h ∧ ∀ x,
        (∀ f' a, f = collecting.pure f' → x = collecting.pure a → ∃ b, (f' a).outcome = .ok b) →
          ((collecting.ap f x).bind (collecting.ap g)).outcome = (collecting.ap h x).outcome := by
  cases g with
  | value g =>
      refine ⟨.value fun f => Run.pure fun a => (f a).bind g, rfl, fun f => ?_⟩
      cases f with
      | value f =>
          refine ⟨.value fun a => (f a).bind g, rfl, fun x _ => ?_⟩
          cases x with
          | value a => simp [collecting, Run.bind_assoc]
          | failed first rest => simp [collecting]
      | failed first rest =>
          refine ⟨.failed first rest, rfl, fun x _ => ?_⟩
          simp [collecting]
  | failed first rest =>
      refine ⟨.failed first rest, rfl, fun f =>
        ⟨.failed first (rest ++ f.failures), rfl, fun x hcall => ?_⟩⟩
      cases f with
      | failed _ _ => simp [collecting, Collected.failures]
      | value f => cases x with
        | failed _ _ => simp [collecting, Collected.failures]
        | value a =>
            -- Here the inner function is called, and the composed one is not.
            have hcalled := bind_of_returns (hcall f a rfl rfl)
              (Run.pure (Collected.failed (α := γ) first rest))
            simpa [collecting, Collected.failures, Run.bind_assoc] using hcalled

theorem lawful_collecting : collecting.Lawful where
  map_return x := by
    cases x with
    | value a => simp [collecting]
    | failed first rest => rfl
  map_map f g x := by
    cases x with
    | value a => simp [collecting, Run.bind_assoc]
    | failed first rest => simp [collecting]
  pure_ap_pure _ _ := rfl
  ap_pure f a := by
    cases f with
    | value f => rfl
    | failed first rest => simp [collecting, Collected.failures]
  ap_ap := composes_collecting
  ending_of_run {_ p source path _} h := (p.run_cut source path).of_carried h
  outcome_marked p := p.outcome_marked
  asked_map place fn x := by
    cases x with
    | value a => exact Run.asked_bind_of_silent ((fn a).markedCall place) fun _ => rfl
    | failed first rest => rfl
  asked_ap place f x := by
    cases f with
    | value f =>
        refine Run.asked_bind_of_silent x fun y => ?_
        cases y with
        | value a => exact Run.asked_bind_of_silent ((f a).markedCall place) fun _ => rfl
        | failed first rest => rfl
    | failed first rest => exact Run.asked_bind_of_silent x fun _ => rfl

end Strategy

/-! ## Lookups by parts -/

namespace Program

/-- A run that returns a value returns one that the program can yield. -/
theorem yields_of_ending {source : Source} {p : Program α} {path : KeyPath} {a : α}
    (h : p.ending source path = .ok a) : p.Yields a := by
  induction p generalizing path with
  | pure value => exact (Except.ok.inj h).symm
  | scalar kind key => trivial
  | scalars key kind => trivial
  | records key item ih =>
      obtain ⟨ids, -, hitems⟩ := Except.bind_eq_ok.mp h
      intro b hb
      obtain ⟨id, -, hid⟩ := exists_of_mem_mapM hitems hb
      exact ih (mapError_eq_ok.mp hid)
  | nested key inner ih => exact ih h
  | map program fn ih =>
      obtain ⟨b, hb, ha⟩ := Except.bind_eq_ok.mp h
      exact ⟨b, ih hb, mapError_eq_ok.mp ha⟩
  | ap fnProgram program ihf iha =>
      obtain ⟨f, hf, h⟩ := Except.bind_eq_ok.mp h
      obtain ⟨b, hb, ha⟩ := Except.bind_eq_ok.mp h
      exact ⟨f, b, ihf hf, iha hb, mapError_eq_ok.mp ha⟩
  | unsupported typeName => cases h

variable {s : Strategy F} (hs : s.Lawful) (source : Source) (path : KeyPath)

include hs

theorem asked_marked_map (p : Program α) (fn : α → Run β) (place : Text) :
    (((map p fn).marked place).run s source.recorded path).asked =
      ((p.marked (place ++ "0")).run s source.recorded path).asked :=
  Run.asked_bind_of_silent _ (hs.asked_map place fn)

theorem asked_marked_ap_of_ok {u : Program (α → Run β)} (p : Program α) (place : Text)
    {f : F (α → Run β)} (hf : (u.run s source path).outcome = .ok f) :
    (((ap u p).marked place).run s source.recorded path).asked =
      ((u.marked (place ++ "0")).run s source.recorded path).asked ++
        ((p.marked (place ++ "1")).run s source.recorded path).asked := by
  rw [← hs.outcome_marked u source path (place ++ "0")] at hf
  rw [marked, run, run, Run.bind_assoc, Run.asked_bind_of_ok hf]
  exact congrArg _ (hs.asked_ap place f _)

theorem asked_marked_ap_of_error {u : Program (α → Run β)} (p : Program α) (place : Text)
    {e : Raised} (hf : (u.run s source path).outcome = .error e) :
    (((ap u p).marked place).run s source.recorded path).asked =
      ((u.marked (place ++ "0")).run s source.recorded path).asked := by
  rw [← hs.outcome_marked u source path (place ++ "0")] at hf
  rw [marked, run, run, Run.bind_assoc, Run.asked_bind_of_error hf]

/-- The lookups of a marked program do not depend on the marks. -/
theorem marked_alike (p : Program α) (place place' : Text) :
    Run.Alike ((p.marked place).run s source.recorded path)
      ((p.marked place').run s source.recorded path) := by
  induction p generalizing path place place' with
  | pure value => exact .refl _
  | scalar kind key => exact .refl _
  | scalars key kind => exact .refl _
  | records key item ih =>
      exact .withAnswer fun ids => .gather (fun id => ih _ place place') _ ids
  | nested key inner ih => exact ih _ place place'
  | map p fn ih =>
      refine ⟨by rw [hs.outcome_marked, hs.outcome_marked], ?_⟩
      rw [asked_marked_map hs, asked_marked_map hs]
      exact (ih path _ _).2
  | ap u p ihu ihp =>
      refine ⟨by rw [hs.outcome_marked, hs.outcome_marked], ?_⟩
      cases hu : (u.run s source path).outcome with
      | error e =>
          rw [asked_marked_ap_of_error hs source path p _ hu,
            asked_marked_ap_of_error hs source path p _ hu]
          exact (ihu path _ _).2
      | ok f =>
          rw [asked_marked_ap_of_ok hs source path p _ hu,
            asked_marked_ap_of_ok hs source path p _ hu, (ihu path _ (place' ++ "0")).2,
            (ihp path _ (place' ++ "1")).2]
  | unsupported typeName => exact .refl _

theorem lookups_map (p : Program α) (fn : α → Run β) :
    (map p fn).lookups s source path = p.lookups s source path :=
  (asked_marked_map hs source path p fn []).trans (marked_alike hs source path p _ _).2

theorem lookups_ap_of_ok {u : Program (α → Run β)} (p : Program α) {f : F (α → Run β)}
    (hf : (u.run s source path).outcome = .ok f) :
    (ap u p).lookups s source path = u.lookups s source path ++ p.lookups s source path := by
  refine (asked_marked_ap_of_ok hs source path p [] hf).trans ?_
  rw [(marked_alike hs source path u _ []).2, (marked_alike hs source path p _ []).2]
  rfl

theorem lookups_ap_of_error {u : Program (α → Run β)} (p : Program α) {e : Raised}
    (hf : (u.run s source path).outcome = .error e) :
    (ap u p).lookups s source path = u.lookups s source path :=
  (asked_marked_ap_of_error hs source path p [] hf).trans (marked_alike hs source path u _ _).2

end Program

/-! ## Programs that do the same -/

namespace Program

/-- Two programs do the same by a strategy: in every scope and over every source they come to
the same end, by the same lookups in the same order. -/
def SameBy (s : Strategy F) (p q : Program α) : Prop :=
  ∀ source path, (p.run s source path).outcome = (q.run s source path).outcome ∧
    p.lookups s source path = q.lookups s source path

/-- Two programs do the same by every strategy, and have the same description. -/
structure Same (p q : Program α) : Prop where
  /-- The same value, or the same error. -/
  eager : SameBy eager p q
  /-- The same value, nothing for both, or the same error. -/
  optional : SameBy optional p q
  /-- The same value, the same issues in the same order, or the same error. -/
  validating : SameBy validating p q
  /-- The same text, or the same error. -/
  describing : ∀ path, p.describeIn path = q.describeIn path

/-- What programs do by a strategy they do by every image of it. -/
theorem SameBy.carry {G : Type → Type} {s : Strategy F} {t : Strategy G} {p q : Program α}
    (h : SameBy s p q) (m : s.Morphism t) : SameBy t p q := by
  intro source path
  have hlookups : ∀ r : Program α, r.lookups t source path = r.lookups s source path := by
    intro r
    rw [lookups, trace, run_carry m, Run.trace_map, lookups, trace]
  refine ⟨?_, by rw [hlookups, hlookups, (h source path).2]⟩
  rw [run_carry m, run_carry m, Run.outcome_map, Run.outcome_map, (h source path).1]

theorem Same.of_lawful {p q : Program α}
    (h : ∀ {F : Type → Type} (s : Strategy F), s.Lawful → SameBy s p q)
    (hleaves : ∀ path, p.leaves path = q.leaves path) : Same p q where
  eager := h _ Strategy.lawful_eager
  optional := (h _ Strategy.lawful_collecting).carry forgetting
  validating := (h _ Strategy.lawful_collecting).carry reporting
  describing path := congrArg describeLeaves (hleaves path)

section Laws

variable {s : Strategy F} (hs : s.Lawful)

include hs

theorem map_return (p : Program α) : SameBy s (map p Run.pure) p := by
  intro source path
  refine ⟨?_, lookups_map hs source path p Run.pure⟩
  rw [run, funext (hs.map_return (α := α))]
  exact congrArg Run.outcome (Run.bind_pure _)

theorem map_map (p : Program α) (f : α → Run β) (g : β → Run γ) :
    SameBy s (map (map p f) g) (map p fun a => (f a).bind g) := by
  intro source path
  refine ⟨?_, by simp only [lookups_map hs]⟩
  simp only [run, Run.bind_assoc, hs.map_map]

theorem pure_ap_pure {f : α → Run β} {a : α} {b : β} (h : (f a).outcome = .ok b) :
    SameBy s (ap (pure f) (pure a)) (pure b) := by
  intro source path
  refine ⟨?_, lookups_ap_of_ok hs source path (pure a) rfl⟩
  have hrun : (ap (pure f) (pure a)).run s source path = s.ap (s.pure f) (s.pure a) := by
    simp only [run, Run.pure_bind]
  rw [hrun, hs.pure_ap_pure, Run.bind_of_ok h]
  rfl

theorem ap_pure (u : Program (α → Run β)) (a : α) :
    SameBy s (ap u (pure a)) (map u fun h => h a) := by
  intro source path
  constructor
  · simp only [run, Run.pure_bind, hs.ap_pure]
  · rw [lookups_map hs]
    cases hu : (u.run s source path).outcome with
    | error e => exact lookups_ap_of_error hs source path _ hu
    | ok f =>
        rw [lookups_ap_of_ok hs source path _ hu]
        exact List.append_nil _

theorem outcome_ap_ap (u : Program (β → Run γ)) {v : Program (α → Run β)} {w : Program α}
    (h : (ap v w).FunctionsReturn) (source : Source) (path : KeyPath) :
    ((ap u (ap v w)).run s source path).outcome =
      ((ap (ap (map u composed) v) w).run s source path).outcome := by
  simp only [run, Run.bind_assoc]
  refine Run.outcome_bind_congr fun g hg => ?_
  obtain ⟨g', hg', hcompose⟩ := hs.ap_ap (α := α) g
  rw [hg', Run.pure_bind]
  refine Run.outcome_bind_congr fun f hf => ?_
  obtain ⟨k, hk, hcall⟩ := hcompose f
  rw [hk, Run.pure_bind]
  refine Run.outcome_bind_congr fun x hx => hcall x ?_
  rintro f' a rfl rfl
  exact h.2 f' a (yields_of_ending (hs.ending_of_run hf)) (yields_of_ending (hs.ending_of_run hx))

theorem lookups_ap_ap (u : Program (β → Run γ)) (v : Program (α → Run β)) (w : Program α)
    (source : Source) (path : KeyPath) :
    (ap u (ap v w)).lookups s source path =
      (ap (ap (map u composed) v) w).lookups s source path := by
  have hmap : (map u composed).lookups s source path = u.lookups s source path :=
    lookups_map hs source path u (composed (α := α))
  cases hu : (u.run s source path).outcome with
  | error e =>
      have hmap' : ((map u (composed (α := α))).run s source path).outcome = .error e := by
        rw [run, Run.bind_of_error hu]
      have hap : ((ap (map u (composed (α := α))) v).run s source path).outcome = .error e := by
        rw [run, Run.bind_of_error hmap']
      rw [lookups_ap_of_error hs source path _ hu, lookups_ap_of_error hs source path w hap,
        lookups_ap_of_error hs source path v hmap', hmap]
  | ok g =>
      obtain ⟨g', hg', hcompose⟩ := hs.ap_ap (α := α) g
      have hmap' : ((map u (composed (α := α))).run s source path).outcome = .ok g' := by
        rw [run, Run.bind_of_ok hu, hg']
        rfl
      rw [lookups_ap_of_ok hs source path _ hu]
      cases hv : (v.run s source path).outcome with
      | error e =>
          have hap : ((ap (map u (composed (α := α))) v).run s source path).outcome =
              .error e := by
            rw [run, Run.bind_of_ok hmap', Run.bind_of_error hv]
          rw [lookups_ap_of_error hs source path w hv, lookups_ap_of_error hs source path w hap,
            lookups_ap_of_ok hs source path v hmap', hmap]
      | ok f =>
          obtain ⟨k, hk, -⟩ := hcompose f
          have hap : ((ap (map u (composed (α := α))) v).run s source path).outcome = .ok k := by
            rw [run, Run.bind_of_ok hmap', Run.bind_of_ok hv, hk]
            rfl
          rw [lookups_ap_of_ok hs source path w hv, lookups_ap_of_ok hs source path w hap,
            lookups_ap_of_ok hs source path v hmap', hmap, List.append_assoc]

end Laws

theorem nested_map (s : Strategy F) (key : Key) (p : Program α) (fn : α → Run β) :
    SameBy s (nested key (map p fn)) (map (nested key p) fn) := fun _ _ => ⟨rfl, rfl⟩

theorem nested_ap (s : Strategy F) (key : Key) (u : Program (α → Run β)) (p : Program α) :
    SameBy s (nested key (ap u p)) (ap (nested key u) (nested key p)) := fun _ _ => ⟨rfl, rfl⟩

/-- The laws of application.  The first two are about functions that are mapped: one that gives
back its argument may be left out, and two are as good as one.  A constant function of a
constant is a constant if the call returns, and a constant argument may be handed to the
function instead.  Functions may be composed before they are applied, if those that are then
called first return.  A scope around a program is a scope around its parts. -/
theorem applicative_laws {α β γ : Type} :
    (∀ p : Program α, Same (map p Run.pure) p) ∧
    (∀ (p : Program α) (f : α → Run β) (g : β → Run γ),
      Same (map (map p f) g) (map p fun a => (f a).bind g)) ∧
    (∀ (f : α → Run β) (x : α) (y : β), (f x).outcome = .ok y →
      Same (ap (pure f) (pure x)) (pure y)) ∧
    (∀ (u : Program (α → Run β)) (x : α), Same (ap u (pure x)) (map u fun h => h x)) ∧
    (∀ (u : Program (β → Run γ)) (v : Program (α → Run β)) (w : Program α),
      (ap v w).FunctionsReturn →
        Same (ap u (ap v w)) (ap (ap (map u fun g => Run.pure fun f => Run.pure fun a =>
          (f a).bind g) v) w)) ∧
    (∀ (key : Key) (p : Program α) (f : α → Run β),
      Same (nested key (map p f)) (map (nested key p) f)) ∧
    ∀ (key : Key) (u : Program (α → Run β)) (p : Program α),
      Same (nested key (ap u p)) (ap (nested key u) (nested key p)) := by
  refine ⟨fun p => ?_, fun p f g => ?_, fun f x y h => ?_, fun u x => ?_, fun u v w h => ?_,
    fun key p f => ?_, fun key u p => ?_⟩
  · exact .of_lawful (fun s hs => map_return hs p) fun _ => rfl
  · exact .of_lawful (fun s hs => map_map hs p f g) fun _ => rfl
  · exact .of_lawful (fun s hs => pure_ap_pure hs h) fun _ => rfl
  · exact .of_lawful (fun s hs => ap_pure hs u x) fun _ => List.append_nil _
  · refine .of_lawful (fun s hs source path => ?_) fun _ => (List.append_assoc _ _ _).symm
    exact ⟨outcome_ap_ap hs u h source path, lookups_ap_ap hs u v w source path⟩
  · exact .of_lawful (fun s _ => nested_map s key p f) fun _ => rfl
  · exact .of_lawful (fun s _ => nested_ap s key u p) fun _ => rfl

/-- Three reads that fail, grouped in both ways.  The issues come from right to left. -/
theorem applicative_laws_of_failed_reads :
    let a : Key := ⟨"a", by decide⟩
    let b : Key := ⟨"b", by decide⟩
    let c : Key := ⟨"c", by decide⟩
    let plus (n m : Int) : Run Int := Run.pure (n + m)
    let u := map (scalar .integer a) fun n => Run.pure (plus n)
    let v := map (scalar .integer b) fun n => Run.pure (plus n)
    let w := scalar .integer c
    let grouped := ap (ap (map u fun g => Run.pure fun f => Run.pure fun a => (f a).bind g) v) w
    let source := Source.flat "<mapping>" [("b", "two")]
    ((ap v w).FunctionsReturn ∧ Same (ap u (ap v w)) grouped) ∧
      (grouped.run validating source .root).outcome = .ok (.invalid
        [⟨"c", .missingKey, "key not found: c"⟩, ⟨"b", .malformedValue, "key not found: b"⟩,
          ⟨"a", .missingKey, "key not found: a"⟩]) ∧
      (plus 1 2).outcome = .ok 3 ∧ Same (ap (pure (plus 1)) (pure 2)) (pure 3) := by
  intro a b c plus u v w grouped source
  have hreturn : (ap v w).FunctionsReturn := by
    refine ⟨⟨⟨trivial, fun n _ => ⟨plus n, rfl⟩⟩, trivial⟩, ?_⟩
    rintro f m ⟨n, -, hf⟩ -
    cases hf
    exact ⟨n + m, rfl⟩
  obtain ⟨-, -, hconstant, -, hgrouped, -⟩ := applicative_laws (α := Int) (β := Int) (γ := Int)
  exact ⟨⟨hreturn, hgrouped u v w hreturn⟩, rfl, rfl, hconstant (plus 1) 2 3 rfl⟩

end Program

end ConfigReader
