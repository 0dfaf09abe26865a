import ConfigReader.Proofs.Lookups

/-!
# Runs that come to their end

Failed reads do not end the run of an accumulating strategy.  Three other things do: a
function that raises an error, a source that answers with an error of another kind, and
an object of another type in the place of a program.  Without these,
`Program.run_returns` gives the run an end, with a value that the program can yield or
with failed reads.  `Program.run_ends` is the same for lookups that may end with an error, and
for objects of another type, whose error is then the one that ends the run.

Whether a function raises an error matters for the arguments it can have only.  These
are what the program below it can yield, if a read can come to any value.
-/

namespace ConfigReader

/-! ## Sources that answer -/

/-- A lookup is answered by a value, by nothing, or by an error for a value that does
not fit. -/
def Source.Answers (source : Source) (q : Lookup) : Prop :=
  match (source.answer q).outcome with
  | .ok _ => True
  | .error e => ∃ path expected raw, e.failure = .read (.malformed path expected raw)

/-- An answered lookup is one whose reply is a value or a failed read. -/
theorem Source.answers_iff {source : Source} {q : Lookup} :
    source.Answers q ↔ ∀ e, source.reply q ≠ .error (.raised e) := by
  unfold Source.Answers Source.reply
  cases ho : (source.answer q).outcome with
  | ok a => cases a <;> simp
  | error e =>
      cases hf : e.failure with
      | read cause => cases cause <;> simp [hf]
      | _ => simp [hf]

/-! ## Programs whose functions return -/

namespace Program

/-- There is a program in every place. -/
def Supported : {α : Type} → Program α → Prop
  | _, pure _ => True
  | _, scalar _ _ => True
  | _, scalars _ _ => True
  | _, records _ item => item.Supported
  | _, nested _ inner => inner.Supported
  | _, map program _ => program.Supported
  | _, ap fnProgram program => fnProgram.Supported ∧ program.Supported
  | _, unsupported _ => False

/-- The values that a program can yield, if a read can come to any value. -/
def Yields : {α : Type} → Program α → α → Prop
  | _, pure value, a => a = value
  | _, scalar _ _, _ => True
  | _, scalars _ _, _ => True
  | _, records _ item, items => ∀ a ∈ items, item.Yields a
  | _, nested _ inner, a => inner.Yields a
  | _, map program fn, b => ∃ a, program.Yields a ∧ (fn a).outcome = .ok b
  | _, ap fnProgram program, b =>
      ∃ f a, fnProgram.Yields f ∧ program.Yields a ∧ (f a).outcome = .ok b
  | _, unsupported _, _ => False

/-- No function raises an error on an argument it can have. -/
def FunctionsReturn : {α : Type} → Program α → Prop
  | _, pure _ => True
  | _, scalar _ _ => True
  | _, scalars _ _ => True
  | _, records _ item => item.FunctionsReturn
  | _, nested _ inner => inner.FunctionsReturn
  | _, map program fn =>
      program.FunctionsReturn ∧ ∀ a, program.Yields a → ∃ b, (fn a).outcome = .ok b
  | _, ap fnProgram program =>
      (fnProgram.FunctionsReturn ∧ program.FunctionsReturn) ∧
        ∀ f a, fnProgram.Yields f → program.Yields a → ∃ b, (f a).outcome = .ok b
  | _, unsupported _ => True

/-- The functions of a joined program return if those of its parts and the joining one do. -/
theorem functionsReturn_map2 {α β γ : Type} {a : Program α} {b : Program β}
    {fn : α → β → Run γ} (ha : a.FunctionsReturn) (hb : b.FunctionsReturn)
    (h : ∀ x y, a.Yields x → b.Yields y → ∃ c, (fn x y).outcome = .ok c) :
    (map2 a b fn).FunctionsReturn := by
  refine ⟨⟨⟨ha, fun x _ => ⟨_, rfl⟩⟩, hb⟩, ?_⟩
  rintro f y ⟨x, hx, hf⟩ hy
  cases hf
  exact h x y hx hy

end Program

/-! ## Runs that come to an end -/

variable {α β : Type}

/-- What is carried is a value of a kind, or failed reads. -/
def Collected.Within (P : α → Prop) : Collected α → Prop
  | value a => P a
  | failed _ _ => True

/-- The run comes to its end, with values of a kind only. -/
def Returns (P : α → Prop) (x : Run (Collected α)) : Prop :=
  ∃ y, x.outcome = .ok y ∧ y.Within P

/-- The run comes to its end, with values of a kind only, or an error of a kind ends it. -/
def Ends (P : α → Prop) (E : Raised → Prop) (x : Run (Collected α)) : Prop :=
  Returns P x ∨ ∃ e, x.outcome = .error e ∧ E e

namespace Ends

variable {P : α → Prop} {Q : β → Prop} {E : Raised → Prop}

theorem pure {a : α} (h : P a) : Ends P E (Run.pure (.value a)) := .inl ⟨.value a, rfl, h⟩

theorem failed (first : ReadFailure) (rest : List ReadFailure) :
    Ends P E (Run.pure (.failed first rest)) := .inl ⟨.failed first rest, rfl, trivial⟩

theorem asItem (hE : ∀ e, E e → E e.leavingItem) {x : Run (Collected α)} (h : Ends P E x) :
    Ends P E x.asItem := by
  obtain ⟨y, hx, hy⟩ | ⟨e, hx, he⟩ := h
  · exact .inl ⟨y, Run.asItem_eq_ok.mpr hx, hy⟩
  · refine .inr ⟨e.leavingItem, ?_, hE e he⟩
    rw [Run.asItem, hx]
    rfl

/-- A run is continued with what is carried. -/
theorem bind {x : Run (Collected α)} {k : Collected α → Run (Collected β)} (h : Ends P E x)
    (hk : ∀ y, y.Within P → Ends Q E (k y)) : Ends Q E (x.bind k) := by
  obtain ⟨y, hx, hy⟩ | ⟨e, hx, he⟩ := h
  · obtain ⟨z, hz, hQ⟩ | ⟨e, hz, he⟩ := hk y hy
    · exact .inl ⟨z, Run.bind_eq_ok.mpr ⟨y, hx, hz⟩, hQ⟩
    · refine .inr ⟨e, ?_, he⟩
      rw [Run.bind_of_ok hx, hz]
  · refine .inr ⟨e, ?_, he⟩
    rw [Run.bind_of_error hx]

/-- A call that returns gives a value. -/
theorem call {x : Run β} (h : ∃ b, x.outcome = .ok b) (hQ : ∀ b, x.outcome = .ok b → Q b) :
    Ends Q E (x.bind fun b => Run.pure (.value b)) := by
  obtain ⟨b, hb⟩ := h
  exact .inl ⟨.value b, Run.bind_eq_ok.mpr ⟨b, hb, rfl⟩, hQ b hb⟩

theorem withAnswer {source : Source} {q : Lookup} {use : q.Answer → Run (Collected β)}
    (hq : ∀ e, source.reply q = .error (.raised e) → E e)
    (h : ∀ a, source.reply q = .ok a → Ends Q E (use a)) :
    Ends Q E (collecting.withAnswer source q use) := by
  rw [Strategy.withAnswer_eq]
  cases hr : source.reply q with
  | ok a => exact h a hr
  | error halt => cases halt with
    | unread f => exact failed f []
    | raised e => exact .inr ⟨e, rfl, hq e hr⟩

theorem scalar {source : Source} {path : Text} {kind : Kind}
    (hq : ∀ e, source.reply (.scalar kind path) = .error (.raised e) → E e) :
    Ends (fun _ => True) E (collecting.scalar source path kind) :=
  withAnswer hq fun _ _ => pure trivial

/-- A list comes to its end if its elements do. -/
theorem gather (hE : ∀ e, E e → E e.leavingItem) {ι : Type} {element : ι → Run (Collected α)} :
    ∀ {ids : List ι} {items : Collected (List α)}, (∀ i ∈ ids, Ends P E (element i)) →
      items.Within (fun as => ∀ a ∈ as, P a) →
        Ends (fun as => ∀ a ∈ as, P a) E (collecting.gather element items ids)
  | [], items, _, hitems => .inl ⟨items, rfl, hitems⟩
  | i :: rest, items, h, hitems => by
      rw [gather_collecting]
      refine ((h i List.mem_cons_self).asItem hE).bind fun item hitem =>
        gather hE (fun j hj => h j (List.mem_cons_of_mem i hj)) ?_
      cases items with
      | failed first rest => trivial
      | value as => cases item with
        | failed first rest => trivial
        | value a =>
            intro b hb
            obtain hb | hb := List.mem_append.mp hb
            · exact hitems b hb
            · rw [List.mem_singleton.mp hb]
              exact hitem

end Ends

namespace Program

/-- If the functions return, a collecting run comes to its end, with a value that the
program can yield or with failed reads, or the error of a lookup ends it, or that of an object
in the place of a program. -/
theorem run_ends {E : Raised → Prop} (hE : ∀ e, E e → E e.leavingItem) {source : Source}
    {p : Program α} {path : KeyPath}
    (hs : p.Supported ∨ ∀ typeName, E (Failure.program (.unsupportedNode typeName)))
    (hf : p.FunctionsReturn)
    (hq : ∀ q ∈ p.reads source path, ∀ e, source.reply q = .error (.raised e) → E e) :
    Ends p.Yields E (p.run collecting source path) := by
  induction p generalizing path with
  | pure value => exact .pure rfl
  | scalar kind key => exact .scalar (hq _ List.mem_cons_self)
  | scalars key kind =>
      refine .withAnswer (hq _ List.mem_cons_self) fun ids hr => ?_
      have hids : ∀ id ∈ ids, Ends (fun _ => True) E
          (collecting.scalar source ((path.child key.text).resolve id) kind) := by
        intro id hid
        refine .scalar (hq _ (List.mem_cons_of_mem _ (List.mem_map_of_mem ?_)))
        rw [Source.elementIds_of_ok hr]
        exact hid
      have hnil : (Collected.value ([] : List kind.Carrier)).Within fun as => ∀ a ∈ as, True :=
        fun _ _ => trivial
      obtain ⟨y, hy, _⟩ | he := Ends.gather hE hids hnil
      · refine .inl ⟨y, hy, ?_⟩
        cases y <;> trivial
      · exact .inr he
  | records key item ih =>
      refine .withAnswer (hq _ List.mem_cons_self) fun ids hr => .gather hE ?_ ?_
      · intro id hid
        refine ih hs hf fun q hmem => hq q (List.mem_cons_of_mem _ (List.mem_flatMap.mpr ?_))
        rw [Source.recordIds_of_ok hr]
        exact ⟨id, hid, hmem⟩
      · exact fun a ha => nomatch ha
  | nested key inner ih => exact ih hs hf hq
  | map program fn ih =>
      refine (ih hs hf.1 hq).bind fun y hy => ?_
      cases y with
      | failed first rest => exact .failed first rest
      | value a => exact .call (hf.2 a hy) fun b hb => ⟨a, hy, hb⟩
  | ap fnProgram program ihf iha =>
      refine (ihf (hs.imp_left And.left) hf.1.1 fun q h =>
        hq q (List.mem_append_left _ h)).bind fun y hy => ?_
      refine (iha (hs.imp_left And.right) hf.1.2 fun q h =>
        hq q (List.mem_append_right _ h)).bind fun z hz => ?_
      cases y with
      | failed first rest => exact .failed _ _
      | value f => cases z with
        | failed first rest => exact .failed _ _
        | value a => exact .call (hf.2 f a hy hz) fun b hb => ⟨f, a, hy, hz, hb⟩
  | unsupported typeName => exact .inr ⟨_, rfl, hs.resolve_left id typeName⟩

/-- A collecting run comes to its end if the functions return and the lookups are
answered, with a value that the program can yield or with failed reads. -/
theorem run_returns {source : Source} {p : Program α} {path : KeyPath}
    (hs : p.Supported) (hf : p.FunctionsReturn)
    (hq : ∀ q ∈ p.reads source path, source.Answers q) :
    Returns p.Yields (p.run collecting source path) := by
  have hnone : ∀ q ∈ p.reads source path, ∀ e, source.reply q = .error (.raised e) → False :=
    fun q hmem e he => source.answers_iff.mp (hq q hmem) e he
  obtain h | ⟨e, _, he⟩ := run_ends (fun _ he => he) (.inl hs) hf hnone
  · exact h
  · exact he.elim

/-- A validating run comes to its end if the functions return and the lookups are
answered. -/
theorem validating_returns {source : Source} {p : Program α} {path : KeyPath}
    (hs : p.Supported) (hf : p.FunctionsReturn)
    (hq : ∀ q ∈ p.reads source path, source.Answers q) :
    ∃ r, (p.run validating source path).outcome = .ok r := by
  obtain ⟨y, hy, _⟩ := run_returns hs hf hq
  exact ⟨y.toValidated, validating_eq_ok.mpr ⟨y, hy, rfl⟩⟩

end Program

end ConfigReader
