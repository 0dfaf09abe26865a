import ConfigReader.Proofs.Traces
import ConfigReader.Source.Document
import ConfigReader.Source.Flat

/-!
# Runs by replies

All that an eager run takes from a source are the replies to its lookups.  So a run
that returns a value returns it over any other source that gives the same replies
(`Program.eager_of_replies`).  Only the replies to the lookups of this run matter, and
only what is said of values: the other source may have values where this one has none.
-/

namespace ConfigReader

/-! ## Replies without events -/

/-- The reply that an answer at a path comes to. -/
def replyAt {α : Type} (path : Text) : Except Failure (Option α) → Except Halt α
  | .ok (some a) => .ok a
  | .ok none => .error (.unread (.missing path))
  | .error (.read (.malformed path expected raw)) => .error (.unread (.malformed path expected raw))
  | .error f => .error (.raised f)

theorem Source.reply_of_answer {source : Source} {q : Lookup}
    {r : Except Failure (Option q.Answer)} (h : source.answer q = Run.ofExcept r) :
    source.reply q = replyAt q.path r := by
  unfold Source.reply
  rw [h]
  match r with
  | .ok (some a) => rfl
  | .ok none => rfl
  | .error f => cases f with
    | read cause => cases cause <;> rfl
    | _ => rfl

theorem Source.reply_flat (origin : Text) (entries : Entries) (q : Lookup) :
    (flat origin entries).reply q = replyAt q.path (entries.answer q) := reply_of_answer rfl

theorem Source.reply_ofDocument (origin : Text) (entries : List (Value × Value)) (q : Lookup) :
    (ofDocument origin entries).reply q = replyAt q.path (Document.answer (.map entries) q) :=
  reply_of_answer rfl

/-! ## Ends of eager runs -/

section Lists

variable {ι α : Type}

theorem mapM_of_forall {f g : ι → Except Halt α} :
    ∀ {ids : List ι} {items : List α}, (∀ i ∈ ids, ∀ a, f i = .ok a → g i = .ok a) →
      ids.mapM f = .ok items → ids.mapM g = .ok items
  | [], items, _, hitems => hitems
  | i :: rest, items, h, hitems => by
      rw [List.mapM_cons] at hitems ⊢
      cases hi : f i with
      | error halt =>
          rw [hi] at hitems
          cases hitems
      | ok a =>
          cases hrest : rest.mapM f with
          | error halt =>
              rw [hi, hrest] at hitems
              cases hitems
          | ok more =>
              have hmore := mapM_of_forall (fun j hj => h j (List.mem_cons_of_mem i hj)) hrest
              rw [h i List.mem_cons_self a hi, hmore, ← hitems, hi, hrest]

end Lists

theorem Except.bind_eq_ok {ε α β : Type} {x : Except ε α} {f : α → Except ε β} {b : β} :
    x.bind f = .ok b ↔ ∃ a, x = .ok a ∧ f a = .ok b := by
  cases x <;> simp [Except.bind]

theorem mapError_eq_ok {ε ε' α : Type} {f : ε → ε'} {x : Except ε α} {a : α} :
    x.mapError f = .ok a ↔ x = .ok a := by
  cases x with
  | error e => exact ⟨nofun, nofun⟩
  | ok b => exact ⟨fun h => congrArg _ (Except.ok.inj h), fun h => congrArg _ (Except.ok.inj h)⟩

namespace Program

variable {α : Type}

/-- A run that returns a value returns it again if its lookups have the same replies. -/
theorem ending_of_replies {source source' : Source} {p : Program α} {path : KeyPath} {v : α}
    (hv : p.ending source path = .ok v)
    (h : ∀ q ∈ p.reads source path, ∀ a, source.reply q = .ok a → source'.reply q = .ok a) :
    p.ending source' path = .ok v := by
  induction p generalizing path with
  | pure value => exact hv
  | scalar kind key => exact h _ List.mem_cons_self v hv
  | scalars key kind =>
      obtain ⟨ids, hids, hitems⟩ := Except.bind_eq_ok.mp hv
      refine Except.bind_eq_ok.mpr ⟨ids, h _ List.mem_cons_self ids hids, ?_⟩
      refine mapM_of_forall (fun id hid a ha => ?_) hitems
      have hread : Lookup.scalar kind ((path.child key.text).resolve id) ∈
          (scalars key kind).reads source path := by
        rw [reads, Source.elementIds_of_ok hids]
        exact List.mem_cons_of_mem _ (List.mem_map_of_mem hid)
      exact mapError_eq_ok.mpr (h _ hread a (mapError_eq_ok.mp ha))
  | records key item ih =>
      obtain ⟨ids, hids, hitems⟩ := Except.bind_eq_ok.mp hv
      refine Except.bind_eq_ok.mpr ⟨ids, h _ List.mem_cons_self ids hids, ?_⟩
      refine mapM_of_forall (fun id hid a ha => ?_) hitems
      refine mapError_eq_ok.mpr (ih (mapError_eq_ok.mp ha) fun q hq => h q ?_)
      rw [reads, Source.recordIds_of_ok hids]
      exact List.mem_cons_of_mem _ (List.mem_flatMap.mpr ⟨id, hid, hq⟩)
  | nested key inner ih => exact ih hv h
  | map program fn ih =>
      obtain ⟨a, ha, hb⟩ := Except.bind_eq_ok.mp hv
      exact Except.bind_eq_ok.mpr ⟨a, ih ha h, hb⟩
  | ap fnProgram program ihf iha =>
      obtain ⟨f, hf, hv⟩ := Except.bind_eq_ok.mp hv
      obtain ⟨a, ha, hb⟩ := Except.bind_eq_ok.mp hv
      have hf' := ihf hf fun q hq => h q (List.mem_append_left _ hq)
      have ha' := iha ha fun q hq => h q (List.mem_append_right _ hq)
      exact Except.bind_eq_ok.mpr ⟨f, hf', Except.bind_eq_ok.mpr ⟨a, ha', hb⟩⟩
  | unsupported typeName => cases hv

variable {p : Program α} {source source' : Source} {path : KeyPath} {v : α}

theorem eager_eq_ok : (p.run eager source path).outcome = .ok v ↔ p.ending source path = .ok v := by
  rw [(p.run_cut source path).outcome, mapError_eq_ok]

/-- An eager run that returns a value returns it over every source that gives the same
replies to its lookups. -/
theorem eager_of_replies (hv : (p.run eager source path).outcome = .ok v)
    (h : ∀ q ∈ p.reads source path, ∀ a, source.reply q = .ok a → source'.reply q = .ok a) :
    (p.run eager source' path).outcome = .ok v :=
  eager_eq_ok.mpr (ending_of_replies (eager_eq_ok.mp hv) h)

/-- An eager run that returns a value has made all lookups of the program. -/
theorem lookups_eager (hv : (p.run eager source path).outcome = .ok v) :
    p.lookups eager source path = p.reads source path := by
  have hvalid : (p.run validating source path).outcome = .ok (.valid v) := by
    rw [run_validating, (p.run_cut source path).of_value hv]
    rfl
  rw [← lookups_validating hvalid, lookups, lookups, trace_eager_eq (.inl ⟨v, hv⟩)]

end Program

end ConfigReader
