import ConfigReader.Proofs.Decimals
import ConfigReader.Proofs.Runs
import ConfigReader.Source.Cyclic
import ConfigReader.Source.Flat
import ConfigReader.Source.Layered
import Mathlib.Data.List.TakeWhile

/-!
# Errors of sources

The sources of the library are tables, documents, webs, and layers of these.  An
error of one of them has one of two causes: the value at the path asked for does not
fit, or an integer has too many digits (`Source.Built.error_cause`).  So a failed
read is always about the path asked for (`Source.Built.path_of_failure`).
-/

namespace ConfigReader

/-- A source made by the library: a table, a document, a web, or layers. -/
inductive Source.Built : Source → Prop where
  /-- A table. -/
  | flat (origin : Text) (entries : Entries) : Built (.flat origin entries)
  /-- A document. -/
  | document (origin : Text) (entries : List (Value × Value)) : Built (.ofDocument origin entries)
  /-- A document that may hold itself. -/
  | web (origin : Text) (w : Web) : Built (.ofWeb origin w)
  /-- Layers. -/
  | layered (layers : List Source) (h : ∀ s ∈ layers, Built s) : Built (.layered layers)

/-- What goes wrong with a lookup at a path: the value there does not fit, or an integer
has too many digits. -/
def Failure.OfRead (path : Text) (f : Failure) : Prop :=
  (∃ expected raw, f = .read (.malformed path expected raw)) ∨ ∃ digits, f = .integerTooLong digits

theorem Failure.malformed_ofRead (path expected : Text) (raw : Value) :
    (Failure.malformed path expected raw).OfRead path := by
  unfold Failure.malformed
  split
  · exact .inl ⟨expected, raw, rfl⟩
  · exact .inr ⟨none, rfl⟩

/-- An error of a read is not the one for the end of items. -/
theorem Failure.OfRead.not_stopIteration {path : Text} {f : Failure} (h : f.OfRead path) :
    f.isA .stopIteration = false := by
  obtain ⟨expected, raw, rfl⟩ | ⟨digits, rfl⟩ := h <;> rw [isA, errorClass] <;> decide

/-! ## Scalars -/

theorem parseInteger_error {text path : Text} {f : Failure}
    (h : parseInteger text path = .error f) : f.OfRead path := by
  unfold parseInteger at h
  simp only at h
  split at h
  · split at h
    · cases h
      exact .inr ⟨_, rfl⟩
    · cases h
  · cases h
    exact Failure.malformed_ofRead ..

theorem parseBoolean_error {text path : Text} {f : Failure}
    (h : parseBoolean text path = .error f) : f.OfRead path := by
  unfold parseBoolean at h
  simp only at h
  split at h
  · cases h
  · split at h
    · cases h
    · cases h
      exact Failure.malformed_ofRead ..

theorem parseScalar_error {text path : Text} {kind : Kind} {f : Failure}
    (h : parseScalar text path kind = .error f) : f.OfRead path := by
  cases kind with
  | string => cases h
  | integer => exact parseInteger_error h
  | boolean => exact parseBoolean_error h

/-! ## Tables -/

theorem Entries.elementIds_error {entries : Entries} {path : Text} {f : Failure}
    (h : entries.elementIds path = .error f) : f.OfRead path := by
  unfold elementIds at h
  simp only at h
  split at h
  · cases h
    exact .inr ⟨_, rfl⟩
  · cases h

theorem Entries.present_error {r : Except Failure (List Text)} {f : Failure}
    (h : Entries.answer.present r = .error f) : r = .error f := by
  cases r with
  | error g =>
      cases h
      rfl
  | ok ids => cases ids <;> cases h

theorem Entries.answer_error {entries : Entries} {q : Lookup} {f : Failure}
    (h : entries.answer q = .error f) : f.OfRead q.path := by
  cases q with
  | scalar kind path =>
      simp only [answer] at h
      split at h
      · cases h
      · next text _ =>
          cases hp : parseScalar text path kind with
          | error g =>
              rw [hp] at h
              cases h
              exact parseScalar_error hp
          | ok a =>
              rw [hp] at h
              cases h
  | elements path kind => exact elementIds_error (present_error h)
  | records path => exact elementIds_error (present_error h)

/-- What follows a lead is found behind it. -/
theorem Text.after?_append (lead t : Text) : Text.after? lead (lead ++ t) = some t := by
  induction lead with
  | nil => cases t <;> rfl
  | cons a lead ih =>
      rw [List.cons_append, after?, if_pos rfl]
      exact ih

namespace Entries

/-- The segment of an element id is the id. -/
theorem segmentAfter?_of_digits {id : Text} (h : id.isDigits = true) (path : Text) :
    segmentAfter? path (path ++ [separator] ++ id) = some id := by
  have hid : ∀ c ∈ id, decide (c ≠ separator) = true := fun c hc =>
    decide_eq_true fun heq => Text.separator_notMem_of_isDigits h (heq ▸ hc)
  rw [segmentAfter?, Text.after?_append, Option.map_some]
  exact congrArg some (List.takeWhile_eq_self_iff.mpr hid)

/-- An element id of too many digits is not put in order. -/
theorem elementIds_of_long_id {id : Text} (h : id.isDigits = true)
    (hlong : digitLimit < id.length) (path text : Text) :
    elementIds [(path ++ [separator] ++ id, text)] path =
      .error (.integerTooLong (some id.length)) := by
  have hone : ([id].filter Text.isDigits).eraseDups = [id] := by
    rw [List.filter_cons_of_pos h]
    rfl
  have hfind : [id].find? (fun t => decide (t.length > digitLimit)) = some id := by
    rw [List.find?_cons, decide_eq_true hlong]
  simp only [elementIds, List.filterMap_cons, List.filterMap_nil, segmentAfter?_of_digits h path]
  rw [hone, hfind]

end Entries

/-! ## Documents -/

namespace Document

theorem element?_error {α : Type} {items : List α} {segment path : Text} {f : Failure}
    (h : element? items segment = .error f) : f.OfRead path := by
  unfold element? at h
  split at h
  · cases h
  · split at h
    · cases h
      exact .inr ⟨_, rfl⟩
    · cases h

theorem descend?_error {path : Text} :
    ∀ {segments : List Text} {v : Value} {f : Failure},
      descend? segments v = .error f → f.OfRead path
  | segments, v, f, h => by
      unfold descend? at h
      split at h
      · cases h
      · cases h
      · split at h
        · cases h
        · exact descend?_error h
      · split at h
        · next hf =>
            cases h
            exact element?_error hf
        · cases h
        · exact descend?_error h
      · cases h

theorem toScalar_error {path : Text} {v : Value} {kind : Kind} {f : Failure}
    (h : toScalar path v kind = .error f) : f.OfRead path := by
  cases kind with
  | string =>
      simp only [toScalar, toText] at h
      split at h
      · cases h
      · cases h
        exact Failure.malformed_ofRead ..
      · cases h
        exact Failure.malformed_ofRead ..
      · split at h
        · cases h
        · cases h
          exact .inr ⟨_, rfl⟩
  | integer =>
      simp only [toScalar, toInteger] at h
      split at h
      · cases h
      · exact parseInteger_error h
      · cases h
        exact Failure.malformed_ofRead ..
  | boolean =>
      simp only [toScalar, toBoolean] at h
      split at h
      · cases h
      · exact parseBoolean_error h
      · cases h
        exact Failure.malformed_ofRead ..

theorem elementIds_error {path expected : Text} {v : Value} {f : Failure}
    (h : elementIds path expected v = .error f) : f.OfRead path := by
  unfold elementIds at h
  split at h
  · cases h
  · cases h
    exact Failure.malformed_ofRead ..

theorem answerBy_error {v : Value} {q : Lookup} {f : Failure}
    (h : answerBy v q = .error f) : f.OfRead q.path := by
  cases q with
  | scalar kind path => exact toScalar_error h
  | elements path kind => exact elementIds_error h
  | records path => exact elementIds_error h

theorem answer_error {document : Value} {q : Lookup} {f : Failure}
    (h : answer document q = .error f) : f.OfRead q.path := by
  unfold answer at h
  cases hl : lookup? document q.path with
  | error g =>
      rw [hl] at h
      cases h
      exact descend?_error hl
  | ok found => cases found with
    | none =>
        rw [hl] at h
        cases h
    | some v =>
        cases ha : answerBy v q with
        | error g =>
            simp only [hl, ha, Bind.bind, Except.bind] at h
            cases h
            exact answerBy_error ha
        | ok a =>
            simp only [hl, ha, Bind.bind, Except.bind] at h
            cases h

end Document

/-! ## Webs -/

namespace Web

theorem descend?_error {w : Web} {path : Text} :
    ∀ {segments : List Text} {item : Item} {f : Failure},
      w.descend? segments item = .error f → f.OfRead path
  | segments, .leaf v, f, h => by
      rw [descend?] at h
      cases hd : Document.descend? segments v with
      | error g =>
          rw [hd] at h
          cases h
          exact Document.descend?_error hd
      | ok found =>
          rw [hd] at h
          cases h
  | [], .collection place, f, h => by cases h
  | segment :: rest, .collection place, f, h => by
      rw [descend?] at h
      split at h
      · split at h
        · cases h
        · exact descend?_error h
      · split at h
        · next hf =>
            cases h
            exact Document.element?_error hf
        · cases h
        · exact descend?_error h
      · cases h

theorem answer_error {w : Web} {q : Lookup} {f : Failure} (h : w.answer q = .error f) :
    f.OfRead q.path := by
  unfold answer at h
  cases hl : w.descend? (q.path.splitOn separator) w.root with
  | error g =>
      rw [hl] at h
      cases h
      exact descend?_error hl
  | ok found => cases found with
    | none =>
        rw [hl] at h
        cases h
    | some item =>
        cases ha : Document.answerBy (w.unfold item) q with
        | error g =>
            simp only [hl, ha, Bind.bind, Except.bind] at h
            cases h
            exact Document.answerBy_error ha
        | ok a =>
            simp only [hl, ha, Bind.bind, Except.bind] at h
            cases h

end Web

/-! ## Sources -/

theorem Run.ofExcept_error {α : Type} {x : Except Failure α} {e : Raised}
    (h : (Run.ofExcept x).outcome = .error e) : x = .error e.failure := by
  cases x with
  | error f =>
      cases h
      rfl
  | ok a => cases h

namespace Source

/-- Layers fail as one of them fails, as an item of a list. -/
theorem firstAnswer_error {q : Lookup} {e : Raised} :
    ∀ {layers : List Source}, (firstAnswer q layers).outcome = .error e →
      ∃ s ∈ layers, ∃ e', (s.answer q).outcome = .error e' ∧ e = e'.leavingItem
  | [], h => by cases h
  | s :: rest, h => by
      rw [firstAnswer, Run.outcome_bind, Run.asItem] at h
      cases hs : (s.answer q).outcome with
      | error e' =>
          rw [hs] at h
          cases h
          exact ⟨s, List.mem_cons_self, e', hs, rfl⟩
      | ok a =>
          rw [hs] at h
          cases a with
          | some answer => cases h
          | none =>
              obtain ⟨t, ht, he⟩ := firstAnswer_error h
              exact ⟨t, List.mem_cons_of_mem s ht, he⟩

/-- An error of a source is about the value at the path asked for, or about an integer
with too many digits. -/
theorem Built.error_cause {source : Source} (hs : source.Built) {q : Lookup} {e : Raised}
    (h : (source.answer q).outcome = .error e) : e.failure.OfRead q.path := by
  induction hs generalizing e with
  | flat origin entries => exact Entries.answer_error (Run.ofExcept_error h)
  | document origin entries => exact Document.answer_error (Run.ofExcept_error h)
  | web origin w =>
      unfold ofWeb at h
      simp only at h
      split at h
      · exact Document.answer_error (Run.ofExcept_error h)
      · exact Web.answer_error (Run.ofExcept_error h)
  | layered layers _ ih =>
      obtain ⟨s, hs, e', he, rfl⟩ := firstAnswer_error h
      have hcause := ih s hs he
      rwa [e'.leavingItem_of_not hcause.not_stopIteration]

/-- A failed read is about the path asked for. -/
theorem Built.path_of_failure {source : Source} (hs : source.Built) {q : Lookup}
    {f : ReadFailure} (h : source.failure? q = some f) : f.path = q.path := by
  unfold failure? reply at h
  cases ho : (source.answer q).outcome with
  | ok a => cases a with
    | none =>
        rw [ho] at h
        cases h
        rfl
    | some a =>
        rw [ho] at h
        cases h
  | error e =>
      rw [ho] at h
      obtain ⟨expected, raw, he⟩ | ⟨digits, he⟩ := hs.error_cause ho
      · simp only [he] at h
        cases h
        rfl
      · simp only [he] at h
        cases h

end Source

end ConfigReader
