import ConfigReader.Proofs.Distinct
import ConfigReader.Proofs.Runs
import ConfigReader.Proofs.Tables
import ConfigReader.Source.Layered

/-!
# Layers of layers

A lookup goes down the layers.  A layer *passes* it if it answers with nothing, and the
first layer that does not pass it is the last one that is asked (`Source.firstAnswer_of_pass`).

The answer of layers is a product: `Run.orAsk` puts one answer above another one, and it
is associative.  So layers may be grouped into layers of their own, and neither an answer
nor its events tell (`Source.layered_nested`).  Keys do not tell either: they are put in
order and each one is kept once, so only their set matters (`Source.inOrder_congr`).
-/

namespace ConfigReader

/-! ## One answer above another one -/

namespace Run

variable {α : Type}

/-- An answer, and the one below it if it is nothing. -/
def orAsk (x y : Run (Option α)) : Run (Option α) :=
  x.bind fun found => match found with
    | some a => Run.pure (some a)
    | none => y

theorem orAsk_assoc (x y z : Run (Option α)) : (x.orAsk y).orAsk z = x.orAsk (y.orAsk z) := by
  unfold orAsk
  rw [bind_assoc]
  congr 1
  funext found
  cases found with
  | none => rfl
  | some a => exact pure_bind _ _

theorem nothing_orAsk (y : Run (Option α)) : (Run.pure none).orAsk y = y := pure_bind _ _

/-- Nothing leaves only its events. -/
theorem orAsk_of_nothing {x : Run (Option α)} (h : x.outcome = .ok none) (y : Run (Option α)) :
    x.orAsk y = y.after x.trace := bind_of_ok h _

/-- What is no such answer stands, be it a value or an error. -/
theorem orAsk_of_ne {x : Run (Option α)} (h : x.outcome ≠ .ok none) (y : Run (Option α)) :
    x.orAsk y = x := by
  obtain ⟨trace, outcome⟩ := x
  cases outcome with
  | error e => rfl
  | ok found => cases found with
    | none => exact absurd rfl h
    | some a =>
        rw [orAsk, bind_of_ok rfl]
        simp [Run.pure]

end Run

namespace Source

/-! ## Answers of layers -/

/-- A source as a layer.  It answers as it does by itself, but for the error that marks the
end of items. -/
def asLayer (s : Source) : Source := { s with answer := fun q => (s.answer q).asItem }

theorem asLayer_eq {s : Source}
    (h : ∀ q e, (s.answer q).outcome = .error e → e.failure.isA .stopIteration = false) :
    s.asLayer = s :=
  congrArg (Source.mk s.shown s.keys) (funext fun q => Run.asItem_of_not (h q))

theorem firstAnswer_cons (q : Lookup) (s : Source) (rest : List Source) :
    firstAnswer q (s :: rest) = (s.answer q).asItem.orAsk (firstAnswer q rest) := by
  rw [firstAnswer, Run.orAsk]
  congr 1
  funext found
  cases found <;> rfl

theorem firstAnswer_append (q : Lookup) (xs ys : List Source) :
    firstAnswer q (xs ++ ys) = (firstAnswer q xs).orAsk (firstAnswer q ys) := by
  induction xs with
  | nil => exact (Run.nothing_orAsk _).symm
  | cons s rest ih => rw [List.cons_append, firstAnswer_cons, ih, firstAnswer_cons, Run.orAsk_assoc]

/-- The answer of layers is an item as it is. -/
theorem asItem_firstAnswer (q : Lookup) (layers : List Source) :
    (firstAnswer q layers).asItem = firstAnswer q layers := by
  induction layers with
  | nil => rfl
  | cons s rest ih =>
      rw [firstAnswer_cons, Run.orAsk, Run.asItem_bind, Run.asItem_asItem]
      congr 1
      funext found
      cases found with
      | none => exact ih
      | some a => rfl

/-- A group of layers answers like its layers in its place. -/
theorem firstAnswer_group (q : Lookup) (ys zs : List Source) :
    firstAnswer q (layered ys :: zs) = firstAnswer q (ys ++ zs) := by
  rw [firstAnswer_append, firstAnswer_cons]
  exact congrArg (·.orAsk (firstAnswer q zs)) (asItem_firstAnswer q ys)

/-- The source has nothing for the lookup. -/
def Passes (s : Source) (q : Lookup) : Prop := (s.answer q).outcome = .ok none

/-- The events of a lookup at sources, one after another. -/
def eventsOf (q : Lookup) (layers : List Source) : List Event :=
  layers.flatMap fun s => (s.answer q).trace

/-- Layers that pass a lookup leave their events above what is below. -/
theorem firstAnswer_of_pass {q : Lookup} {above : List Source} (h : ∀ s ∈ above, s.Passes q)
    (below : List Source) :
    firstAnswer q (above ++ below) = (firstAnswer q below).after (eventsOf q above) := by
  induction above with
  | nil => rfl
  | cons s rest ih =>
      have hs : s.Passes q := h s List.mem_cons_self
      rw [List.cons_append, firstAnswer_cons, Run.orAsk_of_nothing (Run.asItem_eq_ok.mpr hs),
        ih fun t ht => h t (List.mem_cons_of_mem s ht)]
      simp [Run.after, Run.asItem, eventsOf]

/-- A layer that does not pass a lookup answers it, whatever is below. -/
theorem firstAnswer_of_settled {q : Lookup} {s : Source} (h : ¬ s.Passes q)
    (below : List Source) : firstAnswer q (s :: below) = (s.answer q).asItem :=
  (firstAnswer_cons q s below).trans
    (Run.orAsk_of_ne (fun hnone => h (Run.asItem_eq_ok.mp hnone)) _)

/-- All layers pass a lookup, or there is a first one that does not. -/
theorem all_pass_or_settled (q : Lookup) (layers : List Source) :
    (∀ s ∈ layers, s.Passes q) ∨
      ∃ above s below, layers = above ++ s :: below ∧ (∀ t ∈ above, t.Passes q) ∧ ¬ s.Passes q := by
  induction layers with
  | nil => exact .inl fun _ hs => nomatch hs
  | cons s rest ih =>
      by_cases hs : s.Passes q
      · obtain hrest | ⟨above, t, below, hsplit, habove, ht⟩ := ih
        · exact .inl (List.forall_mem_cons.mpr ⟨hs, hrest⟩)
        · refine .inr ⟨s :: above, t, below, ?_, List.forall_mem_cons.mpr ⟨hs, habove⟩, ht⟩
          rw [hsplit, List.cons_append]
      · exact .inr ⟨[], s, rest, rfl, nofun, hs⟩

/-! ## Keys of layers -/

/-- Keys in ascending order, each one once. -/
def inOrder (keys : List Text) : List Text := (Text.sort keys).eraseDups

theorem mem_inOrder {keys : List Text} {key : Text} : key ∈ inOrder keys ↔ key ∈ keys := by
  rw [inOrder, ← distinct_eq_eraseDups, mem_distinct, Text.sort, List.mem_mergeSort]

/-- Keys in order depend on which keys there are only. -/
theorem inOrder_congr {xs ys : List Text} (h : ∀ key, key ∈ xs ↔ key ∈ ys) :
    inOrder xs = inOrder ys := by
  have hnodup : ∀ keys, (inOrder keys).Nodup := fun keys => by
    rw [inOrder, ← distinct_eq_eraseDups]
    exact nodup_distinct _
  have hsorted : ∀ keys, (inOrder keys).Pairwise fun a b => Text.le a b = true := fun keys => by
    rw [inOrder, ← distinct_eq_eraseDups]
    exact (Text.pairwise_sort keys).sublist (distinct_sublist _)
  have hmem : ∀ key, key ∈ inOrder xs ↔ key ∈ inOrder ys := by simpa only [mem_inOrder] using h
  exact ((List.perm_ext_iff_of_nodup (hnodup xs) (hnodup ys)).mpr hmem).eq_of_pairwise
    (fun _ _ _ _ => Text.le_antisymm) (hsorted xs) (hsorted ys)

theorem keys_layered (layers : List Source) :
    (layered layers).keys = (allKeys layers).map inOrder := rfl

theorem allKeys_append (xs ys : List Source) :
    allKeys (xs ++ ys) = (allKeys xs).bind fun keys => (allKeys ys).map (keys ++ ·) := by
  induction xs with
  | nil => cases hys : allKeys ys <;> simp [allKeys, hys, Except.bind, Except.map]
  | cons s rest ih =>
      rw [List.cons_append, allKeys, allKeys, ih]
      cases s.keys with
      | error f => rfl
      | ok keys => cases allKeys rest with
        | error f => rfl
        | ok others => cases allKeys ys with
          | error f => rfl
          | ok more => simp [Bind.bind, Pure.pure, Except.bind, Except.pure, Except.map]

/-- A group of layers has the keys of its layers. -/
theorem keys_group (xs ys zs : List Source) :
    (layered (xs ++ layered ys :: zs)).keys = (layered (xs ++ (ys ++ zs))).keys := by
  rw [keys_layered, keys_layered, allKeys_append, allKeys_append, allKeys_append, allKeys,
    keys_layered]
  cases allKeys xs with
  | error f => rfl
  | ok above => cases allKeys ys with
    | error f => rfl
    | ok group => cases allKeys zs with
      | error f => rfl
      | ok below =>
          refine congrArg Except.ok (inOrder_congr fun key => ?_)
          simp only [List.mem_append, mem_inOrder]

/-! ## Layers within layers -/

/-- Layers that stand as a group among other layers answer every lookup as they do without
the group, events included, and have the same keys.  What answers a lookup is the first
layer that does not pass it, after the events of those above it and of no others.  An error
of that layer is the error of the layers, unless it is the one for the end of items. -/
theorem layered_nested (xs ys zs : List Source) :
    (∀ q, (layered (xs ++ layered ys :: zs)).answer q = (layered (xs ++ ys ++ zs)).answer q) ∧
    (layered (xs ++ layered ys :: zs)).keys = (layered (xs ++ ys ++ zs)).keys ∧
    ∀ q layers,
      ((∀ s ∈ layers, s.Passes q) ∧
        (layered layers).answer q = ⟨eventsOf q layers, .ok none⟩) ∨
      ∃ above s below, layers = above ++ s :: below ∧ (∀ t ∈ above, t.Passes q) ∧ ¬ s.Passes q ∧
        (layered layers).answer q =
          ⟨eventsOf q above ++ (s.answer q).trace,
            (s.answer q).outcome.mapError Raised.leavingItem⟩ ∧
        ((∀ e, (s.answer q).outcome = .error e → e.failure.isA .stopIteration = false) →
          (s.answer q).outcome.mapError Raised.leavingItem = (s.answer q).outcome) := by
  refine ⟨fun q => ?_, ?_, fun q layers => ?_⟩
  · change firstAnswer q (xs ++ layered ys :: zs) = firstAnswer q (xs ++ ys ++ zs)
    rw [firstAnswer_append, firstAnswer_group, ← firstAnswer_append, List.append_assoc]
  · rw [keys_group, List.append_assoc]
  · obtain hpass | ⟨above, s, below, rfl, habove, hs⟩ := all_pass_or_settled q layers
    · refine .inl ⟨hpass, ?_⟩
      have h := firstAnswer_of_pass hpass []
      rw [List.append_nil] at h
      exact h.trans (by simp [Run.after, firstAnswer, Run.pure])
    · refine .inr ⟨above, s, below, rfl, habove, hs, ?_, ?_⟩
      · exact (firstAnswer_of_pass habove (s :: below)).trans
          (by rw [firstAnswer_of_settled hs]; rfl)
      · exact fun h => congrArg Run.outcome (Run.asItem_of_not h)

end Source

end ConfigReader
