import ConfigReader.Strategy
import Mathlib.Data.List.Nodup

/-!
# Items at their first places

`distinct` keeps the first occurrence of each item.  `distinct_append` says what is
kept of two lists joined, and from it follows that items taken out of the parts
first are not missed in the whole (`distinct_append_distinct`).  A function can be
applied before or after repeated items are taken out, if they are taken out again
(`distinct_map_distinct`).
-/

namespace ConfigReader

variable {α β : Type} [DecidableEq α] [DecidableEq β]

@[simp] theorem distinct_nil : distinct ([] : List α) = [] := rfl

@[simp] theorem mem_distinct {a : α} {l : List α} : a ∈ distinct l ↔ a ∈ l := by
  induction l with
  | nil => rfl
  | cons b rest ih =>
      by_cases h : a = b
      · simp [distinct, h]
      · simp [distinct, h, ih]

/-- Taking out repeated items and keeping the items of a class can be exchanged. -/
theorem distinct_filter (p : α → Bool) (l : List α) :
    distinct (l.filter p) = (distinct l).filter p := by
  induction l with
  | nil => rfl
  | cons b rest ih =>
      cases h : p b with
      | true =>
          rw [List.filter_cons_of_pos h, distinct, distinct, List.filter_cons_of_pos h, ih,
            List.filter_filter, List.filter_filter]
          simp only [Bool.and_comm]
      | false =>
          have hb : ¬ p b = true := by simp [h]
          rw [List.filter_cons_of_neg hb, distinct, List.filter_cons_of_neg hb, ih,
            List.filter_filter]
          refine List.filter_congr fun a _ => ?_
          by_cases hab : a = b
          · simp [hab, h]
          · simp [hab]

/-- Of two lists joined, the second one keeps what the first one does not have. -/
theorem distinct_append (xs ys : List α) :
    distinct (xs ++ ys) = distinct xs ++ (distinct ys).filter (· ∉ xs) := by
  induction xs with
  | nil => rw [List.nil_append, List.filter_eq_self.mpr fun a _ => by simp, distinct_nil,
      List.nil_append]
  | cons x rest ih =>
      have h : ∀ a ∈ distinct ys, (decide (a ≠ x) && decide (a ∉ rest)) = decide (a ∉ x :: rest) := by
        intro a _
        simp [not_or]
      rw [List.cons_append, distinct, distinct, ih, List.filter_append, List.filter_filter,
        List.filter_congr h, List.cons_append]

theorem distinct_of_nodup {l : List α} (h : l.Nodup) : distinct l = l := by
  induction l with
  | nil => rfl
  | cons a rest ih =>
      rw [List.nodup_cons] at h
      have ha : ∀ b ∈ rest, decide (b ≠ a) = true := by
        intro b hb
        simp only [decide_eq_true_eq]
        intro hba
        exact h.1 (hba ▸ hb)
      rw [distinct, ih h.2, List.filter_eq_self.mpr ha]

theorem nodup_distinct (l : List α) : (distinct l).Nodup := by
  induction l with
  | nil => exact List.nodup_nil
  | cons a rest ih =>
      rw [distinct, List.nodup_cons]
      exact ⟨by simp, ih.filter _⟩

theorem distinct_sublist (l : List α) : (distinct l).Sublist l := by
  induction l with
  | nil => exact List.Sublist.refl []
  | cons a rest ih => exact (List.filter_sublist.trans ih).cons_cons a

/-- Repeated items of the parts may be taken out first. -/
theorem distinct_append_distinct (xs ys : List α) :
    distinct (distinct xs ++ distinct ys) = distinct (xs ++ ys) := by
  rw [distinct_append, distinct_append, distinct_of_nodup (nodup_distinct xs),
    distinct_of_nodup (nodup_distinct ys)]
  simp only [mem_distinct]

/-- Repeated items may be taken out before a function is applied. -/
theorem distinct_map_distinct (f : α → β) (l : List α) :
    distinct ((distinct l).map f) = distinct (l.map f) := by
  induction l with
  | nil => rfl
  | cons a rest ih =>
      -- An item dropped for being `a` has the image of `a`, so it is dropped again.
      have h : ∀ b ∈ distinct rest,
          (decide (f b ≠ f a) && decide (b ≠ a)) = decide (f b ≠ f a) := by
        intro b _
        by_cases hb : b = a <;> simp [hb]
      have hf : (((distinct rest).filter (· ≠ a)).map f).filter (· ≠ f a) =
          ((distinct rest).map f).filter (· ≠ f a) := by
        rw [List.filter_map, List.filter_map, List.filter_filter]
        exact congrArg _ (List.filter_congr h)
      rw [distinct, List.map_cons, List.map_cons, distinct, distinct, ← distinct_filter, hf,
        distinct_filter, ih]

/-- A function that keeps items apart can be applied before or after. -/
theorem distinct_map {f : α → β} (hf : ∀ a b, f a = f b → a = b) (l : List α) :
    distinct (l.map f) = (distinct l).map f := by
  induction l with
  | nil => rfl
  | cons a rest ih =>
      have h : ∀ b ∈ distinct rest, decide (f b ≠ f a) = decide (b ≠ a) := by
        intro b _
        have hb : f b = f a ↔ b = a := ⟨hf b a, congrArg f⟩
        simp [hb]
      rw [List.map_cons, distinct, distinct, ih, List.filter_map, List.map_cons]
      exact congrArg _ (congrArg _ (List.filter_congr h))

/-- Items kept apart before a function is applied stay apart exactly if it keeps them apart. -/
theorem map_distinct_eq_iff {f : α → β} {l : List α} :
    (distinct l).map f = distinct (l.map f) ↔ ∀ a ∈ l, ∀ b ∈ l, f a = f b → a = b := by
  have hinjective : ((distinct l).map f).Nodup ↔ ∀ a ∈ l, ∀ b ∈ l, f a = f b → a = b := by
    simpa only [mem_distinct] using List.nodup_map_iff_inj_on (nodup_distinct l)
  rw [← hinjective]
  constructor
  · intro h
    rw [h]
    exact nodup_distinct _
  · intro h
    rw [← distinct_map_distinct, distinct_of_nodup h]

/-- The library's own function for the first occurrences. -/
theorem distinct_eq_eraseDups [BEq α] [LawfulBEq α] : ∀ l : List α, distinct l = l.eraseDups
  | [] => rfl
  | a :: rest => by
      have ih := distinct_eq_eraseDups (rest.filter fun b => !b == a)
      rw [List.eraseDups_cons, ← ih, distinct_filter, distinct]
      refine congrArg _ (List.filter_congr fun b _ => ?_)
      by_cases h : b = a <;> simp [h]
termination_by l => l.length
decreasing_by simpa using Nat.lt_succ_of_le (List.length_filter_le _ rest)

end ConfigReader
