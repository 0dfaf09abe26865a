import ConfigReader.Proofs.Distinct
import Mathlib.Data.Finset.Insert

/-!
# Issues merged

Issues are merged one by one: an issue that was seen is passed over, and any other one is kept.
What is kept are the issues at their first places (`Merge.foldl_add`), so the order of a merge is
that of first occurrences, and no other list has these issues in this order
(`eq_distinct_of_firstBefore`).

`mergeIssues_firstBefore` collects what follows for the merge of two lists.  Grouping does not
matter, an empty list adds nothing, and neither do issues that are there.
-/

namespace ConfigReader

variable {α : Type} [DecidableEq α]

/-! ## The order of first occurrences -/

/-- The first occurrence of one item in a list is in front of that of another one. -/
def FirstBefore (l : List α) (a b : α) : Prop := l.idxOf a < l.idxOf b

theorem firstBefore_cons {l : List α} {a b c : α} (ha : a ≠ c) (hb : b ≠ c) :
    FirstBefore (c :: l) a b ↔ FirstBefore l a b := by
  rw [FirstBefore, FirstBefore, List.idxOf_cons_ne l ha.symm, List.idxOf_cons_ne l hb.symm,
    Nat.succ_lt_succ_iff]

/-- The items of a list at their first places are in the order of their first occurrences. -/
theorem pairwise_distinct (l : List α) : (distinct l).Pairwise (FirstBefore l) := by
  induction l with
  | nil => exact .nil
  | cons a rest ih =>
      rw [distinct, List.pairwise_cons]
      constructor
      · intro b hb
        have hne : b ≠ a := by simpa using (List.mem_filter.mp hb).2
        rw [FirstBefore, List.idxOf_cons_self, List.idxOf_cons_ne rest hne.symm]
        exact Nat.succ_pos _
      · refine (ih.filter _).imp_of_mem fun {b c} hb hc hbc => ?_
        have hb : b ≠ a := by simpa using (List.mem_filter.mp hb).2
        have hc : c ≠ a := by simpa using (List.mem_filter.mp hc).2
        exact (firstBefore_cons hb hc).mpr hbc

/-- The items of a list are in the order of their first occurrences in one list only. -/
theorem eq_distinct_of_firstBefore {l m : List α} (hm : m.Pairwise (FirstBefore l))
    (hmem : ∀ a, a ∈ m ↔ a ∈ l) : m = distinct l := by
  have hne : ∀ {a b : α}, FirstBefore l a b → a ≠ b := by
    rintro a _ hab rfl
    exact Nat.lt_irrefl _ hab
  have hnodup : m.Nodup := hm.imp hne
  have hperm : m.Perm (distinct l) :=
    (List.perm_ext_iff_of_nodup hnodup (nodup_distinct l)).mpr fun a => by
      rw [hmem, mem_distinct]
  exact hperm.eq_of_pairwise (fun _ _ _ _ hab hba => absurd hab (Nat.lt_asymm hba)) hm
    (pairwise_distinct l)

/-! ## The merge as a loop -/

/-- A merge on its way: the items that are kept, in order, and those that were seen. -/
structure Merge (α : Type) where
  /-- What is kept. -/
  kept : List α
  /-- What was seen. -/
  seen : Finset α

namespace Merge

/-- A merge before its first item. -/
def start : Merge α := ⟨[], ∅⟩

/-- A merge behind one more item, which is kept unless it was seen. -/
def add (m : Merge α) (a : α) : Merge α :=
  if a ∈ m.seen then m else ⟨m.kept ++ [a], insert a m.seen⟩

/-- A merge behind the items of a list. -/
structure Behind (l : List α) (m : Merge α) : Prop where
  /-- The items at their first places are kept. -/
  kept : m.kept = distinct l
  /-- All items were seen. -/
  seen : ∀ a, a ∈ m.seen ↔ a ∈ l

theorem behind_start : Behind ([] : List α) start := ⟨rfl, fun a => by simp [start]⟩

theorem Behind.add {l : List α} {m : Merge α} (h : Behind l m) (a : α) :
    Behind (l ++ [a]) (m.add a) := by
  have hkept : distinct (l ++ [a]) = distinct l ++ [a].filter (· ∉ l) := distinct_append l [a]
  by_cases ha : a ∈ l
  · rw [Merge.add, if_pos ((h.seen a).mpr ha)]
    refine ⟨?_, fun b => ?_⟩
    · rw [hkept, List.filter_cons_of_neg (by simpa using ha), List.filter_nil, List.append_nil]
      exact h.kept
    · rw [h.seen b, List.mem_append, List.mem_singleton]
      exact ⟨.inl, fun hb => hb.elim id fun heq => heq ▸ ha⟩
  · rw [Merge.add, if_neg (mt (h.seen a).mp ha)]
    refine ⟨?_, fun b => ?_⟩
    · rw [hkept, List.filter_cons_of_pos (by simpa using ha), List.filter_nil, h.kept]
    · rw [Finset.mem_insert, h.seen b, List.mem_append, List.mem_singleton, or_comm]

theorem Behind.foldl {l : List α} {m : Merge α} (h : Behind l m) (more : List α) :
    Behind (l ++ more) (more.foldl Merge.add m) := by
  induction more generalizing l m with
  | nil => rwa [List.append_nil]
  | cons a rest ih =>
      rw [List.append_cons, List.foldl_cons]
      exact ih (h.add a)

/-- The loop keeps the items at their first places. -/
theorem foldl_add (l : List α) : (l.foldl add start).kept = distinct l :=
  (behind_start.foldl l).kept

end Merge

/-! ## Merges of merges -/

theorem distinct_distinct_append (xs ys : List α) :
    distinct (distinct xs ++ ys) = distinct (xs ++ ys) := by
  rw [← distinct_append_distinct, distinct_of_nodup (nodup_distinct xs), distinct_append_distinct]

theorem distinct_append_distinct_right (xs ys : List α) :
    distinct (xs ++ distinct ys) = distinct (xs ++ ys) := by
  rw [← distinct_append_distinct, distinct_of_nodup (nodup_distinct ys), distinct_append_distinct]

/-- Items that are there are not added again. -/
theorem distinct_append_of_subset {xs ys : List α} (h : ys ⊆ xs) :
    distinct (xs ++ ys) = distinct xs := by
  have hnone : (distinct ys).filter (· ∉ xs) = [] :=
    List.filter_eq_nil_iff.mpr fun a ha => by simpa using h (mem_distinct.mp ha)
  rw [distinct_append, hnone, List.append_nil]

theorem distinct_eq_self_iff {l : List α} : distinct l = l ↔ l.Nodup :=
  ⟨fun h => h ▸ nodup_distinct l, distinct_of_nodup⟩

/-- The merge of two lists of issues is what the loop keeps of them.  It has the issues of both,
each once, in the order of their first occurrences in the first list followed by the second, and is
the only list of this kind.

Merges can be grouped at will.  A merge with the empty list, on either side, changes nothing
exactly if no issue is repeated.  Issues that were merged first add nothing when they come again. -/
theorem mergeIssues_firstBefore (a b c : List Issue) :
    mergeIssues a b = ((a ++ b).foldl Merge.add .start).kept ∧
    ((mergeIssues a b).Nodup ∧ (∀ i, i ∈ mergeIssues a b ↔ i ∈ a ∨ i ∈ b) ∧
      (mergeIssues a b).Pairwise (FirstBefore (a ++ b))) ∧
    (∀ merged : List Issue, merged.Pairwise (FirstBefore (a ++ b)) →
      (∀ i, i ∈ merged ↔ i ∈ a ∨ i ∈ b) → merged = mergeIssues a b) ∧
    mergeIssues (mergeIssues a b) c = mergeIssues a (mergeIssues b c) ∧
    ((mergeIssues [] a = a ↔ a.Nodup) ∧ (mergeIssues a [] = a ↔ a.Nodup)) ∧
    mergeIssues (mergeIssues a b) a = mergeIssues a b := by
  refine ⟨(Merge.foldl_add _).symm, ⟨nodup_distinct _, fun i => ?_, pairwise_distinct _⟩,
    fun merged horder hmem => ?_, ?_, ⟨?_, ?_⟩, ?_⟩
  · rw [mergeIssues, mem_distinct, List.mem_append]
  · exact eq_distinct_of_firstBefore horder fun i => (hmem i).trans List.mem_append.symm
  · calc distinct (distinct (a ++ b) ++ c)
        = distinct (a ++ b ++ c) := distinct_distinct_append _ _
      _ = distinct (a ++ (b ++ c)) := by rw [List.append_assoc]
      _ = distinct (a ++ distinct (b ++ c)) := (distinct_append_distinct_right _ _).symm
  · rw [mergeIssues, List.nil_append, distinct_eq_self_iff]
  · rw [mergeIssues, List.append_nil, distinct_eq_self_iff]
  · rw [mergeIssues, mergeIssues, distinct_distinct_append]
    exact distinct_append_of_subset (List.subset_append_left a b)

end ConfigReader
