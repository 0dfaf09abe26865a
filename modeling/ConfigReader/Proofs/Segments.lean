import ConfigReader.Proofs.Decimals
import ConfigReader.Proofs.Distinct
import ConfigReader.Proofs.Tables
import Mathlib.Data.List.TakeWhile

/-!
# Segments of paths

A path is cut into segments at its separators, and paths joined by a separator are cut
into the segments of both (`Text.splitOn_append_separator`).  The elements of a list in a
table are found by the segment behind its path (`Entries.segmentAfter?_eq_some`).

Element ids are put in order of their numbers.  `Entries.elementIds_eq` says what this
comes to when the ids are numbers as they are written: they are in ascending order, so the
indices of a list are in the order of the list.
-/

namespace ConfigReader

namespace Text

/-! ## Leads -/

theorem after?_eq_some {lead t rest : Text} : after? lead t = some rest ↔ t = lead ++ rest := by
  induction lead generalizing t with
  | nil => simp [after?, eq_comm]
  | cons a lead ih => cases t with
    | nil => simp [after?]
    | cons b t =>
        by_cases hab : a = b
        · simp [after?, hab, ih]
        · simp [after?, hab, Ne.symm hab]

theorem after?_of_append (lead more t : Text) :
    after? (lead ++ more) t = (after? lead t).bind (after? more) := by
  induction lead generalizing t with
  | nil => rfl
  | cons a lead ih => cases t with
    | nil => rfl
    | cons b t =>
        by_cases hab : a = b
        · simp [after?, hab, ih]
        · simp [after?, hab]

/-! ## Pieces -/

theorem splitOn_injective {sep : CodePoint} {s t : Text} (h : splitOn sep s = splitOn sep t) :
    s = t := by
  rw [← join_splitOn sep s, h, join_splitOn]

/-- Texts joined by a separator have the pieces of both. -/
theorem splitOn_append_separator (sep : CodePoint) (s t : Text) :
    splitOn sep (s ++ sep :: t) = splitOn sep s ++ splitOn sep t := by
  induction s with
  | nil => simp [splitOn]
  | cons c rest ih =>
      rw [List.cons_append, splitOn, splitOn, ih]
      split
      · rfl
      · cases hrest : splitOn sep rest with
        | nil => exact absurd hrest (splitOn_ne_nil sep rest)
        | cons first more => rfl

/-- The pieces do not hold the separator. -/
theorem notMem_of_mem_splitOn {sep : CodePoint} {t piece : Text} (h : piece ∈ splitOn sep t) :
    sep ∉ piece := by
  induction t generalizing piece with
  | nil =>
      rw [splitOn, List.mem_singleton] at h
      subst h
      exact List.not_mem_nil
  | cons c rest ih =>
      rw [splitOn] at h
      split at h
      · rcases List.mem_cons.mp h with rfl | h
        · exact List.not_mem_nil
        · exact ih h
      · next hc =>
          cases hrest : splitOn sep rest with
          | nil => exact absurd hrest (splitOn_ne_nil sep rest)
          | cons first more =>
              rw [hrest] at h ih
              rcases List.mem_cons.mp h with rfl | h
              · have hfirst := ih List.mem_cons_self
                simp [Ne.symm hc, hfirst]
              · exact ih (List.mem_cons_of_mem _ h)

/-- The first piece ends at the first separator. -/
theorem head?_splitOn (sep : CodePoint) (t : Text) :
    (splitOn sep t).head? = some (t.takeWhile (· ≠ sep)) := by
  induction t with
  | nil => rfl
  | cons c rest ih =>
      unfold splitOn
      by_cases hc : c = sep
      · simp [hc]
      · cases hrest : splitOn sep rest with
        | nil => exact absurd hrest (splitOn_ne_nil sep rest)
        | cons first more =>
            rw [hrest, List.head?_cons, Option.some.injEq] at ih
            simp [hc, ih]

end Text

/-- A key is a single segment. -/
theorem Key.separator_notMem (key : Key) : separator ∉ key.text := by
  have hkey := key.isKey_text
  simp only [isKey, Bool.and_eq_true, Bool.not_eq_true'] at hkey
  simpa using hkey.2

namespace Entries

/-! ## Segments behind a path -/

/-- The segment behind a path is the next one of the key. -/
theorem segmentAfter?_eq_some {path key segment : Text}
    (h : segmentAfter? path key = some segment) :
    ∃ rest, key.splitOn separator = path.splitOn separator ++ segment :: rest := by
  obtain ⟨t, ht, rfl⟩ := Option.map_eq_some_iff.mp h
  obtain rfl := Text.after?_eq_some.mp ht
  have hhead := Text.head?_splitOn separator t
  cases hsplit : t.splitOn separator with
  | nil => exact absurd hsplit (Text.splitOn_ne_nil separator t)
  | cons first rest =>
      rw [hsplit, List.head?_cons, Option.some.injEq] at hhead
      refine ⟨rest, ?_⟩
      rw [List.append_assoc, List.singleton_append, Text.splitOn_append_separator, hsplit, hhead]

theorem segmentAfter?_of_splitOn {path t segment : Text} {rest : List Text}
    (h : t.splitOn separator = segment :: rest) :
    segmentAfter? path (path ++ separator :: t) = some segment := by
  have hhead := Text.head?_splitOn separator t
  rw [h, List.head?_cons, Option.some.injEq] at hhead
  have hafter : Text.after? (path ++ [separator]) (path ++ separator :: t) = some t :=
    Text.after?_eq_some.mpr (by simp)
  rw [segmentAfter?, hafter, Option.map_some, hhead]

/-! ## The order of element ids -/

theorem idLe_iff {a b : Text} :
    idLe a b = true ↔ a.toNat < b.toNat ∨ a.toNat = b.toNat ∧ Text.le a b = true := by
  unfold idLe
  by_cases h : a.toNat = b.toNat
  · simp [h]
  · simp [h]

theorem idLe_trans {a b c : Text} (hab : idLe a b = true) (hbc : idLe b c = true) :
    idLe a c = true := by
  rw [idLe_iff] at hab hbc ⊢
  obtain hab | ⟨hab, hle⟩ := hab
  · obtain hbc | ⟨hbc, -⟩ := hbc
    · exact .inl (hab.trans hbc)
    · exact .inl (hbc ▸ hab)
  · obtain hbc | ⟨hbc, hle'⟩ := hbc
    · exact .inl (hab ▸ hbc)
    · exact .inr ⟨hab.trans hbc, Text.le_trans hle hle'⟩

theorem idLe_total (a b : Text) : idLe a b = true ∨ idLe b a = true := by
  rw [idLe_iff, idLe_iff]
  obtain h | h | h := Nat.lt_trichotomy a.toNat b.toNat
  · exact .inl (.inl h)
  · obtain hle | hle := Text.le_total a b
    · exact .inl (.inr ⟨h, hle⟩)
    · exact .inr (.inr ⟨h.symm, hle⟩)
  · exact .inr (.inl h)

theorem idLe_antisymm {a b : Text} (hab : idLe a b = true) (hba : idLe b a = true) : a = b := by
  rw [idLe_iff] at hab hba
  obtain hab | ⟨_, hab⟩ := hab
  · omega
  · obtain hba | ⟨_, hba⟩ := hba
    · omega
    · exact Text.le_antisymm hab hba

/-- Ascending numbers are ids in order. -/
theorem pairwise_indices {indices : List Nat} (h : indices.Pairwise (· < ·)) :
    (indices.map Text.ofNat).Pairwise fun a b => idLe a b = true := by
  rw [List.pairwise_map]
  refine h.imp fun hlt => ?_
  rw [idLe_iff, Text.toNat_ofNat, Text.toNat_ofNat]
  exact .inl hlt

theorem nodup_indices {indices : List Nat} (h : indices.Pairwise (· < ·)) :
    (indices.map Text.ofNat).Nodup := by
  rw [List.Nodup, List.pairwise_map]
  exact h.imp fun hlt heq => Nat.ne_of_lt hlt (Text.ofNat_injective heq)

/-- The numbers behind a path, each once. -/
def elementSegments (entries : Entries) (path : Text) : List Text :=
  ((entries.filterMap fun (key, _) => segmentAfter? path key).filter Text.isDigits).eraseDups

theorem elementIds_def (entries : Entries) (path : Text) :
    elementIds entries path =
      match (elementSegments entries path).find? (·.length > digitLimit) with
      | some id => .error (.integerTooLong (some id.length))
      | none => .ok ((elementSegments entries path).mergeSort idLe) := rfl

theorem nodup_elementSegments (entries : Entries) (path : Text) :
    (elementSegments entries path).Nodup := by
  rw [elementSegments, ← distinct_eq_eraseDups]
  exact nodup_distinct _

theorem mem_elementSegments {entries : Entries} {path id : Text} :
    id ∈ elementSegments entries path ↔
      id.isDigits = true ∧ ∃ key ∈ entries.map Prod.fst, segmentAfter? path key = some id := by
  rw [elementSegments, ← distinct_eq_eraseDups, mem_distinct, List.mem_filter, List.mem_filterMap]
  constructor
  · rintro ⟨⟨entry, hentry, hsegment⟩, hdigits⟩
    exact ⟨hdigits, entry.1, List.mem_map_of_mem hentry, hsegment⟩
  · rintro ⟨hdigits, key, hkey, hsegment⟩
    obtain ⟨entry, hentry, rfl⟩ := List.mem_map.mp hkey
    exact ⟨⟨entry, hentry, hsegment⟩, hdigits⟩

/-- The sorted numbers ascend. -/
theorem pairwise_mergeSort_idLe (found : List Text) :
    (found.mergeSort idLe).Pairwise fun a b => idLe a b = true := by
  have htrans : ∀ a b c, idLe a b = true → idLe b c = true → idLe a c = true :=
    fun _ _ _ => idLe_trans
  have htotal : ∀ a b, (idLe a b || idLe b a) = true := by simpa using idLe_total
  exact List.pairwise_mergeSort htrans htotal found

/-- The numbers behind a path, listed in ascending order, are the ids of its elements. -/
theorem elementIds_of_ascending {entries : Entries} {path : Text} {ids : List Text}
    (hascending : ids.Pairwise fun a b => idLe a b = true) (hnodup : ids.Nodup)
    (hmem : ∀ id, id ∈ elementSegments entries path ↔ id ∈ ids)
    (hshort : ∀ id ∈ ids, id.length ≤ digitLimit) : elementIds entries path = .ok ids := by
  have hfound := nodup_elementSegments entries path
  rw [elementIds_def]
  generalize elementSegments entries path = found at hfound hmem ⊢
  have hlong : found.find? (·.length > digitLimit) = none := by
    refine List.find?_eq_none.mpr fun id hid => ?_
    simpa using hshort id ((hmem id).mp hid)
  have hperm : (found.mergeSort idLe).Perm ids :=
    (List.mergeSort_perm found idLe).trans ((List.perm_ext_iff_of_nodup hfound hnodup).mpr hmem)
  simp only [hlong]
  exact congrArg Except.ok (hperm.eq_of_pairwise (fun _ _ _ _ => idLe_antisymm)
    (pairwise_mergeSort_idLe found) hascending)

/-- A table that has some numbers behind a path, in any order and as often as may be, and
no other number, has the elements with these numbers there, in ascending order. -/
theorem elementIds_eq {entries : Entries} {path : Text} {indices : List Nat}
    (hascending : indices.Pairwise (· < ·))
    (hmem : ∀ id, id.isDigits = true →
      ((∃ key ∈ entries.map Prod.fst, segmentAfter? path key = some id) ↔
        id ∈ indices.map Text.ofNat))
    (hshort : ∀ i ∈ indices, (Text.ofNat i).length ≤ digitLimit) :
    elementIds entries path = .ok (indices.map Text.ofNat) := by
  refine elementIds_of_ascending (pairwise_indices hascending) (nodup_indices hascending)
    (fun id => ?_) (List.forall_mem_map.mpr hshort)
  rw [mem_elementSegments]
  constructor
  · rintro ⟨hdigits, hkey⟩
    exact (hmem id hdigits).mp hkey
  · intro hid
    have hdigits : id.isDigits = true := by
      obtain ⟨i, -, rfl⟩ := List.mem_map.mp hid
      exact Text.isDigits_ofNat i
    exact ⟨hdigits, (hmem id hdigits).mpr hid⟩

end Entries

end ConfigReader
