import ConfigReader.Proofs.Scopes
import ConfigReader.Proofs.Segments

/-!
# Elements found by their ids

A flat source has no entry for a list.  It finds the elements of one by the keys that begin with
its path, and cuts the id of an element out of each.  Keys that share the beginning of a text
only, and segments that are no numbers, are no elements.

Many keys have the same id, ids of the same number may differ by zeros in front, and the entries
may be given in any order.  `Source.element_ids_of_keys` says that the keys determine the ids and
their order nevertheless, as no two ids are in the same place of the order.
-/

namespace ConfigReader

/-- A key is at a path or under it. -/
def Text.Within (path key : Text) : Prop := key = path ∨ path ++ [separator] <+: key

namespace Entries

/-! ## Ids of elements -/

/-- The segment of a key behind a path is the one that the key is at or under. -/
theorem segmentAfter?_iff {path key segment : Text} (h : separator ∉ segment) :
    segmentAfter? path key = some segment ↔ Text.Within (Text.under path segment) key := by
  constructor
  · intro hsegment
    obtain ⟨t, ht, htake⟩ := Option.map_eq_some_iff.mp hsegment
    have hstop := List.head?_dropWhile_not (· ≠ separator) t
    have hsplit : segment ++ t.dropWhile (· ≠ separator) = t :=
      htake ▸ List.takeWhile_append_dropWhile
    rw [Text.after?_eq_some.mp ht, ← hsplit]
    cases hdrop : t.dropWhile (· ≠ separator) with
    | nil => exact .inl (by simp [Text.under])
    | cons c rest =>
        rw [hdrop] at hstop
        have hc : c = separator := by simpa using hstop
        exact .inr ⟨rest, by simp [Text.under, hc]⟩
  · rintro (rfl | ⟨rest, rfl⟩)
    · exact segmentAfter?_of_splitOn (Text.splitOn_of_not_mem h)
    · have hkey : Text.under path segment ++ [separator] ++ rest =
          path ++ separator :: (segment ++ separator :: rest) := by simp [Text.under]
      rw [hkey]
      exact segmentAfter?_of_splitOn (Text.splitOn_append h rest)

/-- The numbers behind a path are those that keys are at or under. -/
theorem mem_elementSegments_iff {entries : Entries} {path id : Text} :
    id ∈ elementSegments entries path ↔ id.isDigits = true ∧
      ∃ key ∈ entries.map Prod.fst, Text.Within (Text.under path id) key := by
  rw [mem_elementSegments]
  refine and_congr_right fun hdigits => ?_
  simp only [segmentAfter?_iff (Text.separator_notMem_of_isDigits hdigits)]

theorem length_of_mem_elementSegments {entries : Entries} {path id : Text}
    (hshort : ∀ key ∈ entries.map Prod.fst, ∀ segment ∈ key.splitOn separator,
      segment.isDigits = true → segment.length ≤ digitLimit)
    (h : id ∈ elementSegments entries path) : id.length ≤ digitLimit := by
  obtain ⟨hdigits, key, hkey, hsegment⟩ := mem_elementSegments.mp h
  obtain ⟨rest, hsplit⟩ := segmentAfter?_eq_some hsegment
  refine hshort key hkey id ?_ hdigits
  rw [hsplit]
  exact List.mem_append_right _ List.mem_cons_self

/-- Ids in ascending order are in the order of their numbers, and of their texts if they are the
same number. -/
theorem pairwise_ids (found : List Text) (h : found.Nodup) :
    (found.mergeSort idLe).Pairwise fun a b =>
      a.toNat < b.toNat ∨ a.toNat = b.toNat ∧ a ≠ b ∧ Text.le a b = true := by
  have hnodup := (List.mergeSort_perm found idLe).nodup_iff.mpr h
  refine ((pairwise_mergeSort_idLe found).and hnodup).imp fun hab => ?_
  obtain ⟨hle, hne⟩ := hab
  exact (idLe_iff.mp hle).imp_right fun heq => ⟨heq.1, hne, heq.2⟩

/-- Tables with the same paths have the same elements, and in the same order. -/
theorem elementIds_of_same_paths {entries entries' : Entries} {path : Text}
    (hpaths : ∀ key, key ∈ entries'.map Prod.fst ↔ key ∈ entries.map Prod.fst)
    (hshort : ∀ id ∈ elementSegments entries path, id.length ≤ digitLimit) :
    entries'.elementIds path = .ok ((elementSegments entries path).mergeSort idLe) := by
  have hperm := List.mergeSort_perm (elementSegments entries path) idLe
  refine elementIds_of_ascending (pairwise_mergeSort_idLe _)
    (hperm.nodup_iff.mpr (nodup_elementSegments entries path)) (fun id => ?_)
    fun id hid => hshort id (hperm.mem_iff.mp hid)
  rw [hperm.mem_iff, mem_elementSegments, mem_elementSegments]
  simp only [hpaths]

end Entries

namespace Source

section Flat

variable {origin path : Text} {entries : Entries} {ids : List Text}

theorem flat_records (h : entries.elementIds path = .ok ids) :
    (flat origin entries).answer (.records path) =
      Run.pure (if ids = [] then none else some ids) := by
  change Run.ofExcept (Entries.answer.present (entries.elementIds path)) = _
  rw [h]
  cases ids <;> rfl

/-- Lists of scalars have the elements that lists of records have. -/
theorem flat_elements (h : entries.elementIds path = .ok ids) (kind : Kind) :
    (flat origin entries).answer (.elements path kind) =
      Run.pure (if ids = [] then none else some ids) := by
  change (flat origin entries).answer (.records path) = _
  exact flat_records h

end Flat

/-- The ids of a list in a flat source are the numbers that keys have behind the path of the list,
as their next segments.  Each one is listed once, in ascending order of the numbers, and ids of
the same number in the order of texts.  Lists of scalars and lists of records have the same ids,
and there is no list if there is no id.  It does not matter in which order the entries are given,
nor what their values are. -/
theorem element_ids_of_keys {origin : Text} {entries : List (Text × Value)} {source : Source}
    (hsource : ofMapping origin (Entries.mapping entries) = .ok source)
    (hshort : ∀ entry ∈ entries, ∀ segment ∈ entry.1.splitOn separator,
      segment.isDigits = true → segment.length ≤ digitLimit) (path : Text) :
    ∃ ids : List Text,
      (∀ id, id ∈ ids ↔ id.isDigits = true ∧
        ∃ entry ∈ entries, Text.Within (Text.under path id) entry.1) ∧
      ids.Nodup ∧
      (ids.Pairwise fun a b =>
        a.toNat < b.toNat ∨ a.toNat = b.toNat ∧ a ≠ b ∧ Text.le a b = true) ∧
      source.answer (.records path) = Run.pure (if ids = [] then none else some ids) ∧
      (∀ kind, source.answer (.elements path kind) =
        Run.pure (if ids = [] then none else some ids)) ∧
      ∀ origin' entries' source', ofMapping origin' (Entries.mapping entries') = .ok source' →
        (∀ key, key ∈ entries'.map Prod.fst ↔ key ∈ entries.map Prod.fst) →
          source'.answer (.records path) = source.answer (.records path) ∧
          ∀ kind, source'.answer (.elements path kind) = source.answer (.elements path kind) := by
  obtain ⟨pairs, hwritten, rfl⟩ := Entries.ofMapping_mapping_eq_ok.mp hsource
  have hpaths := Entries.mem_paths_of_written hwritten
  have hlimit : ∀ id ∈ Entries.elementSegments (Entries.ofPairs pairs) path,
      id.length ≤ digitLimit := by
    refine fun id => Entries.length_of_mem_elementSegments fun key hkey => ?_
    obtain ⟨entry, hentry, rfl⟩ := List.mem_map.mp ((hpaths key).mp hkey)
    exact hshort entry hentry
  have hnodup := Entries.nodup_elementSegments (Entries.ofPairs pairs) path
  have hperm := List.mergeSort_perm (Entries.elementSegments (Entries.ofPairs pairs) path)
    Entries.idLe
  have hids := Entries.elementIds_of_same_paths (fun _ => Iff.rfl) hlimit
  refine ⟨_, fun id => ?_, hperm.nodup_iff.mpr hnodup, Entries.pairwise_ids _ hnodup,
    flat_records hids, flat_elements hids, ?_⟩
  · rw [hperm.mem_iff, Entries.mem_elementSegments_iff]
    simp only [hpaths, List.mem_map, exists_exists_and_eq_and]
  · intro origin' entries' source' hsource' hsame
    obtain ⟨pairs', hwritten', rfl⟩ := Entries.ofMapping_mapping_eq_ok.mp hsource'
    have hpaths' := fun key =>
      (Entries.mem_paths_of_written hwritten' key).trans ((hsame key).trans (hpaths key).symm)
    have hids' := Entries.elementIds_of_same_paths hpaths' hlimit
    refine ⟨?_, fun kind => ?_⟩
    · rw [flat_records hids, flat_records hids']
    · rw [flat_elements hids, flat_elements hids']

/-- Two ids of the number one, and a number of two digits behind them.  A key of more letters, an
empty segment and a digit of another script give no id. -/
theorem element_ids_of_keys_in_any_order :
    let entries : List (Text × Value) := [("l.10.a", .null), ("l.1", .null), ("l.01.b", .null),
      ("l.1.c", .null), ("ll.7", .null), ("l..3", .null), ("l.\u0663", .null)]
    let ids : List Text := ["01", "1", "10"]
    ∃ source source', ofMapping "<mapping>" (Entries.mapping entries) = .ok source ∧
      ofMapping "<args>" (Entries.mapping entries.reverse) = .ok source' ∧
      source.answer (.records "l") = Run.pure (some ids) ∧
      source'.answer (.records "l") = Run.pure (some ids) ∧
      ∀ kind, source'.answer (.elements "l" kind) = Run.pure (some ids) := by
  intro entries ids
  have hshort : ∀ entry ∈ entries, ∀ segment ∈ entry.1.splitOn separator,
      segment.isDigits = true → segment.length ≤ digitLimit := by decide
  obtain ⟨found, -, -, -, hrecords, helements, hsame⟩ :=
    @element_ids_of_keys "<mapping>" entries _ rfl hshort "l"
  obtain ⟨hrecords', helements'⟩ := hsame "<args>" entries.reverse _ rfl fun key => by
    rw [List.map_reverse, List.mem_reverse]
  have hids : Run.pure (if ids = [] then none else some ids) =
      Run.pure (if found = [] then none else some found) := by
    refine (flat_records ?_).symm.trans hrecords
    exact Entries.elementIds_of_ascending (by decide) (by decide) (fun _ => Iff.rfl) (by decide)
  rw [← hids] at hrecords helements
  exact ⟨_, _, rfl, rfl, hrecords, hrecords'.trans hrecords, fun kind =>
    (helements' kind).trans (helements kind)⟩

end Source

end ConfigReader
