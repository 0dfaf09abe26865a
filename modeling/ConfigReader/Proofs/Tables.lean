import ConfigReader.Source.Flat
import Mathlib.Data.List.Induction

/-!
# Tables as maps

A table is a list of entries, and what it answers depends on their order.  This module
says that the order carries nothing: the paths of a table made of pairs ascend
(`Entries.ascending_ofPairs`), the text at a path is that of the last pair for it
(`Entries.get?_ofPairs`), and two ascending tables with the same texts are the same
list (`Entries.ext`).
-/

namespace ConfigReader

/-! ## The order of texts -/

theorem CodePoint.toNat_injective {a b : CodePoint} (h : a.toNat = b.toNat) : a = b := by
  -- The surrogates fill the gap that the scalar values leave.
  have hgap : ∀ (c : Char) (i : Fin 2048), c.toNat ≠ 0xD800 + i.val := by
    intro c i hc
    have hi := i.isLt
    have hvalid : c.toNat.isValidChar := c.valid
    unfold Nat.isValidChar at hvalid
    omega
  cases a with
  | scalar c => cases b with
    | scalar d => exact congrArg scalar (Char.toNat_inj.mp h)
    | surrogate i => exact absurd h (hgap c i)
  | surrogate i => cases b with
    | scalar d => exact absurd h.symm (hgap d i)
    | surrogate j =>
        have hij : i.val = j.val := Nat.add_left_cancel h
        exact congrArg surrogate (Fin.ext hij)

namespace Text

theorem le_antisymm : ∀ {s t : Text}, Text.le s t = true → Text.le t s = true → s = t
  | [], [], _, _ => rfl
  | a :: s, b :: t, hst, hts => by
      by_cases hab : a = b
      · subst hab
        rw [Text.le, if_pos rfl] at hst hts
        rw [le_antisymm hst hts]
      · rw [Text.le, if_neg hab, CodePoint.le, decide_eq_true_eq] at hst
        rw [Text.le, if_neg (Ne.symm hab), CodePoint.le, decide_eq_true_eq] at hts
        exact absurd (CodePoint.toNat_injective (Nat.le_antisymm hst hts)) hab

theorem le_trans : ∀ {s t u : Text}, Text.le s t = true → Text.le t u = true → Text.le s u = true
  | [], _, _, _, _ => rfl
  | a :: s, b :: t, c :: u, hst, htu => by
      by_cases hab : a = b
      · subst hab
        rw [Text.le, if_pos rfl] at hst
        by_cases hac : a = c
        · rw [Text.le, if_pos hac] at htu ⊢
          exact le_trans hst htu
        · rw [Text.le, if_neg hac] at htu ⊢
          exact htu
      · rw [Text.le, if_neg hab, CodePoint.le, decide_eq_true_eq] at hst
        by_cases hbc : b = c
        · subst hbc
          rw [Text.le, if_neg hab, CodePoint.le, decide_eq_true_eq]
          exact hst
        · rw [Text.le, if_neg hbc, CodePoint.le, decide_eq_true_eq] at htu
          have hac : a ≠ c := by
            rintro rfl
            exact hab (CodePoint.toNat_injective (Nat.le_antisymm hst htu))
          rw [Text.le, if_neg hac, CodePoint.le, decide_eq_true_eq]
          exact Nat.le_trans hst htu

theorem le_total : ∀ s t : Text, Text.le s t = true ∨ Text.le t s = true
  | [], _ => .inl rfl
  | _ :: _, [] => .inr rfl
  | a :: s, b :: t => by
      by_cases hab : a = b
      · subst hab
        rw [Text.le, Text.le, if_pos rfl, if_pos rfl]
        exact le_total s t
      · rw [Text.le, Text.le, if_neg hab, if_neg (Ne.symm hab)]
        simp only [CodePoint.le, decide_eq_true_eq]
        exact Nat.le_total a.toNat b.toNat

theorem pairwise_sort (ts : List Text) : (sort ts).Pairwise fun a b => Text.le a b = true := by
  have htrans : ∀ a b c, Text.le a b = true → Text.le b c = true → Text.le a c = true :=
    fun _ _ _ => le_trans
  have htotal : ∀ a b, (Text.le a b || Text.le b a) = true := by simpa using le_total
  exact List.pairwise_mergeSort htrans htotal ts

end Text

namespace Entries

/-! ## The text at a path -/

theorem get?_cons (path key text : Text) (entries : Entries) :
    get? ((key, text) :: entries) path = if path = key then some text else entries.get? path := by
  unfold get?
  rw [List.lookup_cons]
  by_cases h : path = key
  · rw [if_pos h, beq_iff_eq.mpr h]
  · rw [if_neg h, beq_eq_false_iff_ne.mpr h]

theorem get?_insert (path text key : Text) (entries : Entries) :
    (insert path text entries).get? key =
      if key = path then some text else entries.get? key := by
  induction entries with
  | nil => rw [insert, get?_cons]
  | cons entry rest ih =>
      obtain ⟨p, t⟩ := entry
      rw [insert]
      split
      · next hp =>
          subst hp
          rw [get?_cons, get?_cons]
          split <;> rfl
      · next hp =>
          split
          · rw [get?_cons]
          · rw [get?_cons, get?_cons, ih]
            by_cases hk : key = p
            · subst hk
              rw [if_pos rfl, if_pos rfl, if_neg hp]
            · rw [if_neg hk, if_neg hk]

theorem ofPairs_concat (pairs : List (Text × Text)) (path text : Text) :
    ofPairs (pairs ++ [(path, text)]) = insert path text (ofPairs pairs) := by
  rw [ofPairs, List.foldl_append]
  rfl

/-- The text at a path is that of the last pair for it. -/
theorem get?_ofPairs (pairs : List (Text × Text)) (path : Text) :
    (ofPairs pairs).get? path = pairs.reverse.lookup path := by
  induction pairs using List.reverseRecOn with
  | nil => rfl
  | append_singleton pairs pair ih =>
      obtain ⟨p, t⟩ := pair
      rw [ofPairs_concat, get?_insert, ih, List.reverse_concat]
      exact (get?_cons path p t pairs.reverse).symm

/-- A path has a text when it is the path of an entry. -/
theorem isSome_get? {entries : Entries} {path : Text} :
    (entries.get? path).isSome ↔ path ∈ entries.map Prod.fst := by
  induction entries with
  | nil => simp [get?]
  | cons entry rest ih =>
      obtain ⟨p, t⟩ := entry
      rw [get?_cons, List.map_cons, List.mem_cons]
      by_cases h : path = p
      · simp [h]
      · simp [h, ih]

/-- The paths of a table of pairs are those of the pairs. -/
theorem mem_paths_ofPairs {pairs : List (Text × Text)} {path : Text} :
    path ∈ (ofPairs pairs).map Prod.fst ↔ path ∈ pairs.map Prod.fst := by
  have h : (pairs.reverse.lookup path).isSome ↔ path ∈ pairs.reverse.map Prod.fst := isSome_get?
  rw [← isSome_get?, get?_ofPairs, h, List.map_reverse, List.mem_reverse]

/-! ## Ascending tables -/

/-- One path is before another one. -/
def Before (a b : Text × Text) : Prop := a.1 ≠ b.1 ∧ Text.le a.1 b.1 = true

theorem Before.trans {a b c : Text × Text} (hab : Before a b) (hbc : Before b c) : Before a c := by
  refine ⟨fun hac => hab.1 (Text.le_antisymm hab.2 ?_), Text.le_trans hab.2 hbc.2⟩
  rw [hac]
  exact hbc.2

/-- The paths of the entries ascend, each one once. -/
def Ascending (entries : Entries) : Prop := entries.Pairwise Before

theorem mem_insert {path text : Text} {entry : Text × Text} {entries : Entries}
    (h : entry ∈ insert path text entries) : entry = (path, text) ∨ entry ∈ entries := by
  induction entries with
  | nil => exact .inl (List.mem_singleton.mp h)
  | cons first rest ih =>
      obtain ⟨p, t⟩ := first
      rw [insert] at h
      split at h
      · obtain h | h := List.mem_cons.mp h
        · exact .inl h
        · exact .inr (List.mem_cons_of_mem _ h)
      · split at h
        · exact List.mem_cons.mp h
        · obtain rfl | h := List.mem_cons.mp h
          · exact .inr List.mem_cons_self
          · exact (ih h).imp_right (List.mem_cons_of_mem _)

/-- Entries are put where their paths belong. -/
theorem ascending_insert {entries : Entries} (h : entries.Ascending) (path text : Text) :
    (insert path text entries).Ascending := by
  induction entries with
  | nil => exact List.pairwise_singleton _ _
  | cons first rest ih =>
      obtain ⟨p, t⟩ := first
      obtain ⟨hfirst, hrest⟩ := List.pairwise_cons.mp h
      rw [insert]
      split
      · next hp =>
          subst hp
          exact List.pairwise_cons.mpr ⟨hfirst, hrest⟩
      · next hp =>
          split
          · next hle =>
              have hbefore : Before (path, text) (p, t) := ⟨Ne.symm hp, hle⟩
              refine List.pairwise_cons.mpr ⟨fun entry hentry => ?_, h⟩
              obtain rfl | hentry := List.mem_cons.mp hentry
              · exact hbefore
              · exact hbefore.trans (hfirst entry hentry)
          · next hle =>
              have hbefore : Before (p, t) (path, text) :=
                ⟨hp, (Text.le_total p path).resolve_right hle⟩
              refine List.pairwise_cons.mpr ⟨fun entry hentry => ?_, ih hrest⟩
              obtain rfl | hentry := mem_insert hentry
              · exact hbefore
              · exact hfirst entry hentry

theorem ascending_ofPairs (pairs : List (Text × Text)) : (ofPairs pairs).Ascending := by
  induction pairs using List.reverseRecOn with
  | nil => exact List.Pairwise.nil
  | append_singleton pairs pair ih =>
      rw [ofPairs_concat]
      exact ascending_insert ih _ _

/-- The entries of a table of pairs are among the pairs. -/
theorem mem_of_mem_ofPairs {pairs : List (Text × Text)} {entry : Text × Text}
    (h : entry ∈ ofPairs pairs) : entry ∈ pairs := by
  induction pairs using List.reverseRecOn with
  | nil => cases h
  | append_singleton pairs pair ih =>
      rw [ofPairs_concat] at h
      rw [List.mem_append, List.mem_singleton]
      exact (mem_insert h).symm.imp ih id

theorem get?_eq_some {entries : Entries} (h : entries.Ascending) {path text : Text} :
    entries.get? path = some text ↔ (path, text) ∈ entries := by
  induction entries with
  | nil => simp [get?]
  | cons first rest ih =>
      obtain ⟨p, t⟩ := first
      obtain ⟨hfirst, hrest⟩ := List.pairwise_cons.mp h
      rw [get?_cons, List.mem_cons]
      by_cases hp : path = p
      · subst hp
        have hnot : (path, text) ∉ rest := fun hmem => (hfirst _ hmem).1 rfl
        simp [hnot, eq_comm]
      · simp [hp, ih hrest]

/-- Ascending tables with the same texts are the same. -/
theorem ext {a b : Entries} (ha : a.Ascending) (hb : b.Ascending)
    (h : ∀ path, a.get? path = b.get? path) : a = b := by
  have hnodup : ∀ {entries : Entries}, entries.Ascending → entries.Nodup := fun hentries =>
    hentries.imp fun hbefore heq => hbefore.1 (congrArg Prod.fst heq)
  have hmem : ∀ entry, entry ∈ a ↔ entry ∈ b := by
    rintro ⟨path, text⟩
    rw [← get?_eq_some ha, ← get?_eq_some hb, h]
  have hperm : a.Perm b := (List.perm_ext_iff_of_nodup (hnodup ha) (hnodup hb)).mpr hmem
  refine hperm.eq_of_pairwise (fun x y _ _ hxy hyx => ?_) ha hb
  exact absurd (Text.le_antisymm hxy.2 hyx.2) hxy.1

/-! ## Tables made of values -/

/-- The mapping of paths and values. -/
def mapping (entries : List (Text × Value)) : List (Value × Value) :=
  entries.map fun (path, v) => (.text path, v)

/-- Paths and the texts of their values, if all have one. -/
def written (entries : List (Text × Value)) : Except Failure (List (Text × Text)) :=
  entries.mapM fun (path, v) => v.entryText.map (path, ·)

theorem written_cons (path : Text) (v : Value) (rest : List (Text × Value)) :
    written ((path, v) :: rest) = v.entryText.bind fun text =>
      (written rest).bind fun pairs => .ok ((path, text) :: pairs) := by
  rw [written, List.mapM_cons, ← written]
  cases hv : v.entryText with
  | error f =>
      simp only [hv]
      rfl
  | ok text =>
      simp only [hv]
      rfl

/-- Entries have texts if each of their values has one. -/
theorem exists_written {entries : List (Text × Value)} :
    (∃ pairs, written entries = .ok pairs) ↔
      ∀ entry ∈ entries, ∃ text, entry.2.entryText = .ok text := by
  induction entries with
  | nil => exact ⟨fun _ entry hentry => (nomatch hentry), fun _ => ⟨[], rfl⟩⟩
  | cons entry rest ih =>
      obtain ⟨path, v⟩ := entry
      rw [List.forall_mem_cons, ← ih, written_cons]
      cases v.entryText with
      | error f => exact ⟨nofun, nofun⟩
      | ok text => cases written rest with
        | error f => exact ⟨nofun, nofun⟩
        | ok pairs => exact ⟨fun _ => ⟨⟨text, rfl⟩, pairs, rfl⟩, fun _ => ⟨_, rfl⟩⟩

/-- Entries keep their paths when their values are written. -/
theorem paths_of_written {entries : List (Text × Value)} {pairs : List (Text × Text)}
    (h : written entries = .ok pairs) : pairs.map Prod.fst = entries.map Prod.fst := by
  induction entries generalizing pairs with
  | nil =>
      cases h
      rfl
  | cons entry rest ih =>
      obtain ⟨path, v⟩ := entry
      rw [written_cons] at h
      cases htext : v.entryText with
      | error f =>
          rw [htext] at h
          cases h
      | ok text =>
          cases hmore : written rest with
          | error f =>
              rw [htext, hmore] at h
              cases h
          | ok more =>
              rw [htext, hmore] at h
              cases h
              exact congrArg (path :: ·) (ih hmore)

/-- The table of entries has their paths. -/
theorem mem_paths_of_written {entries : List (Text × Value)} {pairs : List (Text × Text)}
    (h : written entries = .ok pairs) (key : Text) :
    key ∈ (ofPairs pairs).map Prod.fst ↔ key ∈ entries.map Prod.fst := by
  rw [mem_paths_ofPairs, paths_of_written h]

/-- A mapping of paths is a table, unless a value has no text. -/
theorem ofMapping_mapping (origin : Text) (entries : List (Text × Value)) :
    Source.ofMapping origin (mapping entries) =
      (written entries).map fun pairs => Source.flat origin (ofPairs pairs) := by
  have h : Source.ofMapping origin (mapping entries) =
      (written entries).bind fun pairs => .ok (Source.flat origin (ofPairs pairs)) := by
    rw [Source.ofMapping, mapping, List.mapM_map]
    rfl
  rw [h]
  cases written entries <;> rfl

theorem ofMapping_mapping_eq_ok {origin : Text} {entries : List (Text × Value)} {source : Source} :
    Source.ofMapping origin (mapping entries) = .ok source ↔
      ∃ pairs, written entries = .ok pairs ∧ Source.flat origin (ofPairs pairs) = source := by
  rw [ofMapping_mapping]
  cases written entries with
  | error f => simp [Except.map]
  | ok pairs => simp [Except.map]

end Entries

end ConfigReader
