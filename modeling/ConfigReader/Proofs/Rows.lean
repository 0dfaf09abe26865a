import ConfigReader.Proofs.Elements

/-!
# Lists of records in tables

A table has no entry for a list.  An element is made of the entries whose paths begin with
the key of the list and the number of the element.  So the numbers need not follow one
another, and the entries may come in any order.  `Program.records_of_rows` says that the
list is read from its elements all the same: each number is one element, they are in
ascending order, and the program of an element reads its entries as a table of their own.

Where no entry is, no element is, and a list without elements is missing and not empty
(`Program.no_rows_missing`).
-/

namespace ConfigReader

/-! ## Entries of elements -/

theorem Text.below?_inside (scope inner path : Text) :
    below? (under scope inner) path = (below? scope path).bind (below? inner) := by
  have hlead : under scope inner ++ [separator] =
      scope ++ [separator] ++ (inner ++ [separator]) := by simp [under]
  rw [below?, hlead, after?_of_append]
  rfl

namespace Entries

section Rows

variable {α : Type}

/-- The entries of elements, which have numbers, as they stand under the key of a list. -/
def numbered (key : Text) (rows : List (Nat × List (Text × α))) : List (Text × α) :=
  rows.flatMap fun (i, entries) =>
    entries.map fun (path, a) => (Text.under (Text.under key (Text.ofNat i)) path, a)

theorem mem_numbered {key : Text} {rows : List (Nat × List (Text × α))} {entry : Text × α} :
    entry ∈ numbered key rows ↔ ∃ row ∈ rows, ∃ inner ∈ row.2,
      entry = (Text.under (Text.under key (Text.ofNat row.1)) inner.1, inner.2) := by
  simp only [numbered, List.mem_flatMap, List.mem_map, eq_comm]

theorem below_inside (scope inner : Text) (entries : List (Text × α)) :
    below inner (below scope entries) = below (Text.under scope inner) entries := by
  rw [below, below, below, List.filterMap_filterMap]
  congr 1
  funext entry
  obtain ⟨path, a⟩ := entry
  show ((Text.below? scope path).map (·, a)).bind _ =
    (Text.below? (Text.under scope inner) path).map (·, a)
  rw [Text.below?_inside]
  cases Text.below? scope path <;> rfl

/-- The entries under a number are those of its element. -/
theorem below_numbered {key : Text} (hkey : separator ∉ key)
    {rows : List (Nat × List (Text × α))} (hdistinct : (rows.map Prod.fst).Nodup)
    {row : Nat × List (Text × α)} (hrow : row ∈ rows) :
    below (Text.under key (Text.ofNat row.1)) (numbered key rows) = row.2 := by
  -- entries of other elements are not under the number
  have hother : ∀ {others : List (Nat × List (Text × α))}, (∀ other ∈ others, row.1 ≠ other.1) →
      ∀ entry ∈ numbered key others,
        entry.1.startsWith (Text.under key (Text.ofNat row.1) ++ [separator]) = false := by
    intro others hne entry hentry
    rcases mem_numbered.mp hentry with ⟨other, hother, inner, -, rfl⟩
    have hnone : Text.below? (Text.under key (Text.ofNat row.1))
        (Text.under (Text.under key (Text.ofNat other.1)) inner.1) = none := by
      rw [Option.eq_none_iff_forall_not_mem]
      intro rest hrest
      exact Text.under_index_ne hkey (hne other hother) rest inner.1
        (Text.below?_eq_some.mp hrest).symm
    exact Option.isSome_eq_false_iff.mpr (Option.isNone_iff_eq_none.mpr hnone)
  induction rows with
  | nil => cases hrow
  | cons first rest ih =>
      rw [List.map_cons, List.nodup_cons] at hdistinct
      rcases List.mem_cons.mp hrow with rfl | hrow
      · have hne : ∀ other ∈ rest, row.1 ≠ other.1 := by
          intro other hmem heq
          exact hdistinct.1 (heq ▸ List.mem_map_of_mem hmem)
        exact below_append _ row.2 (numbered key rest) (hother hne)
      · have hne : ∀ other ∈ [first], row.1 ≠ other.1 := by
          intro other hmem heq
          rw [List.mem_singleton.mp hmem] at heq
          exact hdistinct.1 (heq ▸ List.mem_map_of_mem hrow)
        have hfirst := below_append (Text.under key (Text.ofNat row.1)) [] _ (hother hne)
        have happend : numbered key (first :: rest) =
            numbered key [first] ++ numbered key rest := by
          simp [numbered]
        rw [happend, below, List.filterMap_append, ← below, ← below, ih hdistinct.2 hrow]
        exact congrArg (· ++ row.2) hfirst

end Rows

/-- The entries of a list have texts if those of each element have. -/
theorem exists_written_numbered {key : Text} {rows : List (Nat × List (Text × Value))}
    (h : ∀ row ∈ rows, ∃ pairs, written row.2 = .ok pairs) :
    ∃ pairs, written (numbered key rows) = .ok pairs := by
  rw [exists_written]
  intro entry hentry
  rcases mem_numbered.mp hentry with ⟨row, hrow, inner, hinner, rfl⟩
  exact exists_written.mp (h row hrow) inner hinner

/-- The elements of a list in a table are its numbers, in ascending order. -/
theorem elementIds_numbered {key : Text} {rows : List (Nat × List (Text × Value))}
    {pairs : List (Text × Text)} (hwritten : written (numbered key rows) = .ok pairs)
    (hshort : ∀ row ∈ rows, (Text.ofNat row.1).length ≤ digitLimit)
    (hfull : ∀ row ∈ rows, row.2 ≠ []) {indices : List Nat} (hascending : indices.Pairwise (· < ·))
    (hindices : ∀ i, i ∈ indices ↔ i ∈ rows.map Prod.fst) :
    (ofPairs pairs).elementIds key = .ok (indices.map Text.ofNat) := by
  have hsegment : ∀ (i : Nat) (path : Text),
      segmentAfter? key (Text.under (Text.under key (Text.ofNat i)) path) =
        some (Text.ofNat i) := by
    intro i path
    rw [← Text.under_under]
    exact segmentAfter?_of_splitOn (Text.splitOn_append (Text.separator_notMem_ofNat i) path)
  refine elementIds_eq hascending (fun id _ => ?_) fun i hi => ?_
  · rw [List.mem_map]
    constructor
    · rintro ⟨path, hpath, hid⟩
      rw [mem_paths_of_written hwritten, List.mem_map] at hpath
      rcases hpath with ⟨entry, hentry, rfl⟩
      rcases mem_numbered.mp hentry with ⟨row, hrow, inner, -, rfl⟩
      rw [hsegment, Option.some.injEq] at hid
      exact ⟨row.1, (hindices _).mpr (List.mem_map_of_mem hrow), hid⟩
    · rintro ⟨i, hi, rfl⟩
      rcases List.mem_map.mp ((hindices i).mp hi) with ⟨row, hrow, rfl⟩
      rcases List.exists_mem_of_ne_nil _ (hfull row hrow) with ⟨inner, hinner⟩
      refine ⟨_, ?_, hsegment row.1 inner.1⟩
      rw [mem_paths_of_written hwritten]
      exact List.mem_map_of_mem (mem_numbered.mpr ⟨row, hrow, inner, hinner, rfl⟩)
  · rcases List.mem_map.mp ((hindices i).mp hi) with ⟨row, hrow, rfl⟩
    exact hshort row hrow

end Entries

/-! ## Elements of a table -/

/-- The numbers of elements in ascending order. -/
theorem pairwise_mergeSort_lt {indices : List Nat} (h : indices.Nodup) :
    indices.mergeSort.Pairwise (· < ·) := by
  have hsorted : indices.mergeSort.Pairwise fun i j => (decide (i ≤ j)) = true :=
    List.pairwise_mergeSort (fun i j k => by simp only [decide_eq_true_eq]; omega)
      (fun i j => by simp only [Bool.or_eq_true, decide_eq_true_eq]; omega) indices
  have hnodup : indices.mergeSort.Nodup := (List.mergeSort_perm indices _).nodup_iff.mpr h
  exact hsorted.imp₂ (fun i j hij hne => by simp at hij; omega) hnodup

/-- The step with the least number of those that fail ends a sequence of steps. -/
theorem mapM_of_least {ε α : Type} {indices : List Nat} (hascending : indices.Pairwise (· < ·))
    {f : Nat → Except ε α} {i : Nat} (hi : i ∈ indices) {e : ε} (hfail : f i = .error e)
    (hbefore : ∀ j ∈ indices, j < i → ∃ a, f j = .ok a) : indices.mapM f = .error e := by
  rcases List.append_of_mem hi with ⟨before, after, rfl⟩
  rw [List.pairwise_append] at hascending
  refine mapM_of_first (fun j hj => ?_) hfail after
  exact hbefore j (List.mem_append_left _ hj) (hascending.2.2 j hj i List.mem_cons_self)

namespace Program

variable {α : Type} {item : Program α} {key : Key} {rows : List (Nat × List (Text × Value))}

/-- An element is read under the key and its number as a table of its own. -/
theorem ending_row (hdistinct : (rows.map Prod.fst).Nodup) {pairs : List (Text × Text)}
    (hwritten : Entries.written (Entries.numbered key.text rows) = .ok pairs)
    {row : Nat × List (Text × Value)} (hrow : row ∈ rows) (origin origin' : Text) {inner : Source}
    (hinner : Source.ofMapping origin' (Entries.mapping row.2) = .ok inner) :
    item.ending (.flat origin (Entries.ofPairs pairs))
        ((KeyPath.root.child key.text).child (Text.ofNat row.1)) =
      (item.ending inner .root).mapError
        (Halt.under (Text.under key.text (Text.ofNat row.1))) := by
  let scope := Text.under key.text (Text.ofNat row.1)
  have hbelow := Entries.written_below scope hwritten
  rw [Entries.below_numbered key.separator_notMem hdistinct hrow] at hbelow
  rcases Entries.ofMapping_mapping_eq_ok.mp hinner with ⟨table, htable, rfl⟩
  obtain rfl : Entries.below scope pairs = table := Except.ok.inj (hbelow.symm.trans htable)
  have houter := Source.moved_below key.text origin' origin (Entries.ofPairs pairs)
  have hmoved := Source.moved_below (Text.ofNat row.1) origin' origin'
    (Entries.below key.text (Entries.ofPairs pairs))
  rw [Entries.below_inside, Entries.below_ofPairs] at hmoved
  exact hmoved.ending_inside houter item

/-- The value or the failed read of an element is that of its number in the list. -/
theorem ending_row_of_result (hdistinct : (rows.map Prod.fst).Nodup) {pairs : List (Text × Text)}
    (hwritten : Entries.written (Entries.numbered key.text rows) = .ok pairs)
    {row : Nat × List (Text × Value)} (hrow : row ∈ rows) (origin origin' : Text)
    (hp : item.Supported) (hf : item.FunctionsReturn) {inner : Source}
    (hinner : Source.ofMapping origin' (Entries.mapping row.2) = .ok inner)
    {result : Except ReadFailure α}
    (hrun : (item.run eager inner .root).outcome =
      result.mapError fun f => (Failure.read f).raised) :
    (item.ending (.flat origin (Entries.ofPairs pairs))
        ((KeyPath.root.child key.text).child (Text.ofNat row.1))).mapError Halt.leavingItem =
      result.mapError fun f => .unread (f.under (Text.under key.text (Text.ofNat row.1))) := by
  rw [ending_row hdistinct hwritten hrow origin origin' hinner]
  rcases Entries.ofMapping_mapping_eq_ok.mp hinner with ⟨table, -, rfl⟩
  cases result with
  | ok v =>
      rw [eager_eq_ok.mp hrun]
      rfl
  | error f =>
      rw [ending_of_read (.flat _ _) hp hf hrun]
      rfl

/-- The elements of a list in a table are read in ascending order of their numbers. -/
theorem ending_records_of_rows (hrows : rows ≠ []) (hdistinct : (rows.map Prod.fst).Nodup)
    (hshort : ∀ row ∈ rows, (Text.ofNat row.1).length ≤ digitLimit)
    (hfull : ∀ row ∈ rows, row.2 ≠ []) {pairs : List (Text × Text)}
    (hwritten : Entries.written (Entries.numbered key.text rows) = .ok pairs) (origin : Text) :
    (records key item).ending (.flat origin (Entries.ofPairs pairs)) .root =
      (rows.map Prod.fst).mergeSort.mapM fun i =>
        (item.ending (.flat origin (Entries.ofPairs pairs))
          ((KeyPath.root.child key.text).child (Text.ofNat i))).mapError Halt.leavingItem := by
  have hids := Entries.elementIds_numbered hwritten hshort hfull (pairwise_mergeSort_lt hdistinct)
    fun _ => List.mem_mergeSort
  have hreply : (Source.flat origin (Entries.ofPairs pairs)).reply (.records key.text) =
      .ok ((rows.map Prod.fst).mergeSort.map Text.ofNat) := by
    rw [Source.reply_flat]
    change replyAt key.text
      (Entries.answer.present ((Entries.ofPairs pairs).elementIds key.text)) = _
    rw [hids]
    -- the list has an element
    cases hsorted : (rows.map Prod.fst).mergeSort with
    | nil =>
        have hnone := (List.mergeSort_perm (rows.map Prod.fst) _).symm.trans (.of_eq hsorted)
        exact absurd (List.map_eq_nil_iff.mp hnone.eq_nil) hrows
    | cons i rest => rfl
  rw [ending_records_of_reply hreply, List.mapM_map]
  rfl

/-- A list of records in a table is read from its elements.  The numbers of the elements need
not follow one another, and they stand in any order.  The eager run gives the values of the
elements in ascending order of the numbers.  If an element is the first one in this order
that has a failed read, the run ends with this failed read, and its path is the key, the
number and the path in the element. -/
theorem records_of_rows (hrows : rows ≠ []) (hdistinct : (rows.map Prod.fst).Nodup)
    (hshort : ∀ row ∈ rows, (Text.ofNat row.1).length ≤ digitLimit)
    (hfull : ∀ row ∈ rows, row.2 ≠ []) (hp : item.Supported) (hf : item.FunctionsReturn)
    (origin origin' : Text) {result : Nat → Except ReadFailure α}
    (hresult : ∀ row ∈ rows, ∃ inner,
      Source.ofMapping origin' (Entries.mapping row.2) = .ok inner ∧
      (item.run eager inner .root).outcome =
        (result row.1).mapError fun f => (Failure.read f).raised) :
    ∃ outer, Source.ofMapping origin (Entries.mapping (Entries.numbered key.text rows)) =
        .ok outer ∧
      (∀ v : Nat → α, (∀ row ∈ rows, result row.1 = .ok (v row.1)) →
        ((records key item).run eager outer .root).outcome =
          .ok ((rows.map Prod.fst).mergeSort.map v)) ∧
      (∀ row ∈ rows, ∀ f, result row.1 = .error f →
        (∀ other ∈ rows, other.1 < row.1 → ∃ v, result other.1 = .ok v) →
        ((records key item).run eager outer .root).outcome =
          .error (Failure.read (f.under (Text.under key.text (Text.ofNat row.1))))) := by
  have hinner : ∀ row ∈ rows, ∃ pairs, Entries.written row.2 = .ok pairs := by
    intro row hrow
    rcases hresult row hrow with ⟨inner, hof, -⟩
    exact (Entries.ofMapping_mapping_eq_ok.mp hof).imp fun pairs h => h.1
  rcases Entries.exists_written_numbered hinner with ⟨pairs, hwritten⟩
  let indices := (rows.map Prod.fst).mergeSort
  let scope (i : Nat) := Text.under key.text (Text.ofNat i)
  let step (i : Nat) := (item.ending (.flat origin (Entries.ofPairs pairs))
    ((KeyPath.root.child key.text).child (Text.ofNat i))).mapError Halt.leavingItem
  have hstep : ∀ row ∈ rows,
      step row.1 = (result row.1).mapError fun f => .unread (f.under (scope row.1)) := by
    intro row hrow
    rcases hresult row hrow with ⟨inner, hof, hrun⟩
    exact ending_row_of_result hdistinct hwritten hrow origin origin' hp hf hof hrun
  have hnumber : ∀ i ∈ indices, ∃ row ∈ rows, row.1 = i := fun i hi =>
    List.mem_map.mp (List.mem_mergeSort.mp hi)
  have hend : (records key item).ending (.flat origin (Entries.ofPairs pairs)) .root =
      indices.mapM step :=
    ending_records_of_rows hrows hdistinct hshort hfull hwritten origin
  refine ⟨_, Entries.ofMapping_mapping_eq_ok.mpr ⟨pairs, hwritten, rfl⟩, fun v hv => ?_,
    fun row hrow f hfail hbefore => ?_⟩
  · rw [eager_eq_ok, hend]
    refine mapM_of_forall₂ (List.forall₂_map_right_iff.mpr (List.forall₂_same.mpr fun i hi => ?_))
    rcases hnumber i hi with ⟨row, hrow, rfl⟩
    rw [hstep row hrow, hv row hrow]
    rfl
  · have hleast : indices.mapM step = .error (.unread (f.under (scope row.1))) := by
      refine mapM_of_least (pairwise_mergeSort_lt hdistinct)
        (List.mem_mergeSort.mpr (List.mem_map_of_mem hrow)) ?_ fun i hi hless => ?_
      · rw [hstep row hrow, hfail]
        rfl
      · rcases hnumber i hi with ⟨other, hother, rfl⟩
        rcases hbefore other hother hless with ⟨v, hv⟩
        refine ⟨v, ?_⟩
        rw [hstep other hother, hv]
        rfl
    rw [(run_cut _ (records key item) .root).outcome, hend, hleast]
    rfl

/-- Element 10 stands in front of element 2, and one of its own paths looks like that of an
element.  Its host is the second one, and its port is the first one that is missing. -/
theorem records_of_rows_sparse :
    let servers : Key := ⟨"servers", by decide⟩
    let host := scalar .string ⟨"host", by decide⟩
    let port := scalar .integer ⟨"port", by decide⟩
    let rows : List (Nat × List (Text × Value)) :=
      [(10, [("2.host", .text "c"), ("host", .text "b")]),
        (2, [("host", .text "a"), ("port", .text "80")])]
    ∃ outer, Source.ofMapping "<mapping>" (Entries.mapping (Entries.numbered servers.text rows)) =
        .ok outer ∧
      ((records servers host).run eager outer .root).outcome = .ok (["a", "b"] : List Text) ∧
      ((records servers port).run eager outer .root).outcome =
        .error (Failure.read (.missing "servers.10.port")) := by
  intro servers host port rows
  have hshort : ∀ row ∈ rows, (Text.ofNat row.1).length ≤ digitLimit := by decide
  have hfull : ∀ row ∈ rows, row.2 ≠ [] := by
    simp [rows]
  have hsorted : (rows.map Prod.fst).mergeSort = [2, 10] := by
    simp [rows, List.mergeSort]
  have hhosts : ∀ row ∈ rows, ∃ inner,
      Source.ofMapping "<mapping>" (Entries.mapping row.2) = .ok inner ∧
      (host.run eager inner .root).outcome =
        (Except.ok (if row.1 = 2 then "a" else "b") : Except ReadFailure Text).mapError
          fun f => (Failure.read f).raised := by
    simp only [rows, List.forall_mem_cons]
    exact ⟨⟨_, rfl, rfl⟩, ⟨_, rfl, rfl⟩, nofun⟩
  have hports : ∀ row ∈ rows, ∃ inner,
      Source.ofMapping "<mapping>" (Entries.mapping row.2) = .ok inner ∧
      (port.run eager inner .root).outcome =
        (if row.1 = 2 then .ok 80 else .error (.missing "port") : Except ReadFailure Int).mapError
          fun f => (Failure.read f).raised := by
    simp only [rows, List.forall_mem_cons]
    exact ⟨⟨_, rfl, rfl⟩, ⟨_, rfl, rfl⟩, nofun⟩
  rcases @records_of_rows _ host servers rows (by simp [rows]) (by decide) hshort hfull trivial
    trivial "<mapping>" "<mapping>" (fun i => .ok (if i = 2 then "a" else "b")) hhosts
    with ⟨outer, houter, hvalues, -⟩
  rcases @records_of_rows _ port servers rows (by simp [rows]) (by decide) hshort hfull trivial
    trivial "<mapping>" "<mapping>"
    (fun i => if i = 2 then .ok 80 else .error (.missing "port")) hports
    with ⟨outer', houter', -, hfirst⟩
  obtain rfl : outer = outer' := Except.ok.inj (houter.symm.trans houter')
  refine ⟨outer, houter, ?_, ?_⟩
  · have hrun := hvalues (fun i => if i = 2 then "a" else "b") fun _ _ => rfl
    rw [hsorted] at hrun
    exact hrun
  · refine hfirst _ List.mem_cons_self (.missing "port") rfl fun other hother hless => ?_
    simp only [rows, List.mem_cons, List.not_mem_nil, or_false] at hother
    rcases hother with rfl | rfl
    · exact absurd hless (Nat.lt_irrefl 10)
    · exact ⟨80, rfl⟩

/-- A list without elements has no entry in a table, so it is missing. -/
theorem no_rows_missing :
    let servers : Key := ⟨"servers", by decide⟩
    let item := scalar .string ⟨"host", by decide⟩
    ∃ outer, Source.ofMapping "<mapping>" (Entries.mapping (Entries.numbered servers.text [])) =
        .ok outer ∧
      ((records servers item).run eager outer .root).outcome =
        .error (Failure.read (.missing "servers")) ∧
      ((records servers item).run eager outer .root).outcome ≠ .ok [] := by
  intro servers item
  have hids : Entries.elementIds [] servers.text = .ok [] := by
    simp [Entries.elementIds]
  have hreply : (Source.flat "<mapping>" []).reply (.records servers.text) =
      .error (.unread (.missing "servers")) := by
    rw [Source.reply_flat]
    change replyAt servers.text (Entries.answer.present (Entries.elementIds [] servers.text)) = _
    rw [hids]
    rfl
  have hmissing : ((records servers item).run eager (.flat "<mapping>" []) .root).outcome =
      .error (Failure.read (.missing "servers")) := by
    rw [(run_cut _ (records servers item) .root).outcome, ending, KeyPath.resolve, hreply]
    rfl
  refine ⟨.flat "<mapping>" [], rfl, hmissing, ?_⟩
  rw [hmissing]
  intro heq
  cases heq

end Program

end ConfigReader
