import ConfigReader.Proofs.Escapes
import ConfigReader.Proofs.Parts

/-!
# Lists of records in documents

A list of records over a document is read element by element, as if each element were a
document: `Program.records_elementwise`.  An eager run ends at the first element that does not
give a value.  The collecting run goes through all elements and puts their failed reads one
behind the other.  The elements have different paths, so no issue is left out for being the
issue of another element, and their order is the reverse order of the elements.
-/

namespace ConfigReader

/-! ## Elements one after another -/

section Sequences

variable {ι α β : Type}

theorem gather_of_forall₂ {element : ι → Run (Collected α)} {ids : List ι}
    {ys : List (Collected α)} (h : List.Forall₂ (fun i y => (element i).outcome = .ok y) ids ys)
    (items : Collected (List α)) :
    (collecting.gather element items ids).outcome = .ok (ys.foldl Collected.snoc items) := by
  induction h generalizing items with
  | nil => rfl
  | cons hi _ ih =>
      rw [gather_collecting]
      exact Run.bind_eq_ok.mpr ⟨_, Run.asItem_eq_ok.mpr hi, ih _⟩

theorem failures_foldl_snoc (items : Collected (List α)) (ys : List (Collected α)) :
    (ys.foldl Collected.snoc items).failures = items.failures ++ ys.flatMap Collected.failures := by
  induction ys generalizing items with
  | nil => exact (List.append_nil _).symm
  | cons y rest ih =>
      rw [List.foldl_cons, ih, Collected.failures_snoc, List.flatMap_cons, List.append_assoc]

theorem Collected.toValidated_of_failures {x : Collected α} (h : x.failures ≠ []) :
    x.toValidated = .invalid (reported x.failures) := by
  cases x with
  | value a => exact absurd rfl h
  | failed first rest => rfl

theorem foldl_snoc_values (as items : List α) :
    (as.map Collected.value).foldl Collected.snoc (.value items) = .value (items ++ as) := by
  induction as generalizing items with
  | nil => rw [List.append_nil]; rfl
  | cons a rest ih =>
      rw [List.map_cons, List.foldl_cons, Collected.snoc, ih, List.append_assoc]
      rfl

/-- What holds of the elements of a list holds of their indices. -/
theorem forall₂_indices {P : ι → α → Prop} {R : Text → β → Prop} {g : Nat → α → β} {ds : List ι}
    {as : List α} (h : List.Forall₂ P ds as)
    (hstep : ∀ i d a, ds[i]? = some d → P d a → R (Text.ofNat i) (g i a)) :
    List.Forall₂ R ((List.range ds.length).map Text.ofNat) (as.mapIdx g) := by
  rw [List.forall₂_iff_get] at h ⊢
  obtain ⟨hlength, hget⟩ := h
  refine ⟨by simp [hlength], fun i hi hi' => ?_⟩
  have hd : i < ds.length := by simpa using hi
  have ha : i < as.length := by simpa using hi'
  simpa using hstep i _ _ (List.getElem?_eq_getElem hd) (hget i hd ha)

end Sequences

/-! ## Issues of elements -/

/-- Failed reads at different paths have different issues. -/
theorem reported_append {xs ys : List ReadFailure} (h : ∀ f ∈ xs, ∀ g ∈ ys, f.path ≠ g.path) :
    reported (xs ++ ys) = reported ys ++ reported xs := by
  unfold reported
  rw [List.reverse_append, List.map_append, distinct_append]
  congr 1
  refine List.filter_eq_self.mpr fun issue hissue => ?_
  obtain ⟨f, hf, rfl⟩ := List.mem_map.mp (mem_distinct.mp hissue)
  simp only [decide_eq_true_eq]
  intro hmem
  obtain ⟨g, hg, heq⟩ := List.mem_map.mp hmem
  exact h f (List.mem_reverse.mp hf) g (List.mem_reverse.mp hg) (congrArg Issue.path heq).symm

/-- Blocks of failed reads at different paths are reported one by one, the last one first. -/
theorem reported_flatten {blocks : List (List ReadFailure)}
    (h : blocks.Pairwise fun xs ys => ∀ f ∈ xs, ∀ g ∈ ys, f.path ≠ g.path) :
    reported blocks.flatten = (blocks.map reported).reverse.flatten := by
  induction blocks with
  | nil => rfl
  | cons xs rest ih =>
      obtain ⟨hxs, hrest⟩ := List.pairwise_cons.mp h
      have hpaths : ∀ f ∈ xs, ∀ g ∈ rest.flatten, f.path ≠ g.path := by
        intro f hf g hg
        obtain ⟨ys, hys, hg⟩ := List.mem_flatten.mp hg
        exact hxs ys hys f hf g hg
      rw [List.flatten_cons, reported_append hpaths, ih hrest, List.map_cons, List.reverse_cons,
        List.flatten_append, List.flatten_singleton]

/-- Paths of different elements are different. -/
theorem Text.under_index_ne {key : Text} (hkey : separator ∉ key) {i j : Nat} (hij : i ≠ j)
    (s t : Text) : under (under key (ofNat i)) s ≠ under (under key (ofNat j)) t := by
  intro h
  have hsplit : ∀ (n : Nat) (path : Text), (under (under key (ofNat n)) path).splitOn separator =
      key :: ofNat n :: path.splitOn separator := by
    intro n path
    rw [← under_under, under, under, splitOn_append_separator, splitOn_append_separator,
      splitOn_of_not_mem hkey, splitOn_of_not_mem (separator_notMem_ofNat n)]
    rfl
  have hpieces := congrArg (splitOn separator) h
  rw [hsplit, hsplit] at hpieces
  exact hij (ofNat_injective (List.cons.inj (List.cons.inj hpieces).2).1)

/-- The issues of all elements, those of the last one first. -/
theorem reported_elements {α : Type} {key : Text} (hkey : separator ∉ key)
    (ys : List (Collected α)) :
    reported (ys.mapIdx fun i y =>
        y.failures.map (ReadFailure.under (Text.under key (Text.ofNat i)))).flatten =
      (ys.mapIdx fun i y =>
        (reported y.failures).map (Issue.under (Text.under key (Text.ofNat i)))).reverse.flatten := by
  have hpath : ∀ (f : ReadFailure) (scope : Text), (f.under scope).path = Text.under scope f.path := by
    intro f scope
    cases f <;> rfl
  have hblocks : (ys.mapIdx fun i y =>
      y.failures.map (ReadFailure.under (Text.under key (Text.ofNat i)))).map reported =
      ys.mapIdx fun i y =>
        (reported y.failures).map (Issue.under (Text.under key (Text.ofNat i))) :=
    List.ext_getElem (by simp) (by simp [reported_under])
  rw [reported_flatten, hblocks]
  refine List.pairwise_iff_getElem.mpr fun i j hi hj hij f hf g hg => ?_
  rw [List.getElem_mapIdx] at hf hg
  obtain ⟨f, -, rfl⟩ := List.mem_map.mp hf
  obtain ⟨g, -, rfl⟩ := List.mem_map.mp hg
  rw [hpath, hpath]
  exact Text.under_index_ne hkey (Nat.ne_of_lt hij) _ _

/-! ## Lists of records -/

namespace Program

variable {α : Type} {w : Web} {elements : List Web.Item} {key : Key} {item : Program α}

/-- An eager run over a list of records goes through the elements that the source finds. -/
theorem ending_records_of_reply {source : Source} {ids : List Text}
    (h : source.reply (.records key.text) = .ok ids) :
    (records key item).ending source .root = ids.mapM fun id =>
      (item.ending source ((KeyPath.root.child key.text).child id)).mapError Halt.leavingItem := by
  rw [ending, KeyPath.resolve, h]
  rfl

theorem ending_records (hlist : w.Lists key.text elements) (origin : Text) :
    (records key item).ending (.ofWeb origin w) .root =
      ((List.range elements.length).map Text.ofNat).mapM fun id =>
        (item.ending (.ofWeb origin w) ((KeyPath.root.child key.text).child id)).mapError
          Halt.leavingItem :=
  ending_records_of_reply (hlist.reply_records origin key.separator_notMem)

theorem run_records (hlist : w.Lists key.text elements) (origin : Text) :
    (records key item).run collecting (.ofWeb origin w) .root =
      collecting.sequence
        (fun id => item.run collecting (.ofWeb origin w) ((KeyPath.root.child key.text).child id))
        ((List.range elements.length).map Text.ofNat) := by
  rw [run, KeyPath.resolve, withAnswer_of_silent ((hlist.follows origin).silent _),
    hlist.reply_records origin key.separator_notMem]
  rfl

/-- The error of a failed read that ends an eager run over a source of the library is that
of a read, if the functions return. -/
theorem ending_of_read {source : Source} {path : KeyPath} (hs : source.Built)
    (hp : item.Supported) (hf : item.FunctionsReturn) {f : ReadFailure}
    (h : (item.run eager source path).outcome = .error (Failure.read f)) :
    item.ending source path = .error (.unread f) := by
  have hcut := item.run_cut source path
  rw [hcut.outcome] at h
  cases hend : item.ending source path with
  | ok a =>
      rw [hend] at h
      cases h
  | error halt =>
      rw [hend] at h hcut
      cases halt with
      | unread g =>
          cases h
          rfl
      | raised e =>
          obtain ⟨digits, hlong⟩ :=
            overflow_of_collecting hs hp hf (congrArg Run.outcome hcut.of_raised.1)
          cases h
          cases hlong

/-- The end of the run of an element in the scope of the list. -/
theorem ending_at (hlist : w.Lists key.text elements) (origin origin' : Text) {i : Nat}
    {d : Web.Item} (hd : elements[i]? = some d) :
    (item.ending (.ofWeb origin w) ((KeyPath.root.child key.text).child (Text.ofNat i))).mapError
        Halt.leavingItem =
      ((item.ending (.ofWeb origin' (w.rooted d)) .root).mapError
        (Halt.under (Text.under key.text (Text.ofNat i)))).mapError Halt.leavingItem := by
  rw [hlist.ending_element origin origin' key.separator_notMem item hd]

theorem ending_records_of_values (hlist : w.Lists key.text elements) (origin origin' : Text)
    {vs : List α}
    (h : List.Forall₂ (fun d v => item.ending (.ofWeb origin' (w.rooted d)) .root = .ok v)
      elements vs) :
    (records key item).ending (.ofWeb origin w) .root = .ok vs := by
  have hids : List.Forall₂ (fun id v =>
      (item.ending (.ofWeb origin w) ((KeyPath.root.child key.text).child id)).mapError
        Halt.leavingItem = .ok v)
      ((List.range elements.length).map Text.ofNat) (vs.mapIdx fun _ v => v) := by
    refine forall₂_indices h fun i d v hd hv => ?_
    rw [ending_at hlist origin origin' hd, hv]
    rfl
  have hvs : (vs.mapIdx fun _ v => v) = vs := List.ext_getElem (by simp) (by simp)
  rw [hvs] at hids
  rw [ending_records hlist]
  exact mapM_of_forall₂ hids

theorem ending_records_of_first (hlist : w.Lists key.text elements) (origin origin' : Text)
    {before after : List Web.Item} {d : Web.Item} (hsplit : elements = before ++ d :: after)
    (hbefore : ∀ b ∈ before, ∃ v, item.ending (.ofWeb origin' (w.rooted b)) .root = .ok v)
    {f : ReadFailure} (hd : item.ending (.ofWeb origin' (w.rooted d)) .root = .error (.unread f)) :
    (records key item).ending (.ofWeb origin w) .root =
      .error (.unread (f.under (Text.under key.text (Text.ofNat before.length)))) := by
  have hids : (List.range elements.length).map Text.ofNat =
      (List.range before.length).map Text.ofNat ++ Text.ofNat before.length ::
        (List.range after.length).map fun i => Text.ofNat (before.length + (i + 1)) := by
    rw [hsplit, List.length_append, List.length_cons, List.range_add, List.range_succ_eq_map]
    simp
  rw [ending_records hlist, hids]
  refine mapM_of_first (fun id hid => ?_) ?_ _
  · obtain ⟨i, hi, rfl⟩ := List.mem_map.mp hid
    have hi : i < before.length := List.mem_range.mp hi
    obtain ⟨v, hv⟩ := hbefore before[i] (List.getElem_mem hi)
    have hb : elements[i]? = some before[i] := by
      rw [hsplit, List.getElem?_append_left hi, List.getElem?_eq_getElem hi]
    refine ⟨v, (ending_at hlist origin origin' hb).trans ?_⟩
    rw [hv]
    rfl
  · have hat : elements[before.length]? = some d := by simp [hsplit]
    refine (ending_at hlist origin origin' hat).trans ?_
    rw [hd]
    rfl

theorem collecting_records (hlist : w.Lists key.text elements) (origin origin' : Text)
    {ys : List (Collected α)}
    (h : List.Forall₂ (fun d y =>
      (item.run collecting (.ofWeb origin' (w.rooted d)) .root).outcome = .ok y) elements ys) :
    ((records key item).run collecting (.ofWeb origin w) .root).outcome =
      .ok ((ys.mapIdx fun i y =>
        y.under (Text.under key.text (Text.ofNat i))).foldl Collected.snoc (.value [])) := by
  rw [run_records hlist, Strategy.sequence]
  refine gather_of_forall₂ (forall₂_indices h fun i d y hd hy => ?_) (.value [])
  rw [hlist.run_element origin origin' key.separator_notMem item hd, Run.outcome_map, hy]
  rfl

/-- Validating runs of elements come from collecting ones. -/
theorem collecting_of_validating {sources : Web.Item → Source} {ds : List Web.Item}
    {rs : List (Validated α)} (h : List.Forall₂ (fun d r =>
      (item.run validating (sources d) .root).outcome = .ok r) ds rs) :
    ∃ ys : List (Collected α), ys.map Collected.toValidated = rs ∧ List.Forall₂ (fun d y =>
      (item.run collecting (sources d) .root).outcome = .ok y) ds ys := by
  induction h with
  | nil => exact ⟨[], rfl, .nil⟩
  | cons hr _ ih =>
      obtain ⟨y, hy, rfl⟩ := validating_eq_ok.mp hr
      obtain ⟨ys, rfl, hys⟩ := ih
      exact ⟨y :: ys, rfl, .cons hy hys⟩

theorem validating_records_of_valid (hlist : w.Lists key.text elements) (origin origin' : Text)
    {vs : List α}
    (h : List.Forall₂ (fun d v =>
      (item.run validating (.ofWeb origin' (w.rooted d)) .root).outcome = .ok (.valid v))
      elements vs) :
    ((records key item).run validating (.ofWeb origin w) .root).outcome = .ok (.valid vs) := by
  have hvalues : List.Forall₂ (fun d y =>
      (item.run collecting (.ofWeb origin' (w.rooted d)) .root).outcome = .ok y) elements
      (vs.map Collected.value) :=
    List.forall₂_map_right_iff.mpr (h.imp fun _ _ => collecting_of_valid)
  have hrun := collecting_records hlist origin origin' hvalues
  -- a value is the same in every scope
  have hmoved : ((vs.map Collected.value).mapIdx fun i y =>
      y.under (Text.under key.text (Text.ofNat i))) = vs.map Collected.value :=
    List.ext_getElem (by simp) (by simp [Collected.under])
  rw [hmoved, foldl_snoc_values, List.nil_append] at hrun
  exact validating_eq_ok.mpr ⟨_, hrun, rfl⟩

theorem validating_records_of_invalid (hlist : w.Lists key.text elements) (origin origin' : Text)
    {rs : List (Validated α)}
    (h : List.Forall₂ (fun d r =>
      (item.run validating (.ofWeb origin' (w.rooted d)) .root).outcome = .ok r) elements rs)
    (hinvalid : ∃ r ∈ rs, r.isValid = false) :
    ((records key item).run validating (.ofWeb origin w) .root).outcome =
      .ok (.invalid (rs.mapIdx fun i r =>
        r.issues.map (Issue.under (Text.under key.text (Text.ofNat i)))).reverse.flatten) := by
  obtain ⟨ys, rfl, hys⟩ := collecting_of_validating h
  refine validating_eq_ok.mpr ⟨_, collecting_records hlist origin origin' hys, ?_⟩
  have hfailures : ((ys.mapIdx fun i y =>
      y.under (Text.under key.text (Text.ofNat i))).foldl Collected.snoc (.value [])).failures =
      (ys.mapIdx fun i y =>
        y.failures.map (ReadFailure.under (Text.under key.text (Text.ofNat i)))).flatten := by
    rw [failures_foldl_snoc, List.flatMap_def]
    refine congrArg List.flatten (List.ext_getElem (by simp) (by simp))
  have hissues : (((ys.map Collected.toValidated).mapIdx fun i r =>
      r.issues.map (Issue.under (Text.under key.text (Text.ofNat i))))) =
      (ys.mapIdx fun i y =>
        (reported y.failures).map (Issue.under (Text.under key.text (Text.ofNat i)))) :=
    List.ext_getElem (by simp) (by simp [Collected.issues_toValidated])
  rw [hissues, ← reported_elements key.separator_notMem, ← hfailures]
  refine Collected.toValidated_of_failures ?_
  -- the issues of an invalid element are among them
  rw [hfailures]
  intro hnone
  obtain ⟨r, hr, hfailed⟩ := hinvalid
  obtain ⟨i, hi, rfl⟩ := List.getElem_of_mem hr
  have hi' : i < ys.length := by simpa using hi
  have hblock := List.flatten_eq_nil_iff.mp hnone _ (List.mem_mapIdx.mpr ⟨i, hi', rfl⟩)
  rw [List.getElem_map] at hfailed
  cases hy : ys[i] with
  | value a =>
      rw [hy] at hfailed
      cases hfailed
  | failed first rest =>
      rw [hy] at hblock
      cases hblock

/-- A list of records over a document is read element by element.  The eager run gives the
values that the elements give.  If an element is the first one that does not, with a failed
read, the run ends with this failed read, and its path is the key, the index and the path in
the element.  The validating run gives the values of valid elements, and otherwise the issues
of all elements, those of the last one first, with paths of the same form. -/
theorem records_elementwise (hlist : w.Lists key.text elements) (hp : item.Supported)
    (hf : item.FunctionsReturn) (origin origin' : Text) :
    (∀ vs, List.Forall₂ (fun d v =>
        (item.run eager (.ofWeb origin' (w.rooted d)) .root).outcome = .ok v) elements vs →
      ((records key item).run eager (.ofWeb origin w) .root).outcome = .ok vs) ∧
    (∀ before d after f, elements = before ++ d :: after →
      (∀ b ∈ before, ∃ v, (item.run eager (.ofWeb origin' (w.rooted b)) .root).outcome = .ok v) →
      (item.run eager (.ofWeb origin' (w.rooted d)) .root).outcome = .error (Failure.read f) →
      ((records key item).run eager (.ofWeb origin w) .root).outcome =
        .error (Failure.read (f.under (Text.under key.text (Text.ofNat before.length))))) ∧
    (∀ vs, List.Forall₂ (fun d v =>
        (item.run validating (.ofWeb origin' (w.rooted d)) .root).outcome = .ok (.valid v))
        elements vs →
      ((records key item).run validating (.ofWeb origin w) .root).outcome = .ok (.valid vs)) ∧
    (∀ rs, List.Forall₂ (fun d r =>
        (item.run validating (.ofWeb origin' (w.rooted d)) .root).outcome = .ok r) elements rs →
      (∃ r ∈ rs, r.isValid = false) →
      ((records key item).run validating (.ofWeb origin w) .root).outcome =
        .ok (.invalid (rs.mapIdx fun i r =>
          r.issues.map (Issue.under (Text.under key.text (Text.ofNat i)))).reverse.flatten)) := by
  refine ⟨fun vs hvs => ?_, fun before d after f hsplit hbefore hd => ?_, fun vs hvs => ?_,
    fun rs hrs hinvalid => ?_⟩
  · exact eager_eq_ok.mpr
      (ending_records_of_values hlist origin origin' (hvs.imp fun _ _ => eager_eq_ok.mp))
  · have hend := ending_records_of_first hlist origin origin' hsplit
      (fun b hb => (hbefore b hb).imp fun _ => eager_eq_ok.mp)
      (ending_of_read (.web _ _) hp hf hd)
    rw [(run_cut _ (records key item) .root).outcome, hend]
    rfl
  · exact validating_records_of_valid hlist origin origin' hvs
  · exact validating_records_of_invalid hlist origin origin' hrs hinvalid

/-- The first of three servers has a port, the second one has one that is no number, and the
last one has none. -/
theorem records_elementwise_servers :
    let servers : Key := ⟨"servers", by decide⟩
    let port : Key := ⟨"port", by decide⟩
    let item := scalar .integer port
    let ds : List (List (Value × Value)) :=
      [[(.text "port", .int 80)], [(.text "port", .text "x")], []]
    let w := Web.ofValue (.map [(.text "servers", .list (ds.map .map))])
    (w.Lists servers.text (ds.map fun d => .leaf (.map d)) ∧ item.Supported ∧
      item.FunctionsReturn) ∧
      ((records servers item).run eager (.ofWeb "<document>" w) .root).outcome =
        .error (Failure.read (.malformed "servers.1.port" "Integer" (.text "x"))) ∧
      ((records servers item).run validating (.ofWeb "<document>" w) .root).outcome =
        .ok (.invalid [⟨"servers.2.port", .missingKey, keyNotFound "servers.2.port"⟩,
          ⟨"servers.1.port", .malformedValue, keyNotFound "servers.1.port"⟩]) := by
  intro servers port item ds w
  have hshort : ∀ i < ds.length, (Text.ofNat i).length ≤ digitLimit := by decide
  have hlist : w.Lists servers.text (ds.map fun d => .leaf (.map d)) :=
    Web.lists_ofValue rfl hshort
  obtain ⟨-, hfirst, -, hinvalid⟩ :=
    @records_elementwise _ w _ servers item hlist trivial trivial "<document>" "<document>"
  refine ⟨⟨hlist, trivial, trivial⟩, ?_, ?_⟩
  · refine hfirst [_] _ [_] (.malformed "port" "Integer" (.text "x")) rfl (fun b hb => ?_) rfl
    rw [List.mem_singleton.mp hb]
    exact ⟨80, rfl⟩
  · have h := hinvalid [.valid 80, .invalid [⟨"port", .malformedValue, keyNotFound "port"⟩],
      .invalid [⟨"port", .missingKey, keyNotFound "port"⟩]] (.cons rfl (.cons rfl (.cons rfl .nil)))
      ⟨_, List.mem_cons_of_mem _ List.mem_cons_self, rfl⟩
    refine h.trans (congrArg Except.ok (congrArg Validated.invalid ?_))
    decide

end Program

end ConfigReader
