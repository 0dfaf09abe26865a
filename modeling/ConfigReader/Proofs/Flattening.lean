import ConfigReader.Proofs.Replies
import ConfigReader.Proofs.Trees

/-!
# Documents as tables

The scalars of a document, read as texts, make up a table (`Source.flattened`).  For a
plain document a program reads the same from the table as from the document, if no key of
the program is a number: `Program.eager_flattened`.  A document answers a lookup by going
down a tree, and a table by comparing texts.  Both are compared with where the segments of
the path lead (`Value.Leads`).

The converse does not hold.  A table reads every scalar as any kind, so it also answers
where the document says that the value does not fit.
-/

namespace ConfigReader

/-! ## Tables of sources -/

/-- A path with what a source answers there when it is asked for a text. -/
def Source.entry (source : Source) (path : Text) : Except Raised (Text × Value) :=
  (source.scalar path .string).outcome.map fun found => (path, found.elim Value.null Value.text)

/-- The table of the scalars of a source, each read as a text. -/
def Source.flattened (origin : Text) (source : Source) : Except Raised Source :=
  (source.keys.mapError Failure.raised).bind fun keys =>
    (keys.mapM source.entry).bind fun entries =>
      (Source.ofMapping origin (Entries.mapping entries)).mapError Failure.raised

namespace Program

/-- All keys of a program have a property. -/
def EveryKey (P : Key → Prop) : {α : Type} → Program α → Prop
  | _, pure _ => True
  | _, scalar _ key => P key
  | _, scalars key _ => P key
  | _, records key item => P key ∧ item.EveryKey P
  | _, nested key inner => P key ∧ inner.EveryKey P
  | _, map program _ => program.EveryKey P
  | _, ap fnProgram program => fnProgram.EveryKey P ∧ program.EveryKey P
  | _, unsupported _ => True

end Program

/-! ## Paths whose indices are written as numbers are -/

/-- Segments of digits are written as numbers are, without leading zeros. -/
def Text.IsCanonical (path : Text) : Prop :=
  ∀ segment ∈ path.splitOn separator, segment.isDigits = true → ∃ n, segment = Text.ofNat n

/-- Paths in a scope are canonical if they are without the scope. -/
def KeyPath.IsCanonical (path : KeyPath) : Prop :=
  ∀ leaf : Text, leaf.IsCanonical → (path.resolve leaf).IsCanonical

theorem Text.isCanonical_ofNat (n : Nat) : (Text.ofNat n).IsCanonical := by
  intro segment hsegment _
  rw [splitOn_of_not_mem (separator_notMem_ofNat n)] at hsegment
  exact ⟨n, List.mem_singleton.mp hsegment⟩

theorem Key.isCanonical {key : Key} (h : key.text.isDigits = false) : key.text.IsCanonical := by
  intro segment hsegment hdigits
  rw [Text.splitOn_of_not_mem key.separator_notMem] at hsegment
  rw [List.mem_singleton.mp hsegment, h] at hdigits
  cases hdigits

theorem KeyPath.isCanonical_root : root.IsCanonical := fun _ h => h

theorem KeyPath.IsCanonical.child {path : KeyPath} (h : path.IsCanonical) {fragment : Text}
    (hfragment : fragment.IsCanonical) : (path.child fragment).IsCanonical := by
  intro leaf hleaf segment hsegment
  rw [resolve, Text.splitOn_append_separator] at hsegment
  obtain hsegment | hsegment := List.mem_append.mp hsegment
  · exact h fragment hfragment segment hsegment
  · exact hleaf segment hsegment

/-- The lookups of a program have canonical paths if no key is a number and element ids are
written as numbers are. -/
theorem Program.isCanonical_reads {source : Source}
    (helements : ∀ list kind, ∀ id ∈ source.elementIds list kind, id.IsCanonical)
    (hrecords : ∀ list, ∀ id ∈ source.recordIds list, id.IsCanonical) {α : Type} {p : Program α}
    (hkeys : p.EveryKey fun key => key.text.isDigits = false) {path : KeyPath}
    (hpath : path.IsCanonical) : ∀ q ∈ p.reads source path, q.path.IsCanonical := by
  induction p generalizing path with
  | pure value => exact fun q hq => nomatch hq
  | scalar kind key =>
      intro q hq
      rw [List.mem_singleton.mp hq]
      exact hpath _ (Key.isCanonical hkeys)
  | scalars key kind =>
      have hkey : key.text.IsCanonical := Key.isCanonical hkeys
      intro q hq
      obtain rfl | hq := List.mem_cons.mp hq
      · exact hpath _ hkey
      · obtain ⟨id, hid, rfl⟩ := List.mem_map.mp hq
        exact hpath.child hkey _ (helements _ _ id hid)
  | records key item ih =>
      have hkey : key.text.IsCanonical := Key.isCanonical hkeys.1
      intro q hq
      obtain rfl | hq := List.mem_cons.mp hq
      · exact hpath _ hkey
      · obtain ⟨id, hid, hq⟩ := List.mem_flatMap.mp hq
        exact ih hkeys.2 ((hpath.child hkey).child (hrecords _ id hid)) q hq
  | nested key inner ih => exact ih hkeys.2 (hpath.child (Key.isCanonical hkeys.1))
  | map program fn ih => exact ih hkeys hpath
  | ap fnProgram program ihf iha =>
      intro q hq
      obtain hq | hq := List.mem_append.mp hq
      · exact ihf hkeys.1 hpath q hq
      · exact iha hkeys.2 hpath q hq
  | unsupported typeName => exact fun q hq => nomatch hq

/-! ## Answers of documents -/

theorem replyAt_eq_ok {α : Type} {path : Text} {r : Except Failure (Option α)} {a : α} :
    replyAt path r = .ok a ↔ r = .ok (some a) := by
  match r with
  | .ok (some b) => simp [replyAt]
  | .ok none => simp [replyAt]
  | .error f => cases f with
    | read cause => cases cause <;> simp [replyAt]
    | _ => simp [replyAt]

theorem Run.ofExcept_eq_ok {α : Type} {x : Except Failure α} {a : α} :
    (Run.ofExcept x).outcome = .ok a ↔ x = .ok a := by
  cases x <;> simp [Run.ofExcept, Run.raise]

namespace Document

theorem answer_eq_ok {document : Value} {q : Lookup} {a : q.Answer} :
    answer document q = .ok (some a) ↔
      ∃ v, lookup? document q.path = .ok (some v) ∧ answerBy v q = .ok a := by
  unfold answer
  cases lookup? document q.path with
  | error f => simp [Bind.bind, Except.bind]
  | ok found => cases found with
    | none => simp [Bind.bind, Except.bind, Pure.pure, Except.pure]
    | some v =>
        cases ha : answerBy v q <;> simp [Bind.bind, Except.bind, Pure.pure, Except.pure, ha]

/-- Nothing is answered where nothing is. -/
theorem lookup?_of_no_answer {document : Value} {q : Lookup} (h : answer document q = .ok none) :
    lookup? document q.path = .ok none := by
  obtain ⟨found, hfound, h⟩ := Except.bind_eq_ok.mp h
  cases found with
  | none => exact hfound
  | some v =>
      obtain ⟨a, _, h⟩ := Except.bind_eq_ok.mp h
      cases h

/-- Only lists have elements, and their ids are the indices. -/
theorem elementIds_eq_ok {path expected : Text} {v : Value} {ids : List Text}
    (h : elementIds path expected v = .ok ids) :
    ∃ items, v = .list items ∧ ids = (List.range items.length).map Text.ofNat := by
  unfold elementIds at h
  split at h
  · next items =>
      cases h
      exact ⟨items, rfl, rfl⟩
  · unfold Failure.malformed at h
    split at h <;> cases h

theorem isCanonical_of_elementIds {path expected id : Text} {v : Value} {ids : List Text}
    (h : elementIds path expected v = .ok ids) (hid : id ∈ ids) : id.IsCanonical := by
  obtain ⟨items, -, rfl⟩ := elementIds_eq_ok h
  obtain ⟨i, -, rfl⟩ := List.mem_map.mp hid
  exact Text.isCanonical_ofNat i

/-- What can be read as a scalar is one. -/
theorem isScalar_of_toScalar {path : Text} {v : Value} {kind : Kind} {a : kind.Carrier}
    (hv : v.Plain) (h : toScalar path v kind = .ok a) : v.isScalar = true := by
  cases hv with
  | text t => rfl
  | bool b => rfl
  | int n h => rfl
  | list items hitems hfull => cases kind <;> cases h
  | map entries hkeys hmembers hfull => cases kind <;> cases h

theorem toText_int {path : Text} {n : Int} (h : hasDecimalText n = true) :
    toText path (.int n) = .ok (Text.ofInt n) := by
  simp only [toText, Value.plain?, Value.quoted?, h, if_true]

/-- A scalar of a plain document has a text. -/
theorem exists_toText {v : Value} (hv : v.Plain) (hscalar : v.isScalar = true) (path : Text) :
    ∃ t, toText path v = .ok t := by
  cases hv with
  | text t => exact ⟨t, rfl⟩
  | bool b => exact ⟨_, rfl⟩
  | int n h => exact ⟨_, toText_int h⟩
  | list items hitems hfull => cases hscalar
  | map entries hkeys hmembers hfull => cases hscalar

/-- What is read from the text of a scalar is what is read from the scalar. -/
theorem parseScalar_toText {path : Text} {v : Value} (hv : v.Plain) {t : Text}
    (ht : toText path v = .ok t) {kind : Kind} {a : kind.Carrier}
    (ha : toScalar path v kind = .ok a) : parseScalar t path kind = .ok a := by
  cases kind with
  | string => exact ht.symm.trans ha
  | integer => cases hv with
    | text s =>
        cases ht
        exact ha
    | int n h =>
        rw [toText_int h] at ht
        cases ht
        cases ha
        exact parseInteger_ofInt h path
    | _ => cases ha
  | boolean => cases hv with
    | text s =>
        cases ht
        exact ha
    | bool b =>
        cases ht
        obtain rfl : b = a := Except.ok.inj ha
        cases b <;> rfl
    | _ => cases ha

end Document

/-! ## Tables of documents -/

open Value (Leads Plain)

/-- The table has the paths of the scalars of a document, with their texts. -/
structure Entries.Flattens (table : Entries) (document : Value) : Prop where
  /-- The paths lead to scalars, and there is a path for each of them. -/
  mem_paths : ∀ key, key ∈ table.map Prod.fst ↔
    ∃ leaf, Leads document (key.splitOn separator) leaf ∧ leaf.isScalar = true
  /-- The texts are those of the document. -/
  answer : ∀ key text, table.get? key = some text →
    Document.answer document (.scalar .string key) = .ok (some text)

namespace Entries.Flattens

variable {table : Entries} {document : Value}

/-- A path of the table is looked up in the document. -/
theorem lookup? (h : table.Flattens document) {key : Text} (hkey : key ∈ table.map Prod.fst) :
    ∃ v text, Document.lookup? document key = .ok (some v) ∧ table.get? key = some text ∧
      Document.toText key v = .ok text := by
  obtain ⟨text, htext⟩ := Option.isSome_iff_exists.mp (isSome_get?.mpr hkey)
  obtain ⟨v, hv, hanswer⟩ := Document.answer_eq_ok.mp (h.answer key text htext)
  exact ⟨v, text, hv, htext, hanswer⟩

/-- Where the segments of a path of the table lead, its text is read. -/
theorem text_of_leads (h : table.Flattens document) (hdocument : document.Plain) {key : Text}
    {leaf : Value} (hleads : Leads document (key.splitOn separator) leaf)
    (hleaf : leaf.isScalar = true) :
    ∃ text, table.get? key = some text ∧ Document.toText key leaf = .ok text := by
  obtain ⟨v, text, hv, htext, hread⟩ := h.lookup? ((h.mem_paths key).mpr ⟨leaf, hleads, hleaf⟩)
  obtain rfl := Option.some.inj
    (Document.found_of_leads hleads hdocument.keyed.distinct (hleads.plain hdocument).isNull_eq hv)
  exact ⟨text, htext, hread⟩

/-- A scalar that the document answers with is read from the table. -/
theorem scalar (h : table.Flattens document) (hdocument : document.Plain) {kind : Kind}
    {path : Text} (hpath : path.IsCanonical) {a : kind.Carrier}
    (ha : Document.answer document (.scalar kind path) = .ok (some a)) :
    table.answer (.scalar kind path) = .ok (some a) := by
  obtain ⟨v, hv, hread⟩ := Document.answer_eq_ok.mp ha
  have hleads : Leads document (path.splitOn separator) v := Document.leads_of_descend? hv hpath
  have hplain := hleads.plain hdocument
  obtain ⟨text, htext, hwritten⟩ :=
    h.text_of_leads hdocument hleads (Document.isScalar_of_toScalar hplain hread)
  simp only [Entries.answer, htext, Document.parseScalar_toText hplain hwritten hread]
  rfl

/-- An item of a list has a path in the table. -/
theorem exists_item_path (h : table.Flattens document) (hdocument : document.Plain) {path : Text}
    {items : List Value} (hleads : Leads document (path.splitOn separator) (.list items)) {i : Nat}
    (hi : i < items.length) :
    ∃ key ∈ table.map Prod.fst, segmentAfter? path key = some (Text.ofNat i) ∧
      ∃ rest, key.splitOn separator = path.splitOn separator ++ Text.ofNat i :: rest := by
  have hitem : items[i]? = some items[i] := List.getElem?_eq_getElem hi
  have hdown : Leads document (path.splitOn separator ++ [Text.ofNat i]) items[i] :=
    hleads.append (.item rfl hitem (.here _))
  have hfull : items[i].isHollow = false := hdown.full hdocument (by simp)
  obtain ⟨rest, leaf, hrest, hleaf⟩ := (hdown.plain hdocument).exists_leaf hfull
  have hinner : Leads (.list items) (Text.ofNat i :: rest) leaf := .item rfl hitem hrest
  let below := Text.join [separator] (Text.ofNat i :: rest)
  have hbelow : below.splitOn separator = Text.ofNat i :: rest :=
    Text.splitOn_join (List.cons_ne_nil _ _)
      fun s hs => (hinner.segment (hleads.plain hdocument).keyed s hs).2
  have hsplit : (path ++ separator :: below).splitOn separator =
      path.splitOn separator ++ Text.ofNat i :: rest := by
    rw [Text.splitOn_append_separator, hbelow]
  refine ⟨path ++ separator :: below, (h.mem_paths _).mpr ⟨leaf, ?_, hleaf⟩,
    segmentAfter?_of_splitOn hbelow, rest, hsplit⟩
  rw [hsplit]
  exact hleads.append hinner

/-- The elements that the document answers with are found in the table. -/
theorem elementIds (h : table.Flattens document) (hdocument : document.Plain) {path : Text}
    (hpath : path.IsCanonical) {v : Value}
    (hv : Document.lookup? document path = .ok (some v)) {expected : Text} {ids : List Text}
    (hids : Document.elementIds path expected v = .ok ids) :
    answer.present (table.elementIds path) = .ok (some ids) := by
  obtain ⟨items, rfl, rfl⟩ := Document.elementIds_eq_ok hids
  have hleads : Leads document (path.splitOn separator) (.list items) :=
    Document.leads_of_descend? hv hpath
  have hmem : ∀ id, id.isDigits = true →
      ((∃ key ∈ table.map Prod.fst, segmentAfter? path key = some id) ↔
        id ∈ (List.range items.length).map Text.ofNat) := by
    intro id _
    constructor
    · rintro ⟨key, hkey, hsegment⟩
      obtain ⟨rest, hsplit⟩ := segmentAfter?_eq_some hsegment
      obtain ⟨leaf, hleaf, -⟩ := (h.mem_paths key).mp hkey
      rw [hsplit] at hleaf
      obtain ⟨u, hu, hinner⟩ := hleaf.split
      -- the key goes through the list itself, so its next segment is an index
      obtain rfl := hleads.unique hdocument.keyed.distinct hu
      cases hinner with
      | item hindex hitem _ =>
          rw [hindex]
          exact List.mem_map_of_mem (List.mem_range.mpr (List.getElem?_eq_some_iff.mp hitem).1)
    · intro hid
      obtain ⟨i, hi, rfl⟩ := List.mem_map.mp hid
      obtain ⟨key, hkey, hsegment, -⟩ :=
        h.exists_item_path hdocument hleads (List.mem_range.mp hi)
      exact ⟨key, hkey, hsegment⟩
  have hshort : ∀ i ∈ List.range items.length, (Text.ofNat i).length ≤ digitLimit := by
    intro i hi
    obtain ⟨key, hkey, -, rest, hsplit⟩ :=
      h.exists_item_path hdocument hleads (List.mem_range.mp hi)
    obtain ⟨u, text, hu, -, -⟩ := h.lookup? hkey
    rw [Document.lookup?, hsplit] at hu
    exact Document.length_le_of_descend?
      (Document.descend?_append hleads hdocument.keyed.distinct hu)
  have hne : items ≠ [] := by
    rintro rfl
    cases hleads.full hdocument (Text.splitOn_ne_nil _ _)
  rw [Entries.elementIds_eq List.pairwise_lt_range hmem hshort]
  cases items with
  | nil => exact absurd rfl hne
  | cons first rest =>
      rw [List.length_cons, List.range_succ_eq_map]
      rfl

/-- An answer of the document is the answer of the table. -/
theorem answer_eq_ok (h : table.Flattens document) (hdocument : document.Plain) {q : Lookup}
    (hq : q.path.IsCanonical) {a : q.Answer} (ha : Document.answer document q = .ok (some a)) :
    table.answer q = .ok (some a) := by
  cases q with
  | scalar kind path => exact h.scalar hdocument hq ha
  | elements list kind =>
      obtain ⟨v, hv, hids⟩ := Document.answer_eq_ok.mp ha
      exact h.elementIds hdocument hq hv hids
  | records list =>
      obtain ⟨v, hv, hids⟩ := Document.answer_eq_ok.mp ha
      exact h.elementIds hdocument hq hv hids

end Entries.Flattens

/-! ## Reading from the table -/

theorem mapM_returns {ε α β : Type} {f : α → Except ε β} :
    ∀ {xs : List α}, (∀ x ∈ xs, ∃ y, f x = .ok y) → ∃ ys, xs.mapM f = .ok ys
  | [], _ => ⟨[], rfl⟩
  | x :: rest, h => by
      obtain ⟨y, hy⟩ := h x List.mem_cons_self
      obtain ⟨ys, hys⟩ := mapM_returns fun z hz => h z (List.mem_cons_of_mem x hz)
      rw [List.mapM_cons, hy, hys]
      exact ⟨y :: ys, rfl⟩

/-- The texts that a source answers with, if it answers with one for every key. -/
theorem Source.pairs_of_mapM {source : Source} {keys : List Text} {entries : List (Text × Value)}
    (h : keys.mapM source.entry = .ok entries)
    (hkeys : ∀ key ∈ keys, (source.scalar key .string).outcome ≠ .ok none) :
    ∃ pairs, Entries.written entries = .ok pairs ∧ pairs.map Prod.fst = keys ∧
      ∀ pair ∈ pairs, (source.scalar pair.1 .string).outcome = .ok (some pair.2) := by
  induction keys generalizing entries with
  | nil =>
      cases h
      exact ⟨[], rfl, rfl, fun pair hpair => nomatch hpair⟩
  | cons key rest ih =>
      rw [List.mapM_cons] at h
      obtain ⟨entry, hentry, h⟩ := Except.bind_eq_ok.mp h
      obtain ⟨more, hmore, h⟩ := Except.bind_eq_ok.mp h
      cases h
      obtain ⟨pairs, hwritten, hpairs, hanswers⟩ :=
        ih hmore fun k hk => hkeys k (List.mem_cons_of_mem key hk)
      rw [Source.entry] at hentry
      cases hfound : (source.scalar key .string).outcome with
      | error e =>
          rw [hfound] at hentry
          cases hentry
      | ok found => cases found with
        | none => exact absurd hfound (hkeys key List.mem_cons_self)
        | some text =>
            rw [hfound] at hentry
            cases hentry
            have hhead : Entries.written ((key, .text text) :: more) =
                .ok ((key, text) :: pairs) := by
              rw [Entries.written_cons, hwritten]
              rfl
            refine ⟨(key, text) :: pairs, hhead, congrArg (key :: ·) hpairs, ?_⟩
            · intro pair hpair
              obtain rfl | hpair := List.mem_cons.mp hpair
              · exact hfound
              · exact hanswers pair hpair

theorem Source.flattened_of_keys {source : Source} {keys : List Text} (h : source.keys = .ok keys)
    (origin : Text) :
    source.flattened origin = (keys.mapM source.entry).bind fun entries =>
      (ofMapping origin (Entries.mapping entries)).mapError Failure.raised := by
  rw [flattened, h]
  rfl

section Documents

variable {entries : List (Value × Value)} (hdocument : (Value.map entries).Plain)
  (origin origin' : Text)
include hdocument

/-- A document is asked for a text at a path that leads to a scalar. -/
theorem Document.scalar_ne_none {key : Text} {leaf : Value}
    (hleads : Leads (.map entries) (key.splitOn separator) leaf) :
    ((Source.ofDocument origin entries).scalar key .string).outcome ≠ .ok none := by
  intro h
  have hnone : lookup? (.map entries) key = .ok none :=
    lookup?_of_no_answer (Run.ofExcept_eq_ok.mp h)
  cases found_of_leads hleads hdocument.keyed.distinct (hleads.plain hdocument).isNull_eq hnone

theorem Source.keys_ofDocument :
    ∃ keys, (ofDocument origin entries).keys = .ok keys ∧ ∀ key, key ∈ keys ↔
      ∃ leaf, Leads (.map entries) (key.splitOn separator) leaf ∧ leaf.isScalar = true := by
  obtain ⟨keys, hkeys, hmem⟩ := keys_of_keyed hdocument.keyed origin
  refine ⟨keys, hkeys, fun key => (hmem key).trans (exists_congr fun leaf => ?_)⟩
  exact and_congr_right fun hleads => by rw [(hleads.plain hdocument).isLeaf_eq]

/-- The table of a plain document is made of its paths and their texts. -/
theorem Entries.flattens_of_flattened {flat : Source}
    (h : (Source.ofDocument origin entries).flattened origin' = .ok flat) :
    ∃ table, flat = .flat origin' table ∧ Flattens table (.map entries) := by
  obtain ⟨keys, hkeys, hmem⟩ := Source.keys_ofDocument hdocument origin
  rw [Source.flattened_of_keys hkeys] at h
  obtain ⟨values, hvalues, h⟩ := Except.bind_eq_ok.mp h
  have hsome : ∀ key ∈ keys,
      ((Source.ofDocument origin entries).scalar key .string).outcome ≠ .ok none := by
    intro key hkey
    obtain ⟨leaf, hleads, -⟩ := (hmem key).mp hkey
    exact Document.scalar_ne_none hdocument origin hleads
  obtain ⟨pairs, hwritten, hpairs, hanswers⟩ := Source.pairs_of_mapM hvalues hsome
  rw [mapError_eq_ok, ofMapping_mapping, hwritten] at h
  cases h
  refine ⟨ofPairs pairs, rfl, fun key => ?_, fun key text hget => ?_⟩
  · rw [mem_paths_ofPairs, hpairs, hmem]
  · have hpair : (key, text) ∈ pairs :=
      mem_of_mem_ofPairs ((get?_eq_some (ascending_ofPairs pairs)).mp hget)
    exact Run.ofExcept_eq_ok.mp (hanswers _ hpair)

/-- A plain document has a table, if the indices of its lists are not too long. -/
theorem Source.exists_flattened (hindexable : (Value.map entries).Indexable) :
    ∃ flat, (ofDocument origin entries).flattened origin' = .ok flat := by
  obtain ⟨keys, hkeys, hmem⟩ := keys_ofDocument hdocument origin
  have hanswers : ∀ key ∈ keys, ∃ text,
      ((ofDocument origin entries).scalar key .string).outcome = .ok (some text) := by
    intro key hkey
    obtain ⟨leaf, hleads, hleaf⟩ := (hmem key).mp hkey
    obtain ⟨text, htext⟩ := Document.exists_toText (hleads.plain hdocument) hleaf key
    have hfound := Document.descend?_of_leads hleads hdocument.keyed.distinct
      (hleads.plain hdocument).isNull_eq hindexable
    exact ⟨text, Run.ofExcept_eq_ok.mpr (Document.answer_eq_ok.mpr ⟨leaf, hfound, htext⟩)⟩
  have hentries : ∀ key ∈ keys, ∃ value, (ofDocument origin entries).entry key = .ok value := by
    intro key hkey
    obtain ⟨text, htext⟩ := hanswers key hkey
    rw [entry, htext]
    exact ⟨_, rfl⟩
  obtain ⟨values, hvalues⟩ := mapM_returns hentries
  have hsome : ∀ key ∈ keys, ((ofDocument origin entries).scalar key .string).outcome ≠
      .ok none := by
    intro key hkey
    obtain ⟨text, htext⟩ := hanswers key hkey
    rw [htext]
    simp
  obtain ⟨pairs, hwritten, -, -⟩ := pairs_of_mapM hvalues hsome
  rw [flattened_of_keys hkeys]
  refine ⟨flat origin' (Entries.ofPairs pairs), Except.bind_eq_ok.mpr ⟨values, hvalues, ?_⟩⟩
  rw [Entries.ofMapping_mapping, hwritten]
  rfl

/-- A lookup that the document answers with a value has this value in the table. -/
theorem Source.reply_flat_of_document {table : Entries}
    (h : Entries.Flattens table (.map entries)) {q : Lookup} (hq : q.path.IsCanonical)
    {a : q.Answer} (ha : (ofDocument origin entries).reply q = .ok a) :
    (flat origin' table).reply q = .ok a := by
  rw [reply_ofDocument, replyAt_eq_ok] at ha
  rw [reply_flat, replyAt_eq_ok]
  exact h.answer_eq_ok hdocument hq ha

end Documents

section Ids

variable (origin : Text) (entries : List (Value × Value)) {list id : Text}

theorem Source.isCanonical_elementIds {kind : Kind}
    (hid : id ∈ (ofDocument origin entries).elementIds list kind) : id.IsCanonical := by
  cases hr : (ofDocument origin entries).reply (.elements list kind) with
  | error halt =>
      rw [elementIds_of_error hr] at hid
      cases hid
  | ok ids =>
      rw [elementIds_of_ok hr] at hid
      rw [reply_ofDocument, replyAt_eq_ok] at hr
      obtain ⟨v, -, hids⟩ := Document.answer_eq_ok.mp hr
      exact Document.isCanonical_of_elementIds hids hid

theorem Source.isCanonical_recordIds (hid : id ∈ (ofDocument origin entries).recordIds list) :
    id.IsCanonical := by
  cases hr : (ofDocument origin entries).reply (.records list) with
  | error halt =>
      rw [recordIds_of_error hr] at hid
      cases hid
  | ok ids =>
      rw [recordIds_of_ok hr] at hid
      rw [reply_ofDocument, replyAt_eq_ok] at hr
      obtain ⟨v, -, hids⟩ := Document.answer_eq_ok.mp hr
      exact Document.isCanonical_of_elementIds hids hid

end Ids

namespace Program

/-- A plain document has a table, if the indices of its lists are not too long.  What an
eager run reads from the document it reads from the table, if no key of the program is a
number. -/
theorem eager_flattened {entries : List (Value × Value)} (hdocument : (Value.map entries).Plain)
    (origin origin' : Text) :
    ((Value.map entries).Indexable →
      ∃ flat, (Source.ofDocument origin entries).flattened origin' = .ok flat) ∧
    ∀ flat, (Source.ofDocument origin entries).flattened origin' = .ok flat →
      ∀ {α : Type} (p : Program α), (p.EveryKey fun key => key.text.isDigits = false) →
        ∀ v, (p.run eager (Source.ofDocument origin entries) .root).outcome = .ok v →
          (p.run eager flat .root).outcome = .ok v := by
  refine ⟨Source.exists_flattened hdocument origin origin', ?_⟩
  intro flat hflat α p hkeys v hv
  obtain ⟨table, rfl, htable⟩ := Entries.flattens_of_flattened hdocument origin origin' hflat
  -- The document takes a number with leading zeros for an index and the table does not, so
  -- it matters that no lookup of the program has one in its path.
  have hpaths := isCanonical_reads
    (fun list kind id hid => Source.isCanonical_elementIds origin entries hid)
    (fun list id hid => Source.isCanonical_recordIds origin entries hid) hkeys
    KeyPath.isCanonical_root
  exact eager_of_replies hv fun q hq a ha =>
    Source.reply_flat_of_document hdocument origin origin' htable (hpaths q hq) ha

/-- A list of numbers and a truth value are read back from their texts. -/
theorem eager_flattened_ports :
    let ports : Key := ⟨"ports", by decide⟩
    let tls : Key := ⟨"tls", by decide⟩
    let p : Program (List Int × Bool) := map2 (scalars ports .integer) (scalar .boolean tls)
      fun numbers secure => Run.pure (numbers, secure)
    let entries : List (Value × Value) :=
      [(.text "ports", .list [.int 80, .int 443]), (.text "tls", .bool true)]
    let source := Source.ofDocument "<document>" entries
    ((Value.map entries).Plain ∧ (Value.map entries).Indexable ∧
      p.EveryKey fun key => key.text.isDigits = false) ∧
      (p.run eager source .root).outcome = .ok ([80, 443], true) ∧
      ∃ flat, source.flattened "<mapping>" = .ok flat ∧
        (p.run eager flat .root).outcome = .ok ([80, 443], true) := by
  intro ports tls p entries source
  have hint : ∀ v ∈ [Value.int 80, .int 443], v.Plain ∧ v.isScalar = true := by
    simp only [List.mem_cons, List.not_mem_nil, or_false]
    rintro v (rfl | rfl)
    · exact ⟨.int _ (Text.hasDecimalText_iff.mpr (by decide)), rfl⟩
    · exact ⟨.int _ (Text.hasDecimalText_iff.mpr (by decide)), rfl⟩
  have hplain : (Value.map entries).Plain := by
    refine .map _ ⟨?_, ?_⟩ ?_ ?_
    · simp only [entries, List.mem_cons, List.not_mem_nil, or_false]
      rintro entry (rfl | rfl)
      · exact ⟨"ports", rfl, by decide, by decide⟩
      · exact ⟨"tls", rfl, by decide, by decide⟩
    · have hne : Value.text "ports" ≠ .text "tls" := fun h =>
        absurd (Value.text.inj h) (by decide)
      simpa [entries] using hne
    · simp only [entries, List.mem_cons, List.not_mem_nil, or_false]
      rintro entry (rfl | rfl)
      · exact .list _ (fun v hv => (hint v hv).1) fun v hv =>
          Value.isHollow_of_isScalar (hint v hv).2
      · exact .bool true
    · simp only [entries, List.mem_cons, List.not_mem_nil, or_false]
      rintro entry (rfl | rfl) <;> rfl
  have hindexable : (Value.map entries).Indexable := by
    refine Value.indexable_map ?_
    simp only [entries, List.mem_cons, List.not_mem_nil, or_false]
    rintro entry (rfl | rfl)
    · exact Value.indexable_list (by decide) fun v hv =>
        Value.indexable_of_isScalar (hint v hv).2
    · exact Value.indexable_of_isScalar rfl
  have hports : ports.text.isDigits = false := by decide
  have htls : tls.text.isDigits = false := by decide
  have hkeys : p.EveryKey fun key => key.text.isDigits = false := ⟨hports, htls⟩
  have hv : (p.run eager source .root).outcome = .ok ([80, 443], true) := rfl
  obtain ⟨hflat, hruns⟩ := eager_flattened hplain "<document>" "<mapping>"
  obtain ⟨flat, hflat⟩ := hflat hindexable
  exact ⟨⟨hplain, hindexable, hkeys⟩, hv, flat, hflat, hruns flat hflat p hkeys _ hv⟩

end Program

end ConfigReader
