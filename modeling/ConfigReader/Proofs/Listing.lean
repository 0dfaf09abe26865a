import ConfigReader.Proofs.Flattening

/-!
# Keys of documents

A document lists its keys by one walk, and looks a key up by another one.  The listing goes
through the whole tree and writes down the text of every key, whatever value the key is.
The lookup cuts a path at its separators and goes on by texts only.

In a document whose keys are segments of paths the two agree: the listing has a key for each
leaf and no key twice, and a path that leads a lookup to a leaf is listed as it is written
with plain indices (`Source.keys_exact`).  In any document a listed key can be read if the
keys on the way to its leaf are segments (`Source.listed_read`).  Otherwise nothing may be
at a key that is listed (`Source.integer_key_unread`).
-/

namespace ConfigReader

namespace Document

open Value (Leads DistinctKeys Step leaves behind)

/-! ## Each leaf once -/

/-- The steps to leaves are written differently. -/
def Distinguished (here : List (List Step × Value)) : Prop :=
  here.Pairwise fun a b => a.1.map stepText? ≠ b.1.map stepText?

/-- Leaves of members are told apart by the steps to the members and the steps behind. -/
theorem distinguished_flatMap {members : List (Step × Value)}
    (hsteps : members.Pairwise fun a b => stepText? a.1 ≠ stepText? b.1)
    (h : ∀ m ∈ members, Distinguished (leaves m.2)) :
    Distinguished (members.flatMap fun m => (leaves m.2).map (behind m.1)) := by
  refine List.pairwise_flatMap.mpr ⟨fun m hm => ?_, hsteps.imp fun hne a ha b hb => ?_⟩
  · exact List.pairwise_map.mpr ((h m hm).imp fun hne heq => hne (List.cons.inj heq).2)
  · rcases List.mem_map.mp ha with ⟨a, -, rfl⟩
    rcases List.mem_map.mp hb with ⟨b, -, rfl⟩
    exact fun heq => hne (List.cons.inj heq).1

theorem distinguished_leaves {v : Value} (h : v.Keyed) : Distinguished (leaves v) := by
  induction h with
  | @other v hv =>
      rcases Value.eq_null_or_isLeaf hv with rfl | hleaf
      · exact .nil
      · rw [Value.leaves_of_isLeaf hleaf]
        exact List.pairwise_singleton _ _
  | @list items h ih =>
      have hmembers := @distinguished_flatMap (items.zipIdx.map fun item => (.index item.2, item.1))
      rw [List.flatMap_map] at hmembers
      rw [leaves, Value.itemLeaves_eq]
      refine hmembers ?_ ?_
      · rw [List.pairwise_map]
        have hindices : (items.zipIdx.map Prod.snd).Pairwise (· < ·) := by
          rw [List.zipIdx_map_snd]
          exact List.pairwise_lt_range'
        refine (List.pairwise_map.mp hindices).imp fun hlt heq => ?_
        exact Nat.ne_of_lt hlt (Text.ofNat_injective (Option.some.inj heq))
      · simp only [List.mem_map]
        rintro m ⟨⟨v, i⟩, hitem, rfl⟩
        exact ih v (List.mem_of_getElem? (List.mem_zipIdx_iff_getElem?.mp hitem))
  | @map entries hkeys h ih =>
      have hmembers := @distinguished_flatMap (entries.map fun entry => (.key entry.1, entry.2))
      rw [List.flatMap_map] at hmembers
      rw [leaves, Value.entryLeaves_eq]
      refine hmembers ?_ ?_
      · rw [List.pairwise_map]
        refine (List.pairwise_map.mp hkeys.nodup).imp_of_mem fun {a b} ha hb hne heq => hne ?_
        rcases hkeys.segment a ha with ⟨name, hname, -⟩
        rcases hkeys.segment b hb with ⟨name', hname', -⟩
        simp only [stepText?, hname, hname', Value.plain?] at heq
        rw [hname, hname', Option.some.inj heq]
      · simp only [List.mem_map]
        rintro m ⟨entry, hentry, rfl⟩
        exact ih entry hentry

section Keyed

variable {entries : List (Value × Value)} (h : (Value.map entries).Keyed)
include h

theorem nodup_listed : ((leaves (.map entries)).filterMap (listed? [])).Nodup := by
  refine List.pairwise_filterMap.mpr ((distinguished_leaves h).imp_of_mem ?_)
  rintro ⟨steps, u⟩ ⟨steps', u'⟩ hmem hmem' hne key hkey key' hkey' rfl
  rcases Value.mem_leaves.mp hmem with ⟨hreaches, hleaf⟩
  rcases Value.mem_leaves.mp hmem' with ⟨hreaches', hleaf'⟩
  rcases listed_of_reaches h hreaches hleaf with ⟨listed, hlisted, -, heq⟩
  rcases listed_of_reaches h hreaches' hleaf' with ⟨listed', hlisted', -, heq'⟩
  obtain rfl := Option.some.inj (hkey.symm.trans hlisted)
  obtain rfl := Option.some.inj (hkey'.symm.trans hlisted')
  exact hne (heq.trans heq'.symm)

theorem length_listed :
    ((leaves (.map entries)).filterMap (listed? [])).length = (Value.map entries).leafCount := by
  rw [← Value.length_leaves, List.filterMap_length_eq_length]
  rintro ⟨steps, u⟩ hmem
  rcases Value.mem_leaves.mp hmem with ⟨hreaches, hleaf⟩
  rcases listed_of_reaches h hreaches hleaf with ⟨listed, hlisted, -⟩
  rw [hlisted]
  rfl

/-- A path leads a lookup to a leaf if it is listed as it is written with plain indices. -/
theorem lookup?_iff_listed {path : Text}
    (hshort : ∀ segment ∈ path.splitOn separator,
      segment.isDigits = true → segment.length ≤ digitLimit) :
    (∃ v, lookup? (.map entries) path = .ok (some v) ∧ v.isLeaf = true) ↔
      Text.join [separator] (canonical (.map entries) (path.splitOn separator)) ∈
        (leaves (.map entries)).filterMap (listed? []) := by
  have hsplit : (Text.join [separator] (canonical (.map entries) (path.splitOn separator))).splitOn
      separator = canonical (.map entries) (path.splitOn separator) :=
    Text.splitOn_join (canonical_ne_nil (Text.splitOn_ne_nil _ _) _)
      (separator_notMem_canonical (fun _ => Text.notMem_of_mem_splitOn) _)
  rw [mem_listed_of_keyed h, hsplit]
  constructor
  · rintro ⟨v, hv, hleaf⟩
    exact ⟨v, leads_canonical hv, hleaf⟩
  · rintro ⟨v, hleads, hleaf⟩
    rcases exists_descend? (path.splitOn separator) (.map entries) hshort with ⟨found, hfound⟩
    obtain rfl := found_of_leads_canonical hleads h.distinct (Value.isNull_of_isLeaf hleaf) hfound
    exact ⟨v, hfound, hleaf⟩

end Keyed

/-! ## Keys that can be read -/

section Steps

variable {steps : List Step} {segments : List Text} (heq : steps.map stepText? = segments.map some)
include heq

theorem separator_notMem_of_steps
    (h : ∀ k, .key k ∈ steps → ∃ name, k = .text name ∧ separator ∉ name) :
    ∀ segment ∈ segments, separator ∉ segment := by
  intro segment hsegment
  have hstep : some segment ∈ steps.map stepText? := heq ▸ List.mem_map_of_mem hsegment
  rcases List.mem_map.mp hstep with ⟨step, hstep, htext⟩
  cases step with
  | key k =>
      rcases h k hstep with ⟨name, rfl, hname⟩
      cases htext
      exact hname
  | index i =>
      cases htext
      exact Text.separator_notMem_ofNat i

theorem head?_ne_of_steps (hnames : ∀ k, .key k ∈ steps → ∃ name, k = .text name)
    (h : steps.head? ≠ some (.key (.text []))) : segments.head? ≠ some [] := by
  rintro hnil
  cases steps with
  | nil => cases segments with
    | nil => cases hnil
    | cons => cases heq
  | cons step rest => cases segments with
    | nil => cases hnil
    | cons segment more =>
        obtain rfl : segment = [] := Option.some.inj hnil
        have htext : stepText? step = some [] := (List.cons.inj heq).1
        cases step with
        | key k =>
            rcases hnames k List.mem_cons_self with ⟨name, rfl⟩
            cases htext
            exact h rfl
        | index i =>
            have hdigits := Text.isDigits_ofNat i
            rw [Option.some.inj htext] at hdigits
            cases hdigits

end Steps

end Document

namespace Source

variable {entries : List (Value × Value)}

/-- The keys of a keyed document ascend, and each of them comes once.  A path leads a lookup to
a leaf exactly if it is a key when its indices are written without leading zeros.  There are
as many keys as there are leaves.

A document is a tree here.  One that stands within itself (`ofWeb`) has no list of keys, for the
walk through it does not end, and it is left out. -/
theorem keys_exact (h : (Value.map entries).Keyed) (origin : Text) :
    ∃ keys, (ofDocument origin entries).keys = .ok keys ∧
      keys.Pairwise (fun a b => a ≠ b ∧ Text.le a b = true) ∧
      (∀ path : Text,
        (∀ segment ∈ path.splitOn separator,
          segment.isDigits = true → segment.length ≤ digitLimit) →
        ((∃ v, Document.lookup? (.map entries) path = .ok (some v) ∧ v.isLeaf = true) ↔
          Text.join [separator] (Document.canonical (.map entries) (path.splitOn separator)) ∈
            keys)) ∧
      keys.length = (Value.map entries).leafCount := by
  let listed := (Value.map entries).leaves.filterMap (Document.listed? [])
  have hperm : (Text.sort listed).Perm listed := List.mergeSort_perm listed _
  refine ⟨Text.sort listed, keys_ofDocument_eq_ok.mpr ⟨h.named, rfl⟩, ?_, fun path hshort => ?_, ?_⟩
  · have hnodup : (Text.sort listed).Nodup := hperm.nodup_iff.mpr (Document.nodup_listed h)
    exact hnodup.and (Text.pairwise_sort listed)
  · rw [hperm.mem_iff]
    exact Document.lookup?_iff_listed h hshort
  · rw [hperm.length_eq]
    exact Document.length_listed h

/-- A key that is all digits is no index, and null and empty collections are not listed. -/
theorem keys_exact_numbers :
    let entries : List (Value × Value) :=
      [(.text "00", .text "x"), (.text "a", .list [.null, .map [], .bool true]), (.text "b", .null)]
    (Value.map entries).Keyed ∧
      ∃ keys, (ofDocument "<document>" entries).keys = .ok keys ∧ keys.length = 2 ∧
        ("00" : Text) ∈ keys ∧ ("a.2" : Text) ∈ keys := by
  intro entries
  have hkeyed : (Value.map entries).Keyed := by
    have hempty : (Value.map []).Keyed := .map ⟨nofun, List.nodup_nil⟩ nofun
    have hitems : ∀ v ∈ [Value.null, .map [], .bool true], v.Keyed :=
      List.forall_mem_cons.mpr ⟨.other rfl, List.forall_mem_cons.mpr ⟨hempty,
        List.forall_mem_cons.mpr ⟨.other rfl, nofun⟩⟩⟩
    have hkeys : Value.PlainKeys entries :=
      @Value.PlainKeys.of_names entries ["00", "a", "b"] rfl (by decide) (by decide)
    refine .map hkeys ?_
    simp only [entries, List.mem_cons, List.not_mem_nil, or_false]
    rintro entry (rfl | rfl | rfl)
    · exact .other rfl
    · exact .list hitems
    · exact .other rfl
  rcases keys_exact hkeyed "<document>" with ⟨keys, hkeys, -, hlookup, hlength⟩
  refine ⟨hkeyed, keys, hkeys, hlength, ?_, ?_⟩
  · exact (hlookup "00" (by decide)).mp ⟨_, rfl, rfl⟩
  · exact (hlookup "a.002" (by decide)).mp ⟨_, rfl, rfl⟩

/-- The keys of a document are spelled by the steps to its leaves.  A key can be read if the
keys that it is spelled by are texts without a separator and it begins with a text that is
not empty: the text of the leaf is read. -/
theorem listed_read (hdistinct : (Value.map entries).Everywhere Value.DistinctKeys)
    (hindexable : (Value.map entries).Indexable) {origin : Text} {keys : List Text}
    (hkeys : (ofDocument origin entries).keys = .ok keys) :
    (∀ key, key ∈ keys ↔ key ≠ [] ∧ ∃ steps leaf, (Value.map entries).Reaches steps leaf ∧
      leaf.isLeaf = true ∧ Document.spell [] steps = some key) ∧
    ∀ key steps leaf, (Value.map entries).Reaches steps leaf → leaf.isLeaf = true →
      Document.spell [] steps = some key →
      (∀ k, .key k ∈ steps → ∃ name, k = .text name ∧ separator ∉ name) →
      steps.head? ≠ some (.key (.text [])) →
      key ∈ keys ∧ ∀ text, Document.toText key leaf = .ok text →
        ((ofDocument origin entries).scalar key .string).outcome = .ok (some text) := by
  rcases keys_ofDocument_eq_ok.mp hkeys with ⟨-, rfl⟩
  have hmem : ∀ key, key ∈ Text.sort ((Value.map entries).leaves.filterMap (Document.listed? [])) ↔
      key ≠ [] ∧ ∃ steps leaf, (Value.map entries).Reaches steps leaf ∧ leaf.isLeaf = true ∧
        Document.spell [] steps = some key :=
    fun key => List.mem_mergeSort.trans Document.mem_listed
  refine ⟨hmem, fun key steps leaf hreaches hleaf hspell hnames hhead => ?_⟩
  have htexts : ∀ k, .key k ∈ steps → ∃ name, k = .text name := fun k hk =>
    (hnames k hk).imp fun _ h => h.1
  rcases Document.leads_of_reaches hreaches htexts with ⟨segments, hleads, heq⟩
  have hne : segments ≠ [] := by
    rintro rfl
    cases hleads
    cases hleaf
  rcases Document.exists_spelled heq hne (Document.head?_ne_of_steps heq htexts hhead)
    (Document.separator_notMem_of_steps heq hnames) with ⟨spelled, hspelled, hne, hsplit⟩
  obtain rfl := Option.some.inj (hspell.symm.trans hspelled)
  refine ⟨(hmem key).mpr ⟨hne, steps, leaf, hreaches, hleaf, hspell⟩, fun text htext => ?_⟩
  have hfound : Document.lookup? (.map entries) key = .ok (some leaf) := by
    rw [Document.lookup?, hsplit]
    exact Document.descend?_of_leads hleads hdistinct (Value.isNull_of_isLeaf hleaf) hindexable
  exact Run.ofExcept_eq_ok.mpr (Document.answer_eq_ok.mpr ⟨leaf, hfound, htext⟩)

/-- A key that leads through a list of mappings, in a document with a key that is no text. -/
theorem listed_read_beside_other_keys :
    let entries : List (Value × Value) :=
      [(.text "servers", .list [.map [(.text "host", .text "a")]]), (.bool true, .text "x")]
    let source := ofDocument "<document>" entries
    ((Value.map entries).Everywhere Value.DistinctKeys ∧ (Value.map entries).Indexable) ∧
      ∃ keys, source.keys = .ok keys ∧ ("servers.0.host" : Text) ∈ keys ∧
        (source.scalar "servers.0.host" .string).outcome = .ok (some ("a" : Text)) := by
  intro entries source
  have htext : ∀ (P : List (Value × Value) → Prop) (t : Text), (Value.text t).Everywhere P :=
    fun _ _ => .other rfl
  have hdistinct : (Value.map entries).Everywhere Value.DistinctKeys := by
    have hnodup : (Value.map entries).Everywhere fun entries => (entries.map Prod.fst).Nodup := by
      simp [entries, Value.everywhere_map, Value.everywhere_list, htext]
    exact hnodup.imp fun _ => Value.distinctKeys_of_nodup
  have hnamed : (Value.map entries).Everywhere Document.Named := by
    simp [entries, Value.everywhere_map, Value.everywhere_list, Document.Named, Value.plain?,
      Value.quoted?, htext]
  have hindexable : (Value.map entries).Indexable := by
    have hscalar : ∀ t : Text, (Value.text t).Indexable := fun _ => Value.indexable_of_isScalar rfl
    have hserver : (Value.map [(.text "host", .text "a")]).Indexable :=
      Value.indexable_map (by simpa using hscalar "a")
    have hservers : (Value.list [.map [(.text "host", .text "a")]]).Indexable :=
      Value.indexable_list (by decide) (by simpa using hserver)
    exact Value.indexable_map (by simpa [entries] using ⟨hservers, hscalar "x"⟩)
  have hkeys : source.keys = .ok _ := keys_ofDocument_eq_ok.mpr ⟨hnamed, rfl⟩
  rcases listed_read hdistinct hindexable hkeys with ⟨-, hread⟩
  have hreaches : (Value.map entries).Reaches
      [.key (.text "servers"), .index 0, .key (.text "host")] (.text "a") :=
    .member List.mem_cons_self (.item rfl (.member List.mem_cons_self (.here _)))
  have hnames : ∀ k, Value.Step.key k ∈ [.key (.text "servers"), .index 0, .key (.text "host")] →
      ∃ name, k = .text name ∧ separator ∉ name := by
    simp only [List.mem_cons, List.not_mem_nil, or_false, reduceCtorEq, false_or,
      Value.Step.key.injEq]
    rintro k (rfl | rfl)
    · exact ⟨"servers", rfl, by decide⟩
    · exact ⟨"host", rfl, by decide⟩
  have hhead : (Text.ofString "servers") ≠ [] := by decide
  rcases hread "servers.0.host" _ _ hreaches rfl rfl hnames (by simpa using hhead)
    with ⟨hmem, htext⟩
  exact ⟨⟨hdistinct, hindexable⟩, _, hkeys, hmem, htext "a" rfl⟩

/-- A key that is an integer is listed by its text, and no text finds it. -/
theorem integer_key_unread :
    let source := ofDocument "<document>" [(.text "ports", .map [(.int 80, .text "http")])]
    source.keys = .ok ["ports.80"] ∧
      (source.scalar "ports.80" .string).outcome = .ok none := by
  have hport : (Value.int 80).plain? = some ("80" : Text) := by
    change (if hasDecimalText 80 then some (Text.ofInt 80) else none) = _
    rw [if_pos (Text.hasDecimalText_iff.mpr (by decide))]
    rfl
  have hpaths : Document.entryPaths? [(.text "ports", .map [(.int 80, .text "http")])] [] =
      some [("ports.80" : Text)] := by
    have hports : (Value.text "ports").plain? = some ("ports" : Text) := rfl
    simp only [Document.entryPaths?, Document.paths?, hport, hports, Value.isNull,
      Option.bind_some, Option.map_some]
    rfl
  refine ⟨?_, rfl⟩
  simp only [ofDocument, hpaths, Text.sort, List.mergeSort_singleton]

end Source

end ConfigReader
