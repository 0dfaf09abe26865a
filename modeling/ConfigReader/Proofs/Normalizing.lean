import ConfigReader.Logging
import ConfigReader.Proofs.Forms
import ConfigReader.Proofs.Meaning
import Mathlib.Data.List.Induction
import Mathlib.Data.List.Nodup

/-!
# Fields put in normal form

The fields of a message are put in normal form when they are taken from it.  A line of text does so
once more with each of them, and a JSON line with the mapping of all of them.  The second time
changes nothing, for values in normal form are left as they are (`Value.normalize?_of_normal`) and
every normal form is one (`Value.normal_of_normalize?`).  For a mapping this takes more than the
form of what is in it.  Keys that differ can have the same text, and the entries of such keys are
merged.  So the keys of a normal form are texts, each once.

A normal form spells the integers in keys and in other objects, and there is none exactly if one of
these has too many digits (`Value.isSome_normalize?_iff`).  `LogEntry.fields_normalized_once` has
all of this.
-/

namespace ConfigReader

namespace Value

/-! ## Keys of mappings -/

/-- Entries with texts for keys, each once. -/
structure Named (entries : List (Value × Value)) : Prop where
  /-- The keys are texts. -/
  names : ∀ entry ∈ entries, ∃ name, entry.1 = text name
  /-- No key comes twice. -/
  nodup : (entries.map Prod.fst).Nodup

theorem sameKey_text {s t : Text} : (text s).sameKey (text t) = true ↔ s = t := by
  rw [sameKey, beq_iff_eq]

/-- A key that is set is new or was there. -/
theorem mem_keys_insert {entries : List (Value × Value)} {key value k : Value}
    (h : k ∈ (insert entries key value).map Prod.fst) :
    k ∈ entries.map Prod.fst ∨ k = key := by
  induction entries with
  | nil => exact .inr (List.mem_singleton.mp h)
  | cons entry rest ih =>
      rw [insert] at h
      split at h
      · exact .inl h
      · obtain rfl | h := List.mem_cons.mp h
        · exact .inl List.mem_cons_self
        · exact (ih h).imp_left (List.mem_cons_of_mem _)

/-- An entry with a new key is put at the end. -/
theorem insert_of_new {entries : List (Value × Value)}
    (hnames : ∀ entry ∈ entries, ∃ name, entry.1 = text name) {name : Text} {value : Value}
    (hnew : text name ∉ entries.map Prod.fst) :
    insert entries (text name) value = entries ++ [(text name, value)] := by
  induction entries with
  | nil => rfl
  | cons entry rest ih =>
      obtain ⟨⟨s, hs⟩, hrest⟩ := List.forall_mem_cons.mp hnames
      obtain ⟨hne, hnew⟩ := List.ne_and_not_mem_of_not_mem_cons hnew
      have hother : ¬ entry.1.sameKey (text name) = true := by
        rw [hs, sameKey_text]
        rintro rfl
        exact hne hs.symm
      rw [insert, if_neg hother, ih hrest hnew, List.cons_append]

namespace Named

variable {entries : List (Value × Value)}

theorem insert (h : Named entries) (name : Text) (value : Value) :
    Named (insert entries (text name) value) := by
  refine ⟨fun entry hentry => ?_, ?_⟩
  · obtain hmem | hkey := mem_keys_insert (List.mem_map_of_mem hentry)
    · obtain ⟨other, hother, hkey⟩ := List.mem_map.mp hmem
      rw [← hkey]
      exact h.names other hother
    · exact ⟨name, hkey⟩
  · obtain ⟨hnames, hnodup⟩ := h
    induction entries with
    | nil => exact List.nodup_singleton _
    | cons entry rest ih =>
        obtain ⟨⟨s, hs⟩, hrest⟩ := List.forall_mem_cons.mp hnames
        obtain ⟨hnew, hnodup'⟩ := List.nodup_cons.mp hnodup
        rw [Value.insert]
        split
        · exact hnodup
        · next hother =>
            refine List.nodup_cons.mpr ⟨fun hmem => ?_, ih hrest hnodup'⟩
            obtain hmem | hkey := mem_keys_insert hmem
            · exact hnew hmem
            · exact hother (by rw [hkey, sameKey_text])

/-- Pairs with texts for keys are the entries of a mapping with each of these keys once. -/
theorem ofPairs {pairs : List (Value × Value)}
    (h : ∀ pair ∈ pairs, ∃ name, pair.1 = text name) :
    ∃ entries, ofPairs pairs = map entries ∧ Named entries := by
  have hnil : Named [] := ⟨nofun, List.nodup_nil⟩
  refine ⟨_, rfl, List.foldlRecOn (motive := Named) pairs _ hnil ?_⟩
  rintro entries hentries ⟨key, value⟩ hpair
  obtain ⟨name, rfl⟩ := h (key, value) hpair
  exact hentries.insert name value

/-- Entries with each key once are a mapping as they are. -/
theorem ofPairs_eq (h : Named entries) : Value.ofPairs entries = map entries := by
  refine congrArg map ?_
  obtain ⟨hnames, hnodup⟩ := h
  induction entries using List.reverseRecOn with
  | nil => rfl
  | append_singleton entries entry ih =>
      obtain ⟨key, value⟩ := entry
      obtain ⟨hbefore, hentry⟩ := List.forall_mem_append.mp hnames
      obtain ⟨name, rfl⟩ := hentry (key, value) List.mem_cons_self
      rw [List.map_append, List.nodup_append] at hnodup
      obtain ⟨hnodup, -, hdisjoint⟩ := hnodup
      have hnew : text name ∉ entries.map Prod.fst := fun hmem =>
        hdisjoint _ hmem _ List.mem_cons_self rfl
      rw [List.foldl_concat, ih hbefore hnodup]
      exact insert_of_new hbefore hnew

end Named

/-! ## Normal forms -/

/-- A tree in normal form: null, truth values, integers, finite numbers, texts, lists, and mappings
with texts for keys, each once. -/
inductive Normal : Value → Prop
  | null : Normal null
  | bool (b : Bool) : Normal (bool b)
  | int (n : Int) : Normal (int n)
  | float {x : Binary64} (h : x.isFinite = true) : Normal (float x)
  | text (t : Text) : Normal (text t)
  | list {items : List Value} (h : ∀ v ∈ items, Normal v) : Normal (list items)
  | map {entries : List (Value × Value)} (hnamed : Named entries)
      (h : ∀ entry ∈ entries, Normal entry.2) : Normal (map entries)

/-- A normal form is a tree of finite numbers. -/
theorem Normal.isTree {v : Value} (h : v.Normal) : v.IsTree fun x => x.isFinite = true := by
  induction h with
  | null => exact .null
  | bool b => exact .bool b
  | int n => exact .int n
  | float h => exact .float h
  | text t => exact .text t
  | list _ ih => exact .list ih
  | map hnamed _ ih => exact .map hnamed.names ih

theorem collects_normalizeItems? : Collects normalize? normalizeItems? :=
  ⟨by rw [normalizeItems?], fun v rest => by rw [normalizeItems?]⟩

theorem collects_normalizeEntries? : Collects
    (fun entry : Value × Value => entry.1.plain?.bind fun name =>
      entry.2.normalize?.map fun w => (text name, w)) normalizeEntries? := by
  refine ⟨by rw [normalizeEntries?], fun (key, v) rest => ?_⟩
  rw [normalizeEntries?]
  cases key.plain? with
  | none => rfl
  | some name => cases v.normalize? <;> rfl

end Value

/-- What is its own result, item by item, is collected as it is. -/
theorem Collects.eq_self {α : Type} {f : α → Option α} {g : List α → Option (List α)}
    (h : Collects f g) {l : List α} (hl : ∀ a ∈ l, f a = some a) : g l = some l := by
  induction l with
  | nil => exact h.nil
  | cons a l ih =>
      obtain ⟨ha, hl⟩ := List.forall_mem_cons.mp hl
      rw [h.cons, ha, ih hl]
      rfl

namespace Value

/-- A value in normal form is left as it is. -/
theorem normalize?_of_normal {v : Value} (h : v.Normal) : v.normalize? = some v := by
  induction h with
  | null => rfl
  | bool b => rfl
  | int n => rfl
  | float h => rw [normalize?, if_pos h]
  | text t => rfl
  | list _ ih => rw [normalize?, collects_normalizeItems?.eq_self ih, Option.map_some]
  | @map entries hnamed _ ih =>
      have hself : normalizeEntries? entries = some entries := by
        refine collects_normalizeEntries?.eq_self fun entry hentry => ?_
        obtain ⟨name, hname⟩ := hnamed.names entry hentry
        rw [hname, plain?, Option.bind_some, ih entry hentry, Option.map_some, ← hname]
      rw [normalize?, hself, Option.map_some, hnamed.ofPairs_eq]

/-- What a value is put into is in normal form. -/
theorem normal_of_normalize? {v w : Value} (h : v.normalize? = some w) : w.Normal := by
  induction v using parts_induction generalizing w with
  | step v ih =>
      cases v with
      | null =>
          cases h
          exact .null
      | bool b =>
          cases h
          exact .bool b
      | int n =>
          cases h
          exact .int n
      | float x =>
          rw [normalize?] at h
          cases h
          split
          · next hfinite => exact .float hfinite
          · exact .text _
      | text t | path t =>
          cases h
          exact .text t
      | list items | tuple items =>
          rw [normalize?] at h
          obtain ⟨found, hfound, rfl⟩ := Option.map_eq_some_iff.mp h
          exact .list (collects_normalizeItems?.forall_of_forall hfound fun v hv _ => ih v hv)
      | map entries =>
          rw [normalize?] at h
          obtain ⟨pairs, hpairs, rfl⟩ := Option.map_eq_some_iff.mp h
          have htitled : Titled Normal pairs := by
            refine collects_normalizeEntries?.forall_of_forall hpairs fun entry hentry pair hpair => ?_
            obtain ⟨name, -, hpair⟩ := Option.bind_eq_some_iff.mp hpair
            obtain ⟨w, hw, rfl⟩ := Option.map_eq_some_iff.mp hpair
            exact ⟨⟨name, rfl⟩, ih _ (List.mem_map_of_mem hentry) hw⟩
          obtain ⟨found, hfound, htitled'⟩ := htitled.ofPairs
          obtain ⟨_, hfound', hnamed⟩ := Named.ofPairs fun pair hpair => (htitled pair hpair).1
          cases hfound.symm.trans hfound'
          rw [hfound]
          exact .map hnamed fun entry hentry => (htitled' entry hentry).2
      | _ =>
          simp only [normalize?, Option.map_eq_some_iff] at h
          obtain ⟨t, -, rfl⟩ := h
          exact .text t

/-! ## Integers of normal forms -/

/-- A value that is shown by its quoted text in a normal form. -/
def isOther : Value → Bool
  | set _ => true
  | bytes _ => true
  | record .. => true
  | boxed .. => true
  | moment .. => true
  | function .. => true
  | again .. => true
  | _ => false

/-- The keys of a mapping. -/
def mapKeys : Value → List Value
  | map entries => entries.map Prod.fst
  | _ => []

/-- The normal form of a value spells an integer, in the text of a key or of another object. -/
inductive Spells : Value → Int → Prop
  /-- An integer in a key. -/
  | key {v k : Value} {n : Int} (h : k ∈ v.mapKeys) (hn : k.Quotes n) : Spells v n
  /-- An integer in another object. -/
  | other {v : Value} {n : Int} (hv : v.isOther = true) (hn : v.Quotes n) : Spells v n
  /-- An integer in an item, or in the value of a member. -/
  | part {v w : Value} {n : Int} (hv : v.isOther = false) (h : w ∈ v.parts) (hn : Spells w n) :
      Spells v n

theorem normalize?_of_other {v : Value} (hv : v.isOther = true) :
    v.normalize? = v.quoted?.map text ∧ v.mapKeys = [] := by
  cases v with
  | set | bytes | record | boxed | moment | function | again =>
      exact ⟨by simp only [normalize?], rfl⟩
  | _ => cases hv

/-- A value that has a form of its own has a normal form if its keys have texts and its parts have
normal forms. -/
theorem isSome_normalize?_of_parts {v : Value} (hv : v.isOther = false) :
    v.normalize?.isSome = true ↔
      (∀ k ∈ v.mapKeys, k.plain?.isSome = true) ∧ ∀ w ∈ v.parts, w.normalize?.isSome = true := by
  have hnil : ∀ {P : Value → Prop}, ∀ w ∈ ([] : List Value), P w :=
    fun _ hw => absurd hw List.not_mem_nil
  cases v with
  | null | bool | int | float | text | path => exact iff_of_true rfl ⟨hnil, hnil⟩
  | list items | tuple items =>
      rw [normalize?, Option.isSome_map, collects_normalizeItems?.isSome_iff]
      exact (and_iff_right hnil).symm
  | map entries =>
      rw [normalize?, Option.isSome_map, collects_normalizeEntries?.isSome_iff, mapKeys, parts,
        List.forall_mem_map, List.forall_mem_map]
      simp only [isSome_bind_map, Bool.and_eq_true]
      exact ⟨fun h => ⟨fun e he => (h e he).1, fun e he => (h e he).2⟩,
        fun h e he => ⟨h.1 e he, h.2 e he⟩⟩
  | _ => cases hv

/-- A value has a normal form exactly if the integers that are spelt in it have texts. -/
theorem isSome_normalize?_iff {v : Value} :
    v.normalize?.isSome = true ↔ ∀ n, v.Spells n → hasDecimalText n = true := by
  induction v using parts_induction with
  | step v ih =>
      cases hv : v.isOther with
      | true =>
          obtain ⟨hnormal, hkeys⟩ := normalize?_of_other hv
          rw [hnormal, Option.isSome_map, isSome_quoted?_iff]
          refine forall_congr' fun n => imp_congr_left ⟨.other hv, fun hn => ?_⟩
          cases hn with
          | key h _ =>
              rw [hkeys] at h
              cases h
          | other _ hn => exact hn
          | part hother _ _ => cases hv.symm.trans hother
      | false =>
          rw [isSome_normalize?_of_parts hv]
          simp only [isSome_plain?_iff]
          constructor
          · rintro ⟨hkeys, hparts⟩ n hn
            cases hn with
            | key h hn => exact hkeys _ h n hn
            | other hother _ => cases hv.symm.trans hother
            | part _ h hn => exact (ih _ h).mp (hparts _ h) n hn
          · intro h
            exact ⟨fun k hk n hn => h n (.key hk hn),
              fun w hw => (ih w hw).mpr fun n hn => h n (.part hv hw hn)⟩

end Value

/-! ## Fields of lines -/

theorem collects_mapM {α β : Type} (f : α → Option β) : Collects f (List.mapM f) := by
  refine ⟨List.mapM_nil, fun a l => ?_⟩
  rw [List.mapM_cons]
  cases f a with
  | none => rfl
  | some b => cases l.mapM f <;> rfl

theorem mapM_congr_of_mem {α β : Type} {f g : α → Option β} {l : List α}
    (h : ∀ a ∈ l, f a = g a) : l.mapM f = l.mapM g := by
  induction l with
  | nil => rfl
  | cons a l ih =>
      obtain ⟨ha, hl⟩ := List.forall_mem_cons.mp h
      rw [List.mapM_cons, List.mapM_cons, ha, ih hl]

/-- Results are collected exactly if they are those of the items, one by one. -/
theorem Collects.eq_some_iff {α β : Type} {f : α → Option β} {g : List α → Option (List β)}
    (h : Collects f g) {l : List α} {results : List β} :
    g l = some results ↔ List.Forall₂ (fun a b => f a = some b) l results := by
  constructor
  · intro hl
    obtain ⟨pairs, rfl, rfl, hpairs⟩ := h.exists_pairs hl
    clear hl
    induction pairs with
    | nil => exact .nil
    | cons p pairs ih =>
        obtain ⟨hp, hpairs⟩ := List.forall_mem_cons.mp hpairs
        exact .cons hp (ih hpairs)
  · intro hl
    induction hl with
    | nil => exact h.nil
    | cons hab _ ih =>
        rw [h.cons, hab, ih]
        rfl

/-- The text of a field in normal form is its plain text. -/
theorem fieldText?_of_normal {field : Text × Value} (h : field.2.Normal) :
    fieldText? field = field.2.plain?.map fun t => field.1 ++ "=" ++ t := by
  rw [fieldText?, Value.normalize?_of_normal h, Option.bind_some]

/-- Fields in normal form are the entries of the mapping of them. -/
theorem extraFields?_of_normal {shown : List (Text × Value)} (h : ∀ field ∈ shown, field.2.Normal) :
    extraFields? shown = some (if shown.isEmpty then [] else
      [(.text "fields", .ofPairs (shown.map fun (name, v) => (.text name, v)))]) := by
  have hself : Value.normalizeEntries? (shown.map fun (name, v) => (.text name, v)) =
      some (shown.map fun (name, v) => (.text name, v)) := by
    refine Value.collects_normalizeEntries?.eq_self (List.forall_mem_map.mpr fun field hfield => ?_)
    rw [Value.plain?, Option.bind_some, Value.normalize?_of_normal (h field hfield),
      Option.map_some]
  rw [extraFields?, Value.normalize?, hself]
  split <;> rfl

namespace LogEntry

/-- A field is shown unless it belongs to every message or its name begins with an underscore. -/
def IsVisible (field : Text × Value) : Prop :=
  field.1 ∉ standardFields ∧ field.1.head? ≠ some (.scalar '_')

instance : DecidablePred IsVisible := fun field =>
  inferInstanceAs (Decidable (field.1 ∉ standardFields ∧ field.1.head? ≠ some (.scalar '_')))

/-- A line of text of a message with the texts of some fields. -/
def written (e : LogEntry) (texts : List Text) : Text :=
  let shown : Text := if texts.isEmpty then [] else " " ++ Text.join " " texts
  let error : Text := e.exception.elim [] fun t => "\n" ++ t
  Level.shownName e.level ++ " " ++ Logger.fullName e.logger ++ ": " ++ e.message ++ shown ++ error

/-- What a JSON line tells of a message with some fields. -/
def told (timestamp : Text) (e : LogEntry) (shown : Fields) : Value :=
  .map ([(.text "timestamp", .text timestamp), (.text "level", .text (Level.shownName e.level)),
      (.text "logger", .text (Logger.fullName e.logger)), (.text "message", .text e.message)] ++
    (if shown.isEmpty then [] else
      [(.text "fields", .ofPairs (shown.map fun (name, v) => (.text name, v)))]) ++
    e.exception.elim [] fun t => [(.text "exception", .text t)])

variable {e : LogEntry} {shown : Fields}

theorem lineWith_eq (e : LogEntry) (texts : List Text) : e.lineWith texts = e.written texts := by
  obtain ⟨logger, level, message, fields, exception⟩ := e
  unfold lineWith written
  cases texts <;> cases exception <;> simp

theorem objectWith_eq (timestamp : Text) (e : LogEntry) (shown : Fields) :
    e.objectWith timestamp (if shown.isEmpty then [] else
      [(.text "fields", .ofPairs (shown.map fun (name, v) => (.text name, v)))]) =
        e.told timestamp shown := by
  obtain ⟨logger, level, message, fields, exception⟩ := e
  cases exception <;> rfl

theorem startsWith_underscore (t : Text) :
    Text.startsWith t "_" = decide (t.head? = some (.scalar '_')) := by
  cases t with
  | nil => rfl
  | cons c t =>
      change (if CodePoint.scalar '_' = c then some t else none).isSome = _
      split
      · next h => exact (decide_eq_true (congrArg some h.symm)).symm
      · next h => exact (decide_eq_false fun heq => h (Option.some.inj heq).symm).symm

/-- The fields that are shown are the visible ones, in their order, each in normal form. -/
theorem shownFields?_eq_some_iff : e.shownFields? = some shown ↔
    List.Forall₂ (fun field found => found.1 = field.1 ∧ field.2.normalize? = some found.2)
      (e.fields.filter IsVisible) shown := by
  have hvisible : (fun field : Text × Value =>
      !standardFields.contains field.1 && !Text.startsWith field.1 "_") =
        fun field => decide (IsVisible field) := by
    funext field
    rw [startsWith_underscore, Bool.eq_iff_iff, decide_eq_true_iff]
    simp [IsVisible]
  have hfield : ∀ field found : Text × Value, shownField? field = some found ↔
      found.1 = field.1 ∧ field.2.normalize? = some found.2 := by
    intro field found
    rw [shownField?, Option.map_eq_some_iff]
    constructor
    · rintro ⟨w, hw, rfl⟩
      exact ⟨rfl, hw⟩
    · rintro ⟨hname, hw⟩
      exact ⟨found.2, hw, Prod.ext hname.symm rfl⟩
  simp only [← hfield]
  rw [← (collects_mapM shownField?).eq_some_iff, ← hvisible]
  rfl

theorem normal_of_shownFields? (h : e.shownFields? = some shown) :
    ∀ field ∈ shown, field.2.Normal := by
  refine (collects_mapM shownField?).forall_of_forall h fun field _ found hfound => ?_
  obtain ⟨w, hw, rfl⟩ := Option.map_eq_some_iff.mp hfound
  exact Value.normal_of_normalize? hw

/-- A line of text has the plain texts of the fields, in the order of their names. -/
theorem textLine?_eq_some_iff (h : e.shownFields? = some shown) {line : Text} :
    e.textLine? = some line ↔ ∃ texts, List.Forall₂ (fun (field : Text × Value) (t : Text) =>
        ∃ plain, field.2.plain? = some plain ∧ t = field.1 ++ "=" ++ plain)
      (shown.mergeSort fun a b => Text.le a.1 b.1) texts ∧ line = e.written texts := by
  have hfields : ∀ field ∈ shown.mergeSort fun a b => Text.le a.1 b.1,
      fieldText? field = field.2.plain?.map fun t => field.1 ++ "=" ++ t := fun field hfield =>
    fieldText?_of_normal (normal_of_shownFields? h field (List.mem_mergeSort.mp hfield))
  have htext : ∀ (field : Text × Value) (t : Text),
      (field.2.plain?.map fun t => field.1 ++ "=" ++ t) = some t ↔
        ∃ plain, field.2.plain? = some plain ∧ t = field.1 ++ "=" ++ plain := by
    intro field t
    rw [Option.map_eq_some_iff]
    exact exists_congr fun plain => and_congr_right fun _ => eq_comm
  simp only [← htext]
  simp only [← (collects_mapM _).eq_some_iff, ← mapM_congr_of_mem hfields, ← lineWith_eq]
  have hline : e.textLine? = ((shown.mergeSort fun a b => Text.le a.1 b.1).mapM fieldText?).map
      e.lineWith := by
    rw [textLine?, h]
    exact Option.map_eq_bind.symm
  rw [hline, Option.map_eq_some_iff]
  exact exists_congr fun texts => and_congr_right fun _ => eq_comm

/-- What a JSON line tells is a tree of finite numbers. -/
theorem isTree_told (timestamp : Text) (e : LogEntry) (h : ∀ field ∈ shown, field.2.Normal) :
    (e.told timestamp shown).IsTree fun x => x.isFinite = true := by
  obtain ⟨found, hfound, htitled⟩ := @Value.Titled.ofPairs (Value.IsTree fun x => x.isFinite = true)
    (shown.map fun (name, v) => (.text name, v))
    (List.forall_mem_map.mpr fun field hfield => ⟨⟨field.1, rfl⟩, (h field hfield).isTree⟩)
  have htexts : ∀ members : List (Text × Text), Value.Titled (Value.IsTree fun x => x.isFinite = true)
      (members.map fun member => (.text member.1, .text member.2)) := fun members =>
    List.forall_mem_map.mpr fun member _ => ⟨⟨member.1, rfl⟩, .text member.2⟩
  refine Value.Titled.isTree (List.forall_mem_append.mpr ⟨List.forall_mem_append.mpr
    ⟨htexts [("timestamp", _), ("level", _), ("logger", _), ("message", _)], ?_⟩, ?_⟩)
  · split
    · exact List.forall_mem_nil _
    · exact List.forall_mem_singleton.mpr ⟨⟨_, rfl⟩, hfound ▸ htitled.isTree⟩
  · cases e.exception with
    | none => exact List.forall_mem_nil _
    | some t => exact htexts [("exception", t)]

/-- A JSON line is the text of what it tells. -/
theorem jsonLine?_eq (h : e.shownFields? = some shown) (timestamp : Text) :
    e.jsonLine? timestamp = Json.render? .compact 0 (e.told timestamp shown) := by
  rw [jsonLine?, h]
  simp only [Option.bind_eq_bind, Option.bind_some, objectWith_eq,
    extraFields?_of_normal (normal_of_shownFields? h)]

/-- Every value has a normal form, unless an integer of too many digits is spelt in a key or in
another object.  A normal form has null, truth values, integers, finite numbers, texts, lists and
mappings with texts for keys in it and nothing else.  To put such a value in normal form changes
nothing, so to do it twice is to do it once.

A message is shown with its visible fields, in their order, if they have normal forms, and each as
one normal form has it.  A line of text has their plain texts.  A JSON line is JSON, and what it
means has the fields as they are.  A message with a field that has no normal form is not shown. -/
theorem fields_normalized_once (v : Value) (e : LogEntry) (timestamp : Text) :
    ((v.normalize?.isSome = true ↔
        ∀ n, v.Spells n → (Text.ofNat n.natAbs).length ≤ digitLimit) ∧
      (∀ w, v.normalize? = some w → w.Normal ∧ w.normalize? = some w) ∧
      (v.Normal → v.normalize? = some v)) ∧
    (∀ shown, e.shownFields? = some shown ↔
        List.Forall₂ (fun field found => found.1 = field.1 ∧ field.2.normalize? = some found.2)
          (e.fields.filter IsVisible) shown) ∧
      (e.shownFields? = none → e.textLine? = none ∧ e.jsonLine? timestamp = none) ∧
      ∀ shown, e.shownFields? = some shown →
        (∀ line, e.textLine? = some line ↔ ∃ texts,
          List.Forall₂ (fun (field : Text × Value) (t : Text) =>
              ∃ plain, field.2.plain? = some plain ∧ t = field.1 ++ "=" ++ plain)
            (shown.mergeSort fun a b => Text.le a.1 b.1) texts ∧ line = e.written texts) ∧
        ((e.jsonLine? timestamp).isSome = true ↔ ∀ n, (e.told timestamp shown).Quotes n →
          (Text.ofNat n.natAbs).length ≤ digitLimit) ∧
        ∀ line, e.jsonLine? timestamp = some line →
          Json.IsJson line ∧ Json.Means line (e.told timestamp shown) := by
  refine ⟨⟨?_, fun w hw => ?_, Value.normalize?_of_normal⟩,
    fun _ => shownFields?_eq_some_iff, fun hnone => ?_, fun shown hshown =>
      ⟨fun _ => textLine?_eq_some_iff hshown, ?_, fun line hline => ?_⟩⟩
  · simp only [Value.isSome_normalize?_iff, Text.hasDecimalText_iff]
  · have hnormal := Value.normal_of_normalize? hw
    exact ⟨hnormal, Value.normalize?_of_normal hnormal⟩
  · rw [textLine?, jsonLine?, hnone]
    exact ⟨rfl, rfl⟩
  · have htree := isTree_told timestamp e (normal_of_shownFields? hshown)
    rw [jsonLine?_eq hshown, Value.isSome_render?_iff htree]
    simp only [Text.hasDecimalText_iff]
  · have htree := isTree_told timestamp e (normal_of_shownFields? hshown)
    rw [jsonLine?_eq hshown] at hline
    refine ⟨?_, Json.means_render? htree hline⟩
    have hjson := (@Json.isJson_render?_iff _ _ _ _ htree _ [] hline nofun).mpr htree
    rwa [List.append_nil] at hjson

/-- Two keys with the same text are merged, and a tuple with a path and an infinite number becomes
a list of texts. -/
theorem fields_normalized_once_of_merged_keys :
    let v : Value := .map
      [(.bool true, .null), (.text "True", .tuple [.path "a", .float (.infinite true)])]
    let w : Value := .map [(.text "True", .list [.text "a", .text "-inf"])]
    let e : LogEntry := ⟨"app", 20, "loaded", [("size", v), ("_hidden", v)], none⟩
    v.normalize? = some w ∧ (w.Normal ∧ w.normalize? = some w) ∧
      e.textLine? = some (Text.ofString "INFO app: loaded size=\x7b'True': ['a', '-inf']\x7d") ∧
      ∃ line, e.jsonLine? "T" = some line ∧ Json.Means line (.map
        [(.text "timestamp", .text "T"), (.text "level", .text "INFO"), (.text "logger", .text "app"),
          (.text "message", .text "loaded"), (.text "fields", .map [(.text "size", w)])]) := by
  intro v w e
  have hv : v.normalize? = some w := rfl
  have hshown : e.shownFields? = some [(Text.ofString "size", w)] := rfl
  obtain ⟨⟨-, hnormal, -⟩, -, -, hlines⟩ := fields_normalized_once v e "T"
  obtain ⟨htext, -, hjson⟩ := hlines _ hshown
  have hsome : (e.jsonLine? "T").isSome = true := by decide +kernel
  obtain ⟨line, hline⟩ := Option.isSome_iff_exists.mp hsome
  refine ⟨hv, hnormal w hv, (htext _).mpr ⟨["size=\x7b'True': ['a', '-inf']\x7d"], ?_, ?_⟩,
    line, hline, (hjson line hline).2⟩
  · rw [List.mergeSort_singleton]
    exact .cons ⟨"\x7b'True': ['a', '-inf']\x7d", by decide +kernel, by decide⟩ .nil
  · decide +kernel

/-- A key that is an integer of too many digits has no normal form.  The message is not shown. -/
theorem long_key_not_shown :
    let v : Value := .map [(.int (Nat.pow 10 5000), .null)]
    let e : LogEntry := ⟨"app", 20, "loaded", [("size", v)], none⟩
    v.normalize? = none ∧ e.textLine? = none ∧ e.jsonLine? "T" = none := by
  have hlong : hasDecimalText (Nat.pow 10 5000) = false := by decide +kernel
  -- the power is too large to be computed in the form that the value has
  generalize ((Nat.pow 10 5000 : Nat) : Int) = n at hlong ⊢
  intro v e
  have hv : v.normalize? = none := by
    simp only [v, Value.normalize?, Value.normalizeEntries?, Value.plain?, Value.quoted?, hlong,
      Bool.false_eq_true, if_false, Option.bind_none, Option.map_none]
  have hshown : e.shownFields? = none := by
    have hfield : shownField? (Text.ofString "size", v) = none := by
      rw [shownField?, hv, Option.map_none]
    change [(Text.ofString "size", v)].mapM shownField? = none
    rw [List.mapM_cons, hfield]
    rfl
  rw [textLine?, jsonLine?, hshown]
  exact ⟨hv, rfl, rfl⟩

end LogEntry

end ConfigReader
