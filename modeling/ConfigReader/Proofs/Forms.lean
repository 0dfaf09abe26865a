import ConfigReader.Proofs.JsonTrees

/-!
# Forms of values

The quoted text of a value spells the integers in it, and there is one exactly if these have texts
(`Value.isSome_quoted?_iff`).

The *form* of a value is the tree that stands for it in JSON.  `Value.IsForm` says what it is, and
`Value.isForm_iff` that the printer of values takes this tree.  A tree can be written exactly if its
integers have texts (`Value.isSome_render?_iff`).
-/

namespace ConfigReader

/-- A list of results is a list of arguments mapped, each with what is known of it. -/
theorem exists_map_eq {α β : Type} {f : α → β} {R : α → Prop} {l : List β}
    (h : ∀ b ∈ l, ∃ a, b = f a ∧ R a) : ∃ as : List α, l = as.map f ∧ ∀ a ∈ as, R a := by
  induction l with
  | nil => exact ⟨[], rfl, nofun⟩
  | cons b l ih =>
      obtain ⟨⟨a, rfl, ha⟩, hl⟩ := List.forall_mem_cons.mp h
      obtain ⟨as, rfl, has⟩ := ih hl
      exact ⟨a :: as, rfl, List.forall_mem_cons.mpr ⟨ha, has⟩⟩

namespace Value

/-! ## Integers that are spelt -/

/-- The quoted text of a value spells an integer: it is the value, or is quoted within it. -/
inductive Quotes : Value → Int → Prop
  /-- The integer by itself. -/
  | here (n : Int) : Quotes (int n) n
  /-- An integer within. -/
  | within {v w : Value} {n : Int} (h : w ∈ v.quotedParts) (hn : Quotes w n) : Quotes v n

/-- A value that is no integer has a quoted text if what is quoted within it has one. -/
theorem isSome_quoted?_of_ne_int {v : Value} (hv : ∀ n, v ≠ int n) :
    v.quoted?.isSome = true ↔ ∀ w ∈ v.quotedParts, w.quoted?.isSome = true := by
  cases v with
  | int n => exact absurd rfl (hv n)
  | list items | tuple items =>
      rw [quoted?, Option.isSome_map, collects_quotedItems?.isSome_iff, quotedParts]
  | set items =>
      cases items with
      | nil => exact iff_of_true rfl fun w hw => absurd hw List.not_mem_nil
      | cons item rest =>
          rw [quoted?, Option.isSome_map, collects_quotedItems?.isSome_iff, quotedParts]
          exact List.cons_ne_nil item rest
  | map entries =>
      rw [quoted?, Option.isSome_map, collects_quotedEntries?.isSome_iff]
      simp only [mem_quotedParts_map, isSome_bind_map, Bool.and_eq_true]
      constructor
      · rintro h w ⟨entry, hentry, rfl | rfl⟩
        · exact (h entry hentry).1
        · exact (h entry hentry).2
      · exact fun h entry hentry => ⟨h _ ⟨entry, hentry, .inl rfl⟩, h _ ⟨entry, hentry, .inr rfl⟩⟩
  | record type fields =>
      rw [quoted?, Option.isSome_map, collects_quotedFields?.isSome_iff, quotedParts,
        List.forall_mem_map]
      simp only [Option.isSome_map]
  | boxed type inner => rw [quoted?, Option.isSome_map, quotedParts, List.forall_mem_singleton]
  | _ => exact iff_of_true rfl fun w hw => absurd hw List.not_mem_nil

/-- A value has a quoted text exactly if the integers that are spelt in it have texts. -/
theorem isSome_quoted?_iff {v : Value} :
    v.quoted?.isSome = true ↔ ∀ n, v.Quotes n → hasDecimalText n = true := by
  induction v using quotedParts_induction with
  | step v ih =>
      by_cases hv : ∃ n, v = int n
      · obtain ⟨n, rfl⟩ := hv
        have hsome : (int n).quoted?.isSome = true ↔ hasDecimalText n = true := by
          rw [quoted?]
          split <;> simp [*]
        rw [hsome]
        constructor
        · intro h m hm
          cases hm with
          | here => exact h
          | within h _ => cases h
        · exact fun h => h n (.here n)
      · rw [isSome_quoted?_of_ne_int (not_exists.mp hv)]
        constructor
        · intro h n hn
          cases hn with
          | here => exact absurd ⟨n, rfl⟩ hv
          | within hw hn => exact (ih _ hw).mp (h _ hw) n hn
        · exact fun h w hw => (ih w hw).mpr fun n hn => h n (.within hw hn)

theorem isSome_plain?_iff {v : Value} :
    v.plain?.isSome = true ↔ ∀ n, v.Quotes n → hasDecimalText n = true := by
  cases v with
  | text | path | moment =>
      refine iff_of_true rfl fun n hn => ?_
      cases hn with
      | within h _ => cases h
  | _ => exact isSome_quoted?_iff

/-! ## Forms -/

/-- A value that JSON has no form for, and that has no members either. -/
def isFormless : Value → Bool
  | set _ => true
  | bytes _ => true
  | boxed .. => true
  | path _ => true
  | moment .. => true
  | function .. => true
  | again .. => true
  | _ => false

/-- The tree that stands for a value in JSON.  Tuples are lists, keys are named by their plain
texts, records are mappings, and what has no form is named by its quoted text. -/
inductive IsForm : Value → Value → Prop
  | null : IsForm null null
  | bool (b : Bool) : IsForm (bool b) (bool b)
  | int (n : Int) : IsForm (int n) (int n)
  | float (x : Binary64) : IsForm (float x) (float x)
  | text (t : Text) : IsForm (text t) (text t)
  /-- Items, with their forms. -/
  | list {items : List (Value × Value)} (h : ∀ i ∈ items, IsForm i.1 i.2) :
      IsForm (list (items.map Prod.fst)) (list (items.map Prod.snd))
  /-- Items of a tuple, with their forms. -/
  | tuple {items : List (Value × Value)} (h : ∀ i ∈ items, IsForm i.1 i.2) :
      IsForm (tuple (items.map Prod.fst)) (list (items.map Prod.snd))
  /-- Entries, with the names and the forms of members.  Of members with one name the last
  counts. -/
  | map {entries : List ((Value × Value) × Text × Value)}
      (hnames : ∀ e ∈ entries, e.1.1.plain? = some e.2.1) (h : ∀ e ∈ entries, IsForm e.1.2 e.2.2) :
      IsForm (map (entries.map Prod.fst)) (ofPairs (entries.map fun e => (text e.2.1, e.2.2)))
  /-- Fields, with their forms. -/
  | record {type : Text} {fields : List ((Text × Value) × Value)}
      (h : ∀ f ∈ fields, IsForm f.1.2 f.2) :
      IsForm (record type (fields.map Prod.fst)) (map (fields.map fun f => (text f.1.1, f.2)))
  /-- What has no form. -/
  | other {v : Value} {t : Text} (hv : v.isFormless = true) (ht : v.quoted? = some t) :
      IsForm v (text t)

theorem tree?_of_formless {v : Value} (hv : v.isFormless = true) :
    v.tree? = v.quoted?.map text := by
  cases v with
  | set | bytes | boxed | path | moment | function | again => simp only [tree?]
  | _ => cases hv

theorem tree?_of_isForm {v tree : Value} (h : v.IsForm tree) : v.tree? = some tree := by
  induction h with
  | null => rfl
  | bool b => rfl
  | int n => rfl
  | float x => rfl
  | text t => rfl
  | list _ ih => rw [tree?, collects_treeItems?.of_pairs ih, Option.map_some]
  | tuple _ ih => rw [tree?, collects_treeItems?.of_pairs ih, Option.map_some]
  | @map entries hnames _ ih =>
      have hentries := @Collects.of_pairs _ _ _ _ collects_treeEntries?
        (entries.map fun e => (e.1, (text e.2.1, e.2.2))) (List.forall_mem_map.mpr fun e he => by
          rw [hnames e he, Option.bind_some, ih e he, Option.map_some])
      rw [List.map_map, List.map_map] at hentries
      rw [tree?]
      exact congrArg (Option.map ofPairs) hentries
  | @record type fields _ ih =>
      have hfields := @Collects.of_pairs _ _ _ _ collects_treeFields?
        (fields.map fun f => (f.1, (text f.1.1, f.2))) (List.forall_mem_map.mpr fun f hf => by
          rw [ih f hf, Option.map_some])
      rw [List.map_map, List.map_map] at hfields
      rw [tree?]
      exact congrArg (Option.map map) hfields
  | other hv ht => rw [tree?_of_formless hv, ht, Option.map_some]

theorem isForm_of_tree? {v tree : Value} (h : v.tree? = some tree) : v.IsForm tree := by
  induction v using parts_induction generalizing tree with
  | step v ih =>
      cases v with
      | null =>
          cases h
          exact .null
      | bool b =>
          cases h
          exact .bool b
      | int n =>
          cases h
          exact .int n
      | float x =>
          cases h
          exact .float x
      | text t =>
          cases h
          exact .text t
      | list items =>
          rw [tree?] at h
          obtain ⟨trees, htrees, rfl⟩ := Option.map_eq_some_iff.mp h
          obtain ⟨pairs, rfl, rfl, hpairs⟩ := collects_treeItems?.exists_pairs htrees
          exact .list fun p hp => ih p.1 (List.mem_map_of_mem hp) (hpairs p hp)
      | tuple items =>
          rw [tree?] at h
          obtain ⟨trees, htrees, rfl⟩ := Option.map_eq_some_iff.mp h
          obtain ⟨pairs, rfl, rfl, hpairs⟩ := collects_treeItems?.exists_pairs htrees
          exact .tuple fun p hp => ih p.1 (List.mem_map_of_mem hp) (hpairs p hp)
      | map entries =>
          rw [tree?] at h
          obtain ⟨members, hmembers, rfl⟩ := Option.map_eq_some_iff.mp h
          obtain ⟨pairs, rfl, rfl, hpairs⟩ := collects_treeEntries?.exists_pairs hmembers
          have hsplit : ∀ p ∈ pairs, ∃ e : (Value × Value) × Text × Value,
              p = (e.1, (.text e.2.1, e.2.2)) ∧
                (e.1.1.plain? = some e.2.1 ∧ e.1.2.tree? = some e.2.2) := by
            intro p hp
            obtain ⟨name, hname, hp⟩ := Option.bind_eq_some_iff.mp (hpairs p hp)
            obtain ⟨w, hw, hp⟩ := Option.map_eq_some_iff.mp hp
            exact ⟨(p.1, (name, w)), Prod.ext rfl hp.symm, hname, hw⟩
          obtain ⟨entries, rfl, hentries⟩ := exists_map_eq hsplit
          rw [List.map_map, List.map_map]
          refine @IsForm.map entries (fun e he => (hentries e he).1) fun e he => ?_
          refine ih e.1.2 ?_ (hentries e he).2
          rw [parts, List.map_map, List.map_map]
          exact List.mem_map_of_mem he
      | record type fields =>
          rw [tree?] at h
          obtain ⟨members, hmembers, rfl⟩ := Option.map_eq_some_iff.mp h
          obtain ⟨pairs, rfl, rfl, hpairs⟩ := collects_treeFields?.exists_pairs hmembers
          have hsplit : ∀ p ∈ pairs, ∃ f : (Text × Value) × Value,
              p = (f.1, (.text f.1.1, f.2)) ∧ f.1.2.tree? = some f.2 := by
            intro p hp
            obtain ⟨w, hw, hp⟩ := Option.map_eq_some_iff.mp (hpairs p hp)
            exact ⟨(p.1, w), Prod.ext rfl hp.symm, hw⟩
          obtain ⟨fields, rfl, hfields⟩ := exists_map_eq hsplit
          rw [List.map_map, List.map_map]
          refine @IsForm.record type fields fun f hf => ih f.1.2 ?_ (hfields f hf)
          rw [parts, List.map_map, List.map_map]
          exact List.mem_map_of_mem hf
      | _ =>
          rw [tree?_of_formless rfl] at h
          obtain ⟨t, ht, rfl⟩ := Option.map_eq_some_iff.mp h
          exact .other rfl ht

/-- The printer of values takes the form of a value. -/
theorem isForm_iff {v tree : Value} : v.IsForm tree ↔ v.tree? = some tree :=
  ⟨tree?_of_isForm, isForm_of_tree?⟩

theorem quotes_iff_of_ne_int {v : Value} (hv : ∀ n, v ≠ int n) {n : Int} :
    v.Quotes n ↔ ∃ w ∈ v.quotedParts, w.Quotes n := by
  constructor
  · intro h
    cases h with
    | here => exact absurd rfl (hv n)
    | within hw hn => exact ⟨_, hw, hn⟩
  · rintro ⟨w, hw, hn⟩
    exact .within hw hn

/-- A tree can be written exactly if its integers have texts, however it is laid out. -/
theorem isSome_render?_iff {P : Binary64 → Prop} {v : Value} (hv : v.IsTree P)
    (layout : Json.Layout) (depth : Nat) : (Json.render? layout depth v).isSome = true ↔
      ∀ n, v.Quotes n → hasDecimalText n = true := by
  have hnone : ∀ {v : Value}, v.quotedParts = [] → (∀ n, v ≠ int n) →
      ∀ n, v.Quotes n → hasDecimalText n = true := by
    intro v hparts hv n hn
    obtain ⟨w, hw, -⟩ := (quotes_iff_of_ne_int hv).mp hn
    rw [hparts] at hw
    cases hw
  induction hv generalizing depth with
  | null | bool | float | text => exact iff_of_true rfl (hnone rfl (by rintro n ⟨⟩))
  | int n =>
      rw [Json.render?, ← quoted?]
      exact isSome_quoted?_iff
  | @list items _ ih =>
      rw [Json.render?, Option.isSome_map,
        (Json.collects_renderItems? layout (depth + 1)).isSome_iff]
      simp only [quotes_iff_of_ne_int (v := list items) (by rintro n ⟨⟩), quotedParts]
      constructor
      · rintro h n ⟨w, hw, hn⟩
        exact (ih w hw _).mp (h w hw) n hn
      · exact fun h w hw => (ih w hw _).mpr fun n hn => h n ⟨w, hw, hn⟩
  | @map entries hnames _ ih =>
      have hmember : ∀ entry ∈ entries, (entry.1.plain?.bind fun name =>
          (Json.render? layout (depth + 1) entry.2).map fun t => (name, t)).isSome = true ↔
            ∀ n, entry.1.Quotes n ∨ entry.2.Quotes n → hasDecimalText n = true := by
        intro entry hentry
        obtain ⟨t, ht⟩ := hnames entry hentry
        have hkey : ∀ n, ¬ (text t).Quotes n := by
          intro n hn
          obtain ⟨w, hw, -⟩ := (quotes_iff_of_ne_int (v := text t) (by rintro n ⟨⟩)).mp hn
          cases hw
        rw [ht, plain?, Option.bind_some, Option.isSome_map]
        refine (ih entry hentry (depth + 1)).trans ?_
        simp only [hkey, false_or]
      rw [Json.render?, Option.isSome_map,
        (Json.collects_renderMembers? layout (depth + 1)).isSome_iff, forall₂_congr hmember]
      simp only [quotes_iff_of_ne_int (v := map entries) (by rintro n ⟨⟩), mem_quotedParts_map]
      constructor
      · rintro h n ⟨w, ⟨entry, hentry, rfl | rfl⟩, hn⟩
        · exact h entry hentry n (.inl hn)
        · exact h entry hentry n (.inr hn)
      · rintro h entry hentry n (hn | hn)
        · exact h n ⟨_, ⟨entry, hentry, .inl rfl⟩, hn⟩
        · exact h n ⟨_, ⟨entry, hentry, .inr rfl⟩, hn⟩

end Value

end ConfigReader
