import ConfigReader.Proofs.Leaves
import Mathlib.Data.List.Nodup

/-!
# Trees

Where the segments of a path lead in a document is a relation, `Value.Leads`.  A segment
is the key of a member or the index of an item, as it is written.  In a *keyed* tree, whose
keys are segments of paths, the relation is a partial function, and two functions of documents
agree with it: a lookup follows it (`Document.found_of_leads`, `Document.leads_canonical`),
and the keys of a document are the paths that lead to leaves (`Source.keys_of_keyed`).

A lookup also finds the items of a list by indices with leading zeros.  So it goes where the
*canonical* segments lead, which have the indices as they are written.  *Plain* trees are
keyed trees of scalars without anything empty or null in them.
-/

namespace ConfigReader

namespace Value

/-! ## Plain trees -/

/-- The keys of a mapping are segments of paths, each one once. -/
structure PlainKeys (entries : List (Value × Value)) : Prop where
  /-- A key is a text that is not empty, without a separator. -/
  segment : ∀ entry ∈ entries, ∃ key, entry.1 = .text key ∧ key ≠ [] ∧ separator ∉ key
  /-- No key comes twice. -/
  nodup : (entries.map Prod.fst).Nodup

/-- Texts that are segments are the keys of a mapping if none of them comes twice. -/
theorem PlainKeys.of_names {entries : List (Value × Value)} {names : List Text}
    (hkeys : entries.map Prod.fst = names.map text)
    (hnames : ∀ name ∈ names, name ≠ [] ∧ separator ∉ name) (hnodup : names.Nodup) :
    PlainKeys entries where
  segment := by
    intro entry hentry
    have hkey : entry.1 ∈ names.map text := hkeys ▸ List.mem_map_of_mem hentry
    rcases List.mem_map.mp hkey with ⟨name, hname, heq⟩
    exact ⟨name, heq.symm, hnames name hname⟩
  nodup := by
    rw [hkeys, List.nodup_map_iff fun _ _ => text.inj]
    exact hnodup

/-- A list or a mapping without anything in it. -/
def isHollow : Value → Bool
  | list [] => true
  | map [] => true
  | _ => false

/-- A text, a truth value or an integer. -/
def isScalar : Value → Bool
  | text _ => true
  | bool _ => true
  | int _ => true
  | _ => false

/-- A tree of mappings and lists over scalars that have a text.  Nothing in it is null,
and no list or mapping below its root is empty. -/
inductive Plain : Value → Prop
  /-- A text. -/
  | text (t : Text) : Plain (text t)
  /-- A truth value. -/
  | bool (b : Bool) : Plain (bool b)
  /-- An integer that has a text. -/
  | int (n : Int) (h : hasDecimalText n = true) : Plain (int n)
  /-- A list. -/
  | list (items : List Value) (h : ∀ v ∈ items, Plain v) (hfull : ∀ v ∈ items, v.isHollow = false) :
      Plain (list items)
  /-- A mapping. -/
  | map (entries : List (Value × Value)) (hkeys : PlainKeys entries)
      (h : ∀ entry ∈ entries, Plain entry.2)
      (hfull : ∀ entry ∈ entries, entry.2.isHollow = false) : Plain (map entries)

theorem isHollow_of_isScalar {v : Value} (h : v.isScalar = true) : v.isHollow = false := by
  cases v <;> first | rfl | cases h

/-- A text is the key of one member at most. -/
def DistinctKeys (entries : List (Value × Value)) : Prop :=
  ∀ key v w, (text key, v) ∈ entries → (text key, w) ∈ entries → v = w

/-- The keys in a tree are segments of paths, and those of a mapping are distinct. -/
def Keyed (v : Value) : Prop := v.Everywhere PlainKeys

theorem distinctKeys_of_nodup {entries : List (Value × Value)}
    (h : (entries.map Prod.fst).Nodup) : DistinctKeys entries := by
  intro key v w hv hw
  have hsame : (text key, v) = (text key, w) := List.inj_on_of_nodup_map h hv hw rfl
  exact congrArg Prod.snd hsame

theorem Keyed.distinct {v : Value} (h : v.Keyed) : v.Everywhere DistinctKeys :=
  h.imp fun _ hkeys => distinctKeys_of_nodup hkeys.nodup

theorem Plain.keyed {v : Value} (h : v.Plain) : v.Keyed := by
  induction h with
  | text t => exact .other rfl
  | bool b => exact .other rfl
  | int n h => exact .other rfl
  | list items h hfull ih => exact .list ih
  | map entries hkeys h hfull ih => exact .map hkeys ih

theorem Plain.isLeaf_eq {v : Value} (h : v.Plain) : v.isLeaf = v.isScalar := by
  cases h <;> rfl

theorem Plain.isNull_eq {v : Value} (h : v.Plain) : v.isNull = false := by
  cases h <;> rfl

/-! ## Where segments lead -/

/-- The segments lead from one value to another one in it. -/
inductive Leads : Value → List Text → Value → Prop
  /-- No segment leads anywhere else. -/
  | here (v : Value) : Leads v [] v
  /-- A key leads to its member. -/
  | member {entries : List (Value × Value)} {key : Text} {v u : Value} {rest : List Text}
      (h : (.text key, v) ∈ entries) (hrest : Leads v rest u) : Leads (map entries) (key :: rest) u
  /-- An index leads to its item. -/
  | item {items : List Value} {i : Nat} {segment : Text} {v u : Value} {rest : List Text}
      (hindex : segment = Text.ofNat i) (h : items[i]? = some v) (hrest : Leads v rest u) :
      Leads (list items) (segment :: rest) u

theorem Keyed.named {v : Value} (h : v.Keyed) : v.Everywhere Document.Named :=
  h.imp fun _ hkeys entry hentry =>
    (hkeys.segment entry hentry).elim fun name hname => ⟨name, hname.1 ▸ rfl⟩

theorem Keyed.texts {v u : Value} {steps : List Step} (hv : v.Keyed) (h : v.Reaches steps u) :
    ∀ k, Step.key k ∈ steps → ∃ name, k = .text name := by
  induction h with
  | here v => exact fun _ hk => nomatch hk
  | @member entries key v u rest h _ ih =>
      rcases everywhere_map.mp hv with ⟨hkeys, hmembers⟩
      intro k hk
      rcases List.mem_cons.mp hk with heq | hk
      · rcases hkeys.segment _ h with ⟨name, hname, -⟩
        exact ⟨name, (Step.key.inj heq).trans hname⟩
      · exact ih (hmembers _ h) k hk
  | item h _ ih =>
      have hitems := everywhere_list.mp hv
      intro k hk
      rcases List.mem_cons.mp hk with heq | hk
      · cases heq
      · exact ih (hitems _ (List.mem_of_getElem? h)) k hk

namespace Leads

variable {v u w : Value} {segments more : List Text}

theorem append (h : Leads v segments u) (h' : Leads u more w) : Leads v (segments ++ more) w := by
  induction h with
  | here v => exact h'
  | member h _ ih => exact .member h (ih h')
  | item hindex h _ ih => exact .item hindex h (ih h')

theorem split : ∀ {segments : List Text} {v : Value}, Leads v (segments ++ more) w →
    ∃ u, Leads v segments u ∧ Leads u more w
  | [], v, h => ⟨v, .here v, h⟩
  | _ :: _, _, .member h hrest =>
      let ⟨u, hu, hw⟩ := split hrest
      ⟨u, .member h hu, hw⟩
  | _ :: _, _, .item hindex h hrest =>
      let ⟨u, hu, hw⟩ := split hrest
      ⟨u, .item hindex h hu, hw⟩

/-- What is in a plain tree is plain. -/
theorem plain (h : Leads v segments u) (hv : v.Plain) : u.Plain := by
  induction h with
  | here v => exact hv
  | member h _ ih => cases hv with
    | map _ _ hmembers _ => exact ih (hmembers _ h)
  | item _ h _ ih => cases hv with
    | list _ hitems _ => exact ih (hitems _ (List.mem_of_getElem? h))

/-- What is below the root of a plain tree is not empty. -/
theorem full (h : Leads v segments u) (hv : v.Plain) (hne : segments ≠ []) :
    u.isHollow = false := by
  induction h with
  | here v => exact absurd rfl hne
  | @member entries key v u rest h hrest ih => cases hv with
    | map _ _ hmembers hfull => cases rest with
      | nil =>
          cases hrest
          exact hfull _ h
      | cons next rest => exact ih (hmembers _ h) (List.cons_ne_nil next rest)
  | @item items i segment v u rest _ h hrest ih => cases hv with
    | list _ hitems hfull => cases rest with
      | nil =>
          cases hrest
          exact hfull _ (List.mem_of_getElem? h)
      | cons next rest =>
          exact ih (hitems _ (List.mem_of_getElem? h)) (List.cons_ne_nil next rest)

/-- The segments that lead into a tree are segments of paths. -/
theorem segment (h : Leads v segments u) (hv : v.Keyed) :
    ∀ segment ∈ segments, segment ≠ [] ∧ separator ∉ segment := by
  induction h with
  | here v => exact fun _ hsegment => nomatch hsegment
  | @member entries key v u rest h _ ih =>
      rcases everywhere_map.mp hv with ⟨hkeys, hmembers⟩
      rcases hkeys.segment _ h with ⟨name, heq, hname⟩
      cases heq
      exact List.forall_mem_cons.mpr ⟨hname, ih (hmembers _ h)⟩
  | @item items i segment v u rest hindex h _ ih =>
      have hitems := everywhere_list.mp hv
      subst hindex
      have hname : Text.ofNat i ≠ [] ∧ separator ∉ Text.ofNat i :=
        ⟨(Text.isDigits_iff.mp (Text.isDigits_ofNat i)).1, Text.separator_notMem_ofNat i⟩
      exact List.forall_mem_cons.mpr ⟨hname, ih (hitems _ (List.mem_of_getElem? h))⟩

/-- Segments lead to one value at most. -/
theorem unique (h : Leads v segments u) (hv : v.Everywhere DistinctKeys)
    (h' : Leads v segments w) : u = w := by
  induction h with
  | here v =>
      cases h'
      rfl
  | member h _ ih =>
      rcases everywhere_map.mp hv with ⟨hkeys, hmembers⟩
      cases h' with
      | member h' hrest =>
          obtain rfl := hkeys _ _ _ h h'
          exact ih (hmembers _ h) hrest
  | item hindex h _ ih =>
      have hitems := everywhere_list.mp hv
      cases h' with
      | item hindex' h' hrest =>
          obtain rfl := Text.ofNat_injective (hindex.symm.trans hindex')
          obtain rfl := Option.some.inj (h.symm.trans h')
          exact ih (hitems _ (List.mem_of_getElem? h)) hrest

end Leads

/-- The items of the lists in a tree can be looked up: their indices are not too long. -/
def Indexable (v : Value) : Prop :=
  ∀ segments items, v.Leads segments (list items) →
    ∀ i < items.length, (Text.ofNat i).length ≤ digitLimit

theorem Indexable.of_leads {v u : Value} {segments : List Text} (h : v.Indexable)
    (hu : v.Leads segments u) : u.Indexable :=
  fun _ items hitems => h _ items (hu.append hitems)

theorem indexable_of_isScalar {v : Value} (h : v.isScalar = true) : v.Indexable := by
  intro segments items hleads
  cases hleads with
  | here => cases h
  | member => cases h
  | item => cases h

theorem indexable_list {items : List Value}
    (hshort : ∀ i < items.length, (Text.ofNat i).length ≤ digitLimit)
    (h : ∀ v ∈ items, v.Indexable) : (list items).Indexable := by
  intro segments found hleads
  cases hleads with
  | here => exact hshort
  | item _ hitem hrest => exact h _ (List.mem_of_getElem? hitem) _ _ hrest

theorem indexable_map {entries : List (Value × Value)} (h : ∀ entry ∈ entries, entry.2.Indexable) :
    (map entries).Indexable := by
  intro segments found hleads
  cases hleads with
  | member hmember hrest => exact h _ hmember _ _ hrest

theorem mem_of_member? {entries : List (Value × Value)} {key : Text} {v : Value}
    (h : member? entries key = some v) : (text key, v) ∈ entries := by
  obtain ⟨⟨k, w⟩, hmem, hfound⟩ := List.exists_of_findSome?_eq_some h
  cases k with
  | text t =>
      simp only at hfound
      split at hfound
      · next ht =>
          cases hfound
          exact ht ▸ hmem
      · cases hfound
  | _ => cases hfound

/-- A plain tree that is not empty has a scalar in it. -/
theorem Plain.exists_leaf {v : Value} (hv : v.Plain) (hfull : v.isHollow = false) :
    ∃ segments leaf, v.Leads segments leaf ∧ leaf.isScalar = true := by
  induction hv with
  | text t => exact ⟨[], .text t, .here _, rfl⟩
  | bool b => exact ⟨[], .bool b, .here _, rfl⟩
  | int n h => exact ⟨[], .int n, .here _, rfl⟩
  | list items h hitems ih => cases items with
    | nil => cases hfull
    | cons v rest =>
        obtain ⟨segments, leaf, hleads, hleaf⟩ :=
          ih v List.mem_cons_self (hitems v List.mem_cons_self)
        exact ⟨_, leaf, .item rfl (List.getElem?_cons_zero) hleads, hleaf⟩
  | map entries hkeys h hmembers ih => cases entries with
    | nil => cases hfull
    | cons entry rest =>
        obtain ⟨key, v⟩ := entry
        obtain ⟨segments, leaf, hleads, hleaf⟩ :=
          ih _ List.mem_cons_self (hmembers _ List.mem_cons_self)
        obtain ⟨name, rfl, -, -⟩ := hkeys.segment _ List.mem_cons_self
        exact ⟨_, leaf, .member List.mem_cons_self hleads, hleaf⟩

end Value

namespace Document

open Value (Leads DistinctKeys Step leaves mem_of_member?)

/-! ## Lookups follow the segments -/

theorem member?_of_mem {entries : List (Value × Value)} (h : DistinctKeys entries) {key : Text}
    {v : Value} (hv : (.text key, v) ∈ entries) : Value.member? entries key = some v := by
  cases hfound : Value.member? entries key with
  | none =>
      have hnone := List.findSome?_eq_none_iff.mp hfound _ hv
      simp at hnone
  | some w => rw [h _ _ _ hv (mem_of_member? hfound)]

/-- A key leads a lookup to its member. -/
theorem descend?_member {entries : List (Value × Value)} (h : DistinctKeys entries) {key : Text}
    {v : Value} (hv : (.text key, v) ∈ entries) (rest : List Text) :
    descend? (key :: rest) (.map entries) = descend? rest v := by
  simp only [descend?, member?_of_mem h hv]

theorem element?_of_isDigits {α : Type} {items : List α} {segment : Text}
    (h : segment.isDigits = true) :
    element? items segment =
      if segment.length > digitLimit then .error (.integerTooLong (some segment.length))
      else .ok items[segment.toNat]? := by
  rw [element?, h]
  rfl

theorem element?_ofNat {α : Type} (items : List α) (i : Nat) :
    element? items (Text.ofNat i) =
      if (Text.ofNat i).length > digitLimit then
        .error (.integerTooLong (some (Text.ofNat i).length))
      else .ok items[i]? := by
  rw [element?_of_isDigits (Text.isDigits_ofNat i), Text.toNat_ofNat]

theorem item_of_element? {α : Type} {items : List α} {segment : Text} {a : α}
    (h : element? items segment = .ok (some a)) :
    segment.isDigits = true ∧ items[segment.toNat]? = some a := by
  unfold element? at h
  split at h
  · cases h
  · next hdigits =>
      split at h
      · cases h
      · exact ⟨by simpa using hdigits, Except.ok.inj h⟩

/-- An index that is not too long leads a lookup to its item. -/
theorem descend?_item {items : List Value} {i : Nat} {v : Value} (h : items[i]? = some v)
    (hshort : (Text.ofNat i).length ≤ digitLimit) (rest : List Text) :
    descend? (Text.ofNat i :: rest) (.list items) = descend? rest v := by
  simp only [descend?, element?_ofNat, gt_iff_lt, Nat.not_lt.mpr hshort, if_false, h]

/-- The index is not too long where a lookup passes by an item. -/
theorem length_le_of_descend? {items : List Value} {i : Nat} {rest : List Text}
    {found : Option Value} (h : descend? (Text.ofNat i :: rest) (.list items) = .ok found) :
    (Text.ofNat i).length ≤ digitLimit := by
  by_contra hlong
  simp only [descend?, element?_ofNat, gt_iff_lt, Nat.lt_of_not_le hlong, if_true] at h
  cases h

theorem descend?_nil {v : Value} (hv : v.isNull = false) : descend? [] v = .ok (some v) := by
  cases v <;> first | rfl | cases hv

/-- A lookup by segments and more goes on where the segments lead. -/
theorem descend?_append {v u : Value} {segments more : List Text} (h : Leads v segments u)
    (hv : v.Everywhere DistinctKeys) {found : Option Value}
    (hfound : descend? (segments ++ more) v = .ok found) : descend? more u = .ok found := by
  induction h with
  | here v => exact hfound
  | member h _ ih =>
      rcases Value.everywhere_map.mp hv with ⟨hkeys, hmembers⟩
      rw [List.cons_append, descend?_member hkeys h] at hfound
      exact ih (hmembers _ h) hfound
  | item hindex h _ ih =>
      have hitems := Value.everywhere_list.mp hv
      subst hindex
      rw [List.cons_append] at hfound
      rw [descend?_item h (length_le_of_descend? hfound)] at hfound
      exact ih (hitems _ (List.mem_of_getElem? h)) hfound

/-- A lookup that ends goes where the segments lead. -/
theorem found_of_leads {v u : Value} {segments : List Text} (h : Leads v segments u)
    (hv : v.Everywhere DistinctKeys) (hu : u.isNull = false) {found : Option Value}
    (hfound : descend? segments v = .ok found) : found = some u := by
  rw [← List.append_nil segments] at hfound
  have hhere := descend?_append h hv hfound
  rw [descend?_nil hu] at hhere
  exact (Except.ok.inj hhere).symm

/-- A lookup ends if no number in it is too long. -/
theorem exists_descend? : ∀ (segments : List Text) (v : Value),
    (∀ segment ∈ segments, segment.isDigits = true → segment.length ≤ digitLimit) →
      ∃ found, descend? segments v = .ok found
  | segments, v, hshort => by
      unfold descend?
      split
      · exact ⟨_, rfl⟩
      · exact ⟨_, rfl⟩
      · next segment rest entries =>
          cases Value.member? entries segment with
          | none => exact ⟨_, rfl⟩
          | some w => exact exists_descend? rest w fun s hs => hshort s (List.mem_cons_of_mem _ hs)
      · next segment rest items =>
          cases helement : element? items segment with
          | error f =>
              unfold element? at helement
              split at helement
              · cases helement
              · next hdigits =>
                  have hle := hshort segment List.mem_cons_self (by simpa using hdigits)
                  rw [if_neg (Nat.not_lt.mpr hle)] at helement
                  cases helement
          | ok found => cases found with
            | none => exact ⟨_, rfl⟩
            | some w =>
                exact exists_descend? rest w fun s hs => hshort s (List.mem_cons_of_mem _ hs)
      · exact ⟨_, rfl⟩

/-- A lookup goes where the segments lead, if the indices of lists are not too long. -/
theorem descend?_of_leads {v u : Value} {segments : List Text} (h : Leads v segments u)
    (hv : v.Everywhere DistinctKeys) (hu : u.isNull = false) (hindexable : v.Indexable) :
    descend? segments v = .ok (some u) := by
  induction h with
  | here v => exact descend?_nil hu
  | member h _ ih =>
      rcases Value.everywhere_map.mp hv with ⟨hkeys, hmembers⟩
      rw [descend?_member hkeys h]
      exact ih (hmembers _ h) hu (hindexable.of_leads (.member h (.here _)))
  | item hindex h _ ih =>
      have hitems := Value.everywhere_list.mp hv
      subst hindex
      have hlt := (List.getElem?_eq_some_iff.mp h).1
      rw [descend?_item h (hindexable [] _ (.here _) _ hlt)]
      exact ih (hitems _ (List.mem_of_getElem? h)) hu
        (hindexable.of_leads (.item rfl h (.here _)))

/-! ## Segments as they are written -/

/-- The segments with indices as numbers are written.  A segment that is all digits is an
index where a lookup comes by a list, and a key like any other where it comes by a mapping. -/
def canonical : Value → List Text → List Text
  | .map entries, segment :: rest =>
      segment :: match Value.member? entries segment with
        | some v => canonical v rest
        | none => rest
  | .list items, segment :: rest =>
      if segment.isDigits then
        Text.ofNat segment.toNat :: match items[segment.toNat]? with
          | some v => canonical v rest
          | none => rest
      else segment :: rest
  | _, segments => segments

/-- A value is found where the segments lead with the indices as they are written. -/
theorem leads_canonical : ∀ {segments : List Text} {v u : Value},
    descend? segments v = .ok (some u) → Leads v (canonical v segments) u
  | segments, v, u, h => by
      unfold descend? at h
      split at h
      · cases h
      · cases h
        cases v <;> exact .here _
      · split at h
        · cases h
        · next w hw =>
            rw [canonical, hw]
            exact .member (mem_of_member? hw) (leads_canonical h)
      · next segment rest items =>
          split at h
          · cases h
          · cases h
          · next w hw =>
              rcases item_of_element? hw with ⟨hdigits, hitem⟩
              rw [canonical, if_pos hdigits, hitem]
              exact .item rfl hitem (leads_canonical h)
      · cases h

/-- A lookup that ends goes where the segments lead with the indices as they are written. -/
theorem found_of_leads_canonical : ∀ {segments : List Text} {v u : Value},
    Leads v (canonical v segments) u → v.Everywhere DistinctKeys → u.isNull = false →
      ∀ {found}, descend? segments v = .ok found → found = some u
  | [], v, u, h, _, hu, found, hfound => by
      have hnil : canonical v [] = [] := by
        cases v <;> rfl
      rw [hnil] at h
      cases h
      exact (Except.ok.inj ((descend?_nil hu).symm.trans hfound)).symm
  | segment :: rest, v, u, h, hv, hu, found, hfound => by
      cases v with
      | map entries =>
          rcases Value.everywhere_map.mp hv with ⟨hkeys, hmembers⟩
          rw [canonical] at h
          cases h with
          | member hmember hrest =>
              rw [member?_of_mem hkeys hmember] at hrest
              rw [descend?_member hkeys hmember] at hfound
              exact found_of_leads_canonical hrest (hmembers _ hmember) hu hfound
      | list items =>
          have hitems := Value.everywhere_list.mp hv
          rw [canonical] at h
          split at h
          · next hdigits =>
              cases h with
              | item hindex hitem hrest =>
                  obtain rfl := Text.ofNat_injective hindex
                  rw [hitem] at hrest
                  by_cases hlong : segment.length > digitLimit
                  · simp only [descend?, element?_of_isDigits hdigits, hlong, if_true] at hfound
                    cases hfound
                  · simp only [descend?, element?_of_isDigits hdigits, hlong, if_false,
                      hitem] at hfound
                    exact found_of_leads_canonical hrest (hitems _ (List.mem_of_getElem? hitem)) hu
                      hfound
          · next hdigits =>
              cases h with
              | item hindex _ _ => exact absurd (hindex ▸ Text.isDigits_ofNat _) hdigits
      | _ => cases h

theorem separator_notMem_canonical : ∀ {segments : List Text},
    (∀ segment ∈ segments, separator ∉ segment) →
      ∀ v, ∀ segment ∈ canonical v segments, separator ∉ segment
  | [], h, v => by cases v <;> exact h
  | segment :: rest, h, v => by
      rcases List.forall_mem_cons.mp h with ⟨hsegment, hrest⟩
      cases v with
      | map entries =>
          rw [canonical]
          refine List.forall_mem_cons.mpr ⟨hsegment, ?_⟩
          cases Value.member? entries segment with
          | none => exact hrest
          | some w => exact separator_notMem_canonical hrest w
      | list items =>
          rw [canonical]
          split
          · refine List.forall_mem_cons.mpr ⟨Text.separator_notMem_ofNat _, ?_⟩
            cases items[segment.toNat]? with
            | none => exact hrest
            | some w => exact separator_notMem_canonical hrest w
          · exact h
      | _ => exact h

theorem canonical_ne_nil {segments : List Text} (h : segments ≠ []) (v : Value) :
    canonical v segments ≠ [] := by
  unfold canonical
  split
  · simp
  · split <;> simp
  · exact h

/-- The segments stay as they are if indices are written as numbers are. -/
theorem canonical_eq : ∀ {segments : List Text},
    (∀ segment ∈ segments, segment.isDigits = true → ∃ n, segment = Text.ofNat n) →
      ∀ v, canonical v segments = segments
  | [], _, v => by cases v <;> rfl
  | segment :: rest, hindices, v => by
      have hrest : ∀ w, canonical w rest = rest :=
        canonical_eq fun s hs => hindices s (List.mem_cons_of_mem _ hs)
      cases v with
      | map entries =>
          rw [canonical]
          cases Value.member? entries segment with
          | none => rfl
          | some w => exact congrArg (segment :: ·) (hrest w)
      | list items =>
          rw [canonical]
          split
          · next hdigits =>
              rcases hindices segment List.mem_cons_self hdigits with ⟨n, rfl⟩
              rw [Text.toNat_ofNat]
              cases items[n]? with
              | none => rfl
              | some w => exact congrArg (Text.ofNat n :: ·) (hrest w)
          · rfl
      | _ => rfl

/-- A value is found where the segments lead, if its indices are written as numbers are. -/
theorem leads_of_descend? {segments : List Text} {v u : Value}
    (h : descend? segments v = .ok (some u))
    (hindices : ∀ segment ∈ segments, segment.isDigits = true → ∃ n, segment = Text.ofNat n) :
    Leads v segments u := by
  have hleads := leads_canonical h
  rwa [canonical_eq hindices] at hleads

/-! ## Paths of leaves -/

/-- Segments lead where steps lead that are written like them, if the keys are texts. -/
theorem leads_of_reaches {v u : Value} {steps : List Step} (h : v.Reaches steps u)
    (hkeys : ∀ k, Step.key k ∈ steps → ∃ name, k = .text name) :
    ∃ segments, Leads v segments u ∧ steps.map stepText? = segments.map some := by
  induction h with
  | here v => exact ⟨[], .here v, rfl⟩
  | member h _ ih =>
      rcases ih fun k hk => hkeys k (List.mem_cons_of_mem _ hk) with ⟨segments, hleads, heq⟩
      rcases hkeys _ List.mem_cons_self with ⟨name, rfl⟩
      exact ⟨name :: segments, .member h hleads, congrArg (some name :: ·) heq⟩
  | @item items i v u rest h _ ih =>
      rcases ih fun k hk => hkeys k (List.mem_cons_of_mem _ hk) with ⟨segments, hleads, heq⟩
      exact ⟨Text.ofNat i :: segments, .item rfl h hleads, congrArg (_ :: ·) heq⟩

theorem reaches_of_leads {v u : Value} {segments : List Text} (h : Leads v segments u) :
    ∃ steps, v.Reaches steps u ∧ steps.map stepText? = segments.map some := by
  induction h with
  | here v => exact ⟨[], .here v, rfl⟩
  | @member entries key v u rest h _ ih =>
      rcases ih with ⟨steps, hreaches, heq⟩
      exact ⟨.key (.text key) :: steps, .member h hreaches, congrArg (some key :: ·) heq⟩
  | @item items i segment v u rest hindex h _ ih =>
      rcases ih with ⟨steps, hreaches, heq⟩
      subst hindex
      exact ⟨.index i :: steps, .item h hreaches, congrArg (_ :: ·) heq⟩

theorem spell_eq {steps : List Step} {segments : List Text}
    (h : steps.map stepText? = segments.map some) (path : Text) :
    spell path steps = some (segments.foldl extend path) := by
  induction steps generalizing segments path with
  | nil => cases segments with
    | nil => rfl
    | cons => cases h
  | cons step rest ih => cases segments with
    | nil => cases h
    | cons segment more =>
        rw [List.map_cons, List.map_cons, List.cons.injEq] at h
        rw [spell, h.1, Option.bind_some, ih h.2, List.foldl_cons]

/-- A path with segments behind it is cut into its segments and these. -/
theorem splitOn_foldl_extend {path : Text} (hpath : path ≠ []) {segments : List Text}
    (h : ∀ segment ∈ segments, separator ∉ segment) :
    (segments.foldl extend path).splitOn separator = path.splitOn separator ++ segments := by
  induction segments generalizing path with
  | nil => exact (List.append_nil _).symm
  | cons segment rest ih =>
      rcases List.forall_mem_cons.mp h with ⟨hsegment, hrest⟩
      have hextend : extend path segment = path ++ separator :: segment := by
        simp [extend, hpath]
      rw [List.foldl_cons, hextend, ih (by simp) hrest, Text.splitOn_append_separator,
        Text.splitOn_of_not_mem hsegment, List.append_assoc]
      rfl

/-- Segments of paths, the first one not empty, are found again in the path that they spell. -/
theorem exists_spelled {steps : List Step} {segments : List Text}
    (heq : steps.map stepText? = segments.map some) (hne : segments ≠ [])
    (hhead : segments.head? ≠ some []) (h : ∀ segment ∈ segments, separator ∉ segment) :
    ∃ key, spell [] steps = some key ∧ key ≠ [] ∧ key.splitOn separator = segments := by
  cases segments with
  | nil => exact absurd rfl hne
  | cons segment rest =>
      rcases List.forall_mem_cons.mp h with ⟨hsegment, hrest⟩
      have hfirst : segment ≠ [] := fun hnil => hhead (congrArg some hnil)
      have hsplit : ((segment :: rest).foldl extend []).splitOn separator = segment :: rest := by
        have hextend : extend [] segment = segment := rfl
        rw [List.foldl_cons, hextend, splitOn_foldl_extend hfirst hrest,
          Text.splitOn_of_not_mem hsegment]
        rfl
      refine ⟨_, spell_eq heq [], fun hnil => ?_, hsplit⟩
      rw [hnil] at hsplit
      cases hsplit
      exact hfirst rfl

section Keyed

variable {entries : List (Value × Value)} (h : (Value.map entries).Keyed)
include h

/-- A walk into a keyed tree is spelled by a path that leads there. -/
theorem listed_of_reaches {steps : List Step} {u : Value}
    (hreaches : (Value.map entries).Reaches steps u) (hleaf : u.isLeaf = true) :
    ∃ key, listed? [] (steps, u) = some key ∧ Leads (.map entries) (key.splitOn separator) u ∧
      steps.map stepText? = (key.splitOn separator).map some := by
  rcases leads_of_reaches hreaches (h.texts hreaches) with ⟨segments, hleads, heq⟩
  have hsegments := hleads.segment h
  have hne : segments ≠ [] := by
    rintro rfl
    cases hleads
    cases hleaf
  have hhead : segments.head? ≠ some [] := fun hnil =>
    (hsegments [] (List.mem_of_mem_head? hnil)).1 rfl
  rcases exists_spelled heq hne hhead fun s hs => (hsegments s hs).2 with ⟨key, hspell, hkey, rfl⟩
  refine ⟨key, ?_, hleads, heq⟩
  rw [listed?, hspell, Option.filter_eq_some_iff]
  exact ⟨rfl, decide_eq_true hkey⟩

/-- The paths of a keyed document are those that lead to leaves. -/
theorem mem_listed_of_keyed {key : Text} :
    key ∈ (leaves (.map entries)).filterMap (listed? []) ↔
      ∃ leaf, Leads (.map entries) (key.splitOn separator) leaf ∧ leaf.isLeaf = true := by
  rw [List.mem_filterMap]
  constructor
  · rintro ⟨⟨steps, leaf⟩, hmem, hlisted⟩
    rcases Value.mem_leaves.mp hmem with ⟨hreaches, hleaf⟩
    rcases listed_of_reaches h hreaches hleaf with ⟨listed, hlisted', hleads, -⟩
    obtain rfl := Option.some.inj (hlisted.symm.trans hlisted')
    exact ⟨leaf, hleads, hleaf⟩
  · rintro ⟨leaf, hleads, hleaf⟩
    rcases reaches_of_leads hleads with ⟨steps, hreaches, heq⟩
    rcases listed_of_reaches h hreaches hleaf with ⟨listed, hlisted, -, heq'⟩
    have hsplit : key.splitOn separator = listed.splitOn separator :=
      List.map_injective_iff.mpr (fun _ _ => Option.some.inj) (heq.symm.trans heq')
    obtain rfl := Text.splitOn_injective hsplit
    exact ⟨(steps, leaf), Value.mem_leaves.mpr ⟨hreaches, hleaf⟩, hlisted⟩

end Keyed

end Document

/-- The keys of a keyed document are the paths that lead to its leaves. -/
theorem Source.keys_of_keyed {entries : List (Value × Value)} (h : (Value.map entries).Keyed)
    (origin : Text) :
    ∃ keys, (ofDocument origin entries).keys = .ok keys ∧ ∀ key, key ∈ keys ↔
      ∃ leaf, Value.Leads (.map entries) (key.splitOn separator) leaf ∧ leaf.isLeaf = true := by
  refine ⟨_, keys_ofDocument_eq_ok.mpr ⟨h.named, rfl⟩, fun key => ?_⟩
  exact List.mem_mergeSort.trans (Document.mem_listed_of_keyed h)

end ConfigReader
