import ConfigReader.CommandLine.Report
import ConfigReader.Proofs.JsonGrammar
import Mathlib.Data.List.Basic

/-!
# Trees written as JSON

A value is turned into a tree that JSON has forms for, and the tree is written.  The floating point
numbers of the tree are all shown in the value (`Value.isTree_tree?`).  A tree is written as JSON
exactly if its floating point numbers are finite (`Json.isJson_render?_iff`): any other one leaves a
stray letter.  What may be missing is the text of an integer that is too long.  A value that can be
quoted in a message has none, and then its tree can be written (`Value.prints_of_quoted`).
-/

namespace ConfigReader

/-! ## Parts of values -/

namespace Value

/-- The values within a value that are shown by themselves: items, and values of members. -/
def parts : Value → List Value
  | list items => items
  | tuple items => items
  | map entries => entries.map Prod.snd
  | record _ fields => fields.map Prod.snd
  | _ => []

/-- The values that are quoted within the quoted text of a value. -/
def quotedParts : Value → List Value
  | list items => items
  | tuple items => items
  | map entries => entries.flatMap fun (key, v) => [key, v]
  | set items => items
  | record _ fields => fields.map Prod.snd
  | boxed _ inner => [inner]
  | _ => []

theorem sizeOf_lt_of_mem_snd {α : Type} [SizeOf α] {w : Value} {entries : List (α × Value)}
    (h : w ∈ entries.map Prod.snd) : sizeOf w < sizeOf entries := by
  obtain ⟨⟨key, w⟩, hmem, rfl⟩ := List.mem_map.mp h
  have hlt : sizeOf (key, w) < sizeOf entries := List.sizeOf_lt_of_mem hmem
  rw [Prod.mk.sizeOf_spec] at hlt
  exact lt_of_le_of_lt (Nat.le_add_left _ _) hlt

theorem mem_quotedParts_map {entries : List (Value × Value)} {w : Value} :
    w ∈ (map entries).quotedParts ↔ ∃ entry ∈ entries, w = entry.1 ∨ w = entry.2 := by
  rw [quotedParts, List.mem_flatMap]
  exact exists_congr fun entry => and_congr_right fun _ => List.mem_pair

theorem sizeOf_lt_of_mem_quotedParts {v w : Value} (h : w ∈ v.quotedParts) :
    sizeOf w < sizeOf v := by
  cases v with
  | list items | tuple items | set items =>
      have hlt : sizeOf w < sizeOf items := List.sizeOf_lt_of_mem h
      simp only [list.sizeOf_spec, tuple.sizeOf_spec, set.sizeOf_spec]
      omega
  | map entries =>
      obtain ⟨⟨key, x⟩, hentry, hw⟩ := mem_quotedParts_map.mp h
      have hlt : sizeOf (key, x) < sizeOf entries := List.sizeOf_lt_of_mem hentry
      rw [Prod.mk.sizeOf_spec] at hlt
      rw [map.sizeOf_spec]
      obtain rfl | rfl := hw <;> omega
  | record type fields =>
      have hlt := sizeOf_lt_of_mem_snd h
      rw [record.sizeOf_spec]
      omega
  | boxed type inner =>
      rw [List.mem_singleton.mp h, boxed.sizeOf_spec]
      omega
  | _ => cases h

/-- What holds of a value if it holds of what is quoted within it holds of every value. -/
@[elab_as_elim]
theorem quotedParts_induction {motive : Value → Prop}
    (step : ∀ v, (∀ w ∈ v.quotedParts, motive w) → motive v) (v : Value) : motive v :=
  step v fun w _ => quotedParts_induction step w
termination_by sizeOf v
decreasing_by exact sizeOf_lt_of_mem_quotedParts ‹_›

/-- What is shown by itself is quoted within the quoted text. -/
theorem mem_quotedParts_of_mem_parts {v w : Value} (h : w ∈ v.parts) : w ∈ v.quotedParts := by
  cases v with
  | list | tuple | record => exact h
  | map entries =>
      obtain ⟨entry, hentry, rfl⟩ := List.mem_map.mp h
      exact mem_quotedParts_map.mpr ⟨entry, hentry, .inr rfl⟩
  | _ => cases h

/-- What holds of a value if it holds of its parts holds of every value. -/
@[elab_as_elim]
theorem parts_induction {motive : Value → Prop}
    (step : ∀ v, (∀ w ∈ v.parts, motive w) → motive v) (v : Value) : motive v := by
  induction v using quotedParts_induction with
  | step v ih => exact step v fun w hw => ih w (mem_quotedParts_of_mem_parts hw)

/-- A floating point number is shown in a value: it is the value, or shown in a part. -/
inductive Shows : Value → Binary64 → Prop
  /-- The number by itself. -/
  | here (x : Binary64) : Shows (float x) x
  /-- A number in a part. -/
  | part {v w : Value} {x : Binary64} (h : w ∈ v.parts) (hx : Shows w x) : Shows v x

/-- A tree that JSON has forms for: members have texts for names, and floating point numbers a
property. -/
inductive IsTree (P : Binary64 → Prop) : Value → Prop
  | null : IsTree P null
  | bool (b : Bool) : IsTree P (bool b)
  | int (n : Int) : IsTree P (int n)
  | float {x : Binary64} (h : P x) : IsTree P (float x)
  | text (t : Text) : IsTree P (text t)
  | list {items : List Value} (h : ∀ v ∈ items, IsTree P v) : IsTree P (list items)
  | map {entries : List (Value × Value)} (hnames : ∀ entry ∈ entries, ∃ t, entry.1 = .text t)
      (h : ∀ entry ∈ entries, IsTree P entry.2) : IsTree P (map entries)

theorem IsTree.mono {P Q : Binary64 → Prop} (hPQ : ∀ x, P x → Q x) {v : Value} (h : v.IsTree P) :
    v.IsTree Q := by
  induction h with
  | null => exact .null
  | bool b => exact .bool b
  | int n => exact .int n
  | float h => exact .float (hPQ _ h)
  | text t => exact .text t
  | list _ ih => exact .list ih
  | map hnames _ ih => exact .map hnames ih

/-- Entries with texts for keys, and with values that have a property. -/
def Titled (P : Value → Prop) (entries : List (Value × Value)) : Prop :=
  ∀ entry ∈ entries, (∃ name, entry.1 = text name) ∧ P entry.2

theorem Titled.insert {P : Value → Prop} {entries : List (Value × Value)} {key value : Value}
    (h : Titled P entries) (hkey : ∃ name, key = text name) (hvalue : P value) :
    Titled P (insert entries key value) := by
  induction entries with
  | nil => exact List.forall_mem_singleton.mpr ⟨hkey, hvalue⟩
  | cons entry rest ih =>
      obtain ⟨hentry, hrest⟩ := List.forall_mem_cons.mp h
      rw [Value.insert]
      split
      · exact List.forall_mem_cons.mpr ⟨⟨hentry.1, hvalue⟩, hrest⟩
      · exact List.forall_mem_cons.mpr ⟨hentry, ih hrest⟩

/-- Pairs that override each other. -/
theorem Titled.ofPairs {P : Value → Prop} {pairs : List (Value × Value)} (h : Titled P pairs) :
    ∃ entries, ofPairs pairs = map entries ∧ Titled P entries := by
  have hnil : Titled P [] := nofun
  refine ⟨_, rfl, List.foldlRecOn (motive := Titled P) pairs _ hnil ?_⟩
  intro entries hentries pair hpair
  exact hentries.insert (h pair hpair).1 (h pair hpair).2

end Value

/-! ## Lists of results -/

theorem isSome_bind_map {α β γ : Type} (x : Option α) (y : Option β) (f : α → β → γ) :
    (x.bind fun a => y.map (f a)).isSome = (x.isSome && y.isSome) := by
  cases x <;> simp

/-- A function of lists collects the results of a function, if there is one for each item. -/
structure Collects {α β : Type} (f : α → Option β) (g : List α → Option (List β)) : Prop where
  /-- There is nothing to collect. -/
  nil : g [] = some []
  /-- The first result, and the results behind it. -/
  cons : ∀ a l, g (a :: l) = (f a).bind fun b => (g l).map (b :: ·)

namespace Collects

variable {α β : Type} {f : α → Option β} {g : List α → Option (List β)} (h : Collects f g)

include h

/-- Items and their results, one by one. -/
theorem exists_pairs {l : List α} {results : List β} (hl : g l = some results) :
    ∃ pairs : List (α × β), pairs.map Prod.fst = l ∧ pairs.map Prod.snd = results ∧
      ∀ p ∈ pairs, f p.1 = some p.2 := by
  induction l generalizing results with
  | nil =>
      rw [h.nil] at hl
      cases hl
      exact ⟨[], rfl, rfl, nofun⟩
  | cons a l ih =>
      rw [h.cons] at hl
      obtain ⟨b, hb, hl⟩ := Option.bind_eq_some_iff.mp hl
      obtain ⟨rest, hrest, rfl⟩ := Option.map_eq_some_iff.mp hl
      obtain ⟨pairs, rfl, rfl, hpairs⟩ := ih hrest
      exact ⟨(a, b) :: pairs, rfl, rfl, List.forall_mem_cons.mpr ⟨hb, hpairs⟩⟩

/-- The results of items are collected. -/
theorem of_pairs {pairs : List (α × β)} (hpairs : ∀ p ∈ pairs, f p.1 = some p.2) :
    g (pairs.map Prod.fst) = some (pairs.map Prod.snd) := by
  induction pairs with
  | nil => exact h.nil
  | cons p pairs ih =>
      obtain ⟨hp, hpairs⟩ := List.forall_mem_cons.mp hpairs
      rw [List.map_cons, h.cons, hp, ih hpairs]
      rfl

/-- Results and items belong to each other. -/
theorem mem {l : List α} {results : List β} (hl : g l = some results) :
    (∀ b ∈ results, ∃ a ∈ l, f a = some b) ∧ ∀ a ∈ l, ∃ b ∈ results, f a = some b := by
  obtain ⟨pairs, rfl, rfl, hpairs⟩ := h.exists_pairs hl
  constructor <;> refine List.forall_mem_map.mpr fun p hp => ?_
  · exact ⟨p.1, List.mem_map_of_mem hp, hpairs p hp⟩
  · exact ⟨p.2, List.mem_map_of_mem hp, hpairs p hp⟩

/-- What holds of the results of all items holds of what is collected. -/
theorem forall_of_forall {P : β → Prop} {l : List α} {results : List β} (hl : g l = some results)
    (hP : ∀ a ∈ l, ∀ b, f a = some b → P b) : ∀ b ∈ results, P b := by
  intro b hb
  obtain ⟨a, ha, hab⟩ := (h.mem hl).1 b hb
  exact hP a ha b hab

theorem isSome_iff {l : List α} : (g l).isSome = true ↔ ∀ a ∈ l, (f a).isSome = true := by
  induction l with
  | nil => simp [h.nil]
  | cons a l ih =>
      rw [h.cons, List.forall_mem_cons, ← ih]
      cases f a <;> simp

end Collects

/-! ## Trees of values -/

namespace Value

theorem collects_treeItems? : Collects tree? treeItems? :=
  ⟨by rw [treeItems?], fun v rest => by rw [treeItems?]⟩

theorem collects_treeEntries? : Collects
    (fun entry : Value × Value => entry.1.plain?.bind fun name =>
      entry.2.tree?.map fun w => (text name, w)) treeEntries? := by
  refine ⟨by rw [treeEntries?], fun (key, v) rest => ?_⟩
  rw [treeEntries?]
  cases key.plain? with
  | none => rfl
  | some name => cases v.tree? <;> rfl

theorem collects_treeFields? : Collects
    (fun field : Text × Value => field.2.tree?.map fun w => (text field.1, w)) treeFields? := by
  refine ⟨by rw [treeFields?], fun (name, v) rest => ?_⟩
  rw [treeFields?]
  cases v.tree? <;> rfl

/-- Trees of entries have the texts of the keys for names. -/
theorem titled_treeEntries? {P : Value → Prop} {entries pairs : List (Value × Value)}
    (hpairs : treeEntries? entries = some pairs)
    (h : ∀ entry ∈ entries, ∀ w, entry.2.tree? = some w → P w) : Titled P pairs := by
  refine collects_treeEntries?.forall_of_forall hpairs fun entry hentry pair hpair => ?_
  obtain ⟨name, -, hpair⟩ := Option.bind_eq_some_iff.mp hpair
  obtain ⟨w, hw, rfl⟩ := Option.map_eq_some_iff.mp hpair
  exact ⟨⟨name, rfl⟩, h entry hentry w hw⟩

/-- Trees of fields have the names of the fields. -/
theorem titled_treeFields? {P : Value → Prop} {fields : List (Text × Value)}
    {entries : List (Value × Value)} (hentries : treeFields? fields = some entries)
    (h : ∀ field ∈ fields, ∀ w, field.2.tree? = some w → P w) : Titled P entries := by
  refine collects_treeFields?.forall_of_forall hentries fun field hfield entry hentry => ?_
  obtain ⟨w, hw, rfl⟩ := Option.map_eq_some_iff.mp hentry
  exact ⟨⟨field.1, rfl⟩, h field hfield w hw⟩

theorem Titled.isTree {P : Binary64 → Prop} {entries : List (Value × Value)}
    (h : Titled (IsTree P) entries) : (map entries).IsTree P :=
  .map (fun entry hentry => (h entry hentry).1) fun entry hentry => (h entry hentry).2

/-- The tree of a value has forms in JSON.  Its floating point numbers are shown in the value. -/
theorem isTree_tree? {v tree : Value} (h : v.tree? = some tree) : tree.IsTree v.Shows := by
  induction v using parts_induction generalizing tree with
  | step v ih =>
      have hpart : ∀ {w found : Value}, w ∈ v.parts → w.tree? = some found →
          found.IsTree v.Shows := fun hw hfound =>
        (ih _ hw hfound).mono fun _ hx => .part hw hx
      cases v with
      | null =>
          cases h
          exact .null
      | bool b =>
          cases h
          exact .bool b
      | int n =>
          cases h
          exact .int n
      | float x =>
          cases h
          exact .float (.here x)
      | text t =>
          cases h
          exact .text t
      | list items =>
          rw [tree?] at h
          obtain ⟨trees, htrees, rfl⟩ := Option.map_eq_some_iff.mp h
          exact .list (collects_treeItems?.forall_of_forall htrees fun w hw _ => hpart hw)
      | tuple items =>
          rw [tree?] at h
          obtain ⟨trees, htrees, rfl⟩ := Option.map_eq_some_iff.mp h
          exact .list (collects_treeItems?.forall_of_forall htrees fun w hw _ => hpart hw)
      | map entries =>
          rw [tree?] at h
          obtain ⟨pairs, hpairs, rfl⟩ := Option.map_eq_some_iff.mp h
          have htitled := titled_treeEntries? hpairs fun entry hentry w =>
            hpart (List.mem_map_of_mem hentry)
          obtain ⟨found, hfound, htitled⟩ := htitled.ofPairs
          rw [hfound]
          exact htitled.isTree
      | record type fields =>
          rw [tree?] at h
          obtain ⟨found, hfound, rfl⟩ := Option.map_eq_some_iff.mp h
          have htitled := titled_treeFields? hfound fun field hfield w =>
            hpart (List.mem_map_of_mem hfield)
          exact htitled.isTree
      | _ =>
          simp only [tree?, Option.map_eq_some_iff] at h
          obtain ⟨t, -, rfl⟩ := h
          exact .text t

end Value

/-! ## Trees written -/

namespace Json

open Value

section Layouts

variable {layout : Layout} {depth : Nat}

theorem isSpace_append {s t : Text} (hs : IsSpace s) (ht : IsSpace t) : IsSpace (s ++ t) :=
  List.forall_mem_append.mpr ⟨hs, ht⟩

theorem isSpace_lineEnd (layout : Layout) (depth : Nat) : IsSpace (layout.lineEnd depth) := by
  cases layout with
  | compact => exact nofun
  | indented =>
      have hbreak : IsSpace "\n" := by decide
      refine isSpace_append hbreak fun c hc => ?_
      obtain ⟨space, hspace, hc⟩ := List.mem_flatten.mp hc
      rw [List.eq_of_mem_replicate hspace] at hc
      rw [List.mem_singleton.mp hc]
      decide

/-- Behind a colon stands space. -/
theorem exists_space_of_colon (layout : Layout) :
    ∃ space, IsSpace space ∧ layout.colon = ":" ++ space := by
  cases layout with
  | compact => exact ⟨[], nofun, rfl⟩
  | indented => exact ⟨" ", by decide, rfl⟩

/-- Parts with space between them are parts with space around them. -/
theorem exists_padded {α : Type} (f : α → Text) (before after : Text) : ∀ {l : List α}, l ≠ [] →
    ∃ padded : List (α × Text), padded.map Prod.fst = l ∧
      (∀ p ∈ padded, p.2 = [] ∨ p.2 = after) ∧
      before ++ (Text.join ("," ++ before) (l.map f) ++ after) =
        Text.join "," (padded.map fun p => before ++ (f p.1 ++ p.2))
  | [], hne => absurd rfl hne
  | [a], _ => ⟨[(a, after)], rfl, fun _ hp => .inr (congrArg Prod.snd (List.mem_singleton.mp hp)),
      rfl⟩
  | a :: next :: rest, _ => by
      obtain ⟨padded, hparts, hspace, hjoin⟩ :=
        exists_padded f before after (List.cons_ne_nil next rest)
      refine ⟨(a, []) :: padded, congrArg _ hparts, List.forall_mem_cons.mpr ⟨.inl rfl, hspace⟩, ?_⟩
      match padded, hparts with
      | (b, space) :: padded, _ =>
          simp only [List.map_cons, Text.join] at hjoin ⊢
          rw [← hjoin]
          simp only [List.append_assoc, List.append_nil]

/-- Parts are laid out between commas, in their order, with space around them. -/
theorem exists_padded_of_enclose {α : Type} (f : α → Text) (left right : Text) {l : List α}
    (hne : l ≠ []) : ∃ (before : Text) (padded : List (α × Text)), IsSpace before ∧
      padded.map Prod.fst = l ∧ (∀ p ∈ padded, IsSpace p.2) ∧
      enclose layout depth left right (l.map f) =
        left ++ (Text.join "," (padded.map fun p => before ++ (f p.1 ++ p.2)) ++ right) := by
  obtain ⟨padded, hparts, hspace, hjoin⟩ :=
    exists_padded f (layout.lineEnd (depth + 1)) (layout.lineEnd depth) hne
  refine ⟨_, padded, isSpace_lineEnd layout (depth + 1), hparts, fun p hp => ?_, ?_⟩
  · obtain h | h := hspace p hp
    · rw [h]
      exact nofun
    · rw [h]
      exact isSpace_lineEnd _ _
  · rw [enclose, if_neg (by simpa using hne), ← hjoin]
    simp only [List.append_assoc]

/-- Texts of items are laid out as an array. -/
theorem isJson_items {ts : List Text} (h : ∀ t ∈ ts, IsJson t) :
    IsJson (enclose layout depth "[" "]" ts) := by
  by_cases hne : ts = []
  · rw [hne]
    exact @IsJson.noItems [] nofun
  · obtain ⟨before, padded, hbefore, rfl, hafter, henclose⟩ :=
      @exists_padded_of_enclose layout depth _ (fun t => t) "[" "]" ts hne
    rw [List.map_id'] at henclose
    rw [henclose]
    refine .items (by simpa using hne) (List.forall_mem_map.mpr fun p hp => ?_)
    exact .spaced hbefore (h p.1 (List.mem_map_of_mem hp)) (hafter p hp)

/-- Names and texts are laid out as an object. -/
theorem isJson_members {ms : List (Text × Text)} (h : ∀ m ∈ ms, IsJson m.2) :
    IsJson (enclose layout depth "\x7b" "\x7d"
      (ms.map fun (name, t) => quote name ++ layout.colon ++ t)) := by
  by_cases hne : ms = []
  · rw [hne]
    exact @IsJson.noMembers [] nofun
  · obtain ⟨before, padded, hbefore, rfl, hafter, henclose⟩ :=
      @exists_padded_of_enclose layout depth _
        (fun m : Text × Text => quote m.1 ++ layout.colon ++ m.2) "\x7b" "\x7d" ms hne
    obtain ⟨space, hspace, hcolon⟩ := exists_space_of_colon layout
    -- a name takes the space in front of it, and a value the space around it
    have hsplit : (padded.map fun p => before ++ (quote p.1.1 ++ layout.colon ++ p.1.2 ++ p.2)) =
        (padded.map fun p => (before ++ (quote p.1.1 ++ []), space ++ (p.1.2 ++ p.2))).map
          fun m : Text × Text => m.1 ++ (":" ++ m.2) := by
      simp only [List.map_map, Function.comp_def, hcolon, List.append_assoc, List.append_nil]
    rw [henclose, hsplit]
    refine .members (by simpa using hne) ?_ ?_ <;> refine List.forall_mem_map.mpr fun p hp => ?_
    · exact ⟨before, quote p.1.1, [], hbefore, isString_quote _, nofun, rfl⟩
    · exact .spaced hspace (h p.1 (List.mem_map_of_mem hp)) (hafter p hp)

/-- A stray letter in a part is one of the whole. -/
theorem isStray_enclose {left right : Text} (hleft : IsClean left) {parts : List Text}
    (h : ∀ t ∈ parts, IsClean t ∨ IsStray t) (hstray : ∃ t ∈ parts, IsStray t) :
    IsStray (enclose layout depth left right parts) := by
  have hne : ¬ parts.isEmpty = true := by
    obtain ⟨t, ht, -⟩ := hstray
    simpa using List.ne_nil_of_mem ht
  have hend := isClean_of_isSpace (isSpace_lineEnd layout (depth + 1))
  have hcomma : IsClean "," := isClean_of_bare (by decide)
  rw [enclose, if_neg hne]
  exact (((hleft.append hend).append_stray (isStray_join (hcomma.append hend) h hstray)).append
    _).append _

theorem collects_renderItems? (layout : Layout) (depth : Nat) :
    Collects (render? layout depth) (renderItems? layout depth) :=
  ⟨by rw [renderItems?], fun v rest => by rw [renderItems?]⟩

theorem collects_renderMembers? (layout : Layout) (depth : Nat) : Collects
    (fun entry : Value × Value => entry.1.plain?.bind fun name =>
      (render? layout depth entry.2).map fun t => (name, t)) (renderMembers? layout depth) := by
  refine ⟨by rw [renderMembers?], fun (key, v) rest => ?_⟩
  rw [renderMembers?]
  cases key.plain? with
  | none => rfl
  | some name => cases render? layout depth v <;> rfl

/-- A member is written for an entry, with the text of its value. -/
theorem render?_of_member {entry : Value × Value} {m : Text × Text}
    (h : (entry.1.plain?.bind fun name => (render? layout depth entry.2).map fun t => (name, t)) =
      some m) : render? layout depth entry.2 = some m.2 := by
  obtain ⟨name, -, h⟩ := Option.bind_eq_some_iff.mp h
  obtain ⟨t, ht, rfl⟩ := Option.map_eq_some_iff.mp h
  exact ht

/-- A tree is written as JSON if its floating point numbers are finite, and otherwise with a stray
letter. -/
theorem isJson_or_isStray {P : Binary64 → Prop} {v : Value} (hv : v.IsTree P) {t : Text}
    (h : render? layout depth v = some t) :
    (v.IsTree (fun x => x.isFinite = true) ∧ IsJson t) ∨
      (¬ v.IsTree (fun x => x.isFinite = true) ∧ IsStray t) := by
  induction hv generalizing depth t with
  | null =>
      cases h
      exact .inl ⟨.null, .literal (by decide)⟩
  | bool b =>
      cases h
      refine .inl ⟨.bool b, .literal ?_⟩
      cases b <;> decide
  | int n =>
      rw [render?] at h
      split at h
      · cases h
        exact .inl ⟨.int n, .number (isNumber_ofInt n)⟩
      · cases h
  | @float x _ =>
      cases h
      cases hx : x.isFinite with
      | true => exact .inl ⟨.float hx, .number (isNumber_floatText hx)⟩
      | false =>
          refine .inr ⟨fun hfinite => ?_, isStray_floatText hx⟩
          cases hfinite with
          | float hfinite => cases hfinite.symm.trans hx
  | text t =>
      cases h
      exact .inl ⟨.text t, .string (isString_quote t)⟩
  | @list items _ ih =>
      rw [render?] at h
      obtain ⟨ts, hts, rfl⟩ := Option.map_eq_some_iff.mp h
      obtain ⟨hwritten, hitems⟩ := (collects_renderItems? layout (depth + 1)).mem hts
      by_cases hall : ∀ v ∈ items, v.IsTree fun x => x.isFinite = true
      · refine .inl ⟨.list hall, isJson_items fun t ht => ?_⟩
        obtain ⟨v, hv, hrender⟩ := hwritten t ht
        exact ((ih v hv hrender).resolve_right fun h => h.1 (hall v hv)).2
      · refine .inr ⟨fun h => ?_, isStray_enclose (isClean_of_bare (by decide)) (fun t ht => ?_) ?_⟩
        · cases h with
          | list h => exact hall h
        · obtain ⟨v, hv, hrender⟩ := hwritten t ht
          exact (ih v hv hrender).imp (fun h => h.2.isClean) fun h => h.2
        · obtain ⟨v, hv, hinfinite⟩ := by simpa using hall
          obtain ⟨t, ht, hrender⟩ := hitems v hv
          exact ⟨t, ht, ((ih v hv hrender).resolve_left fun h => hinfinite h.1).2⟩
  | @map entries hnames _ ih =>
      rw [render?] at h
      obtain ⟨ms, hms, rfl⟩ := Option.map_eq_some_iff.mp h
      obtain ⟨hwritten, hentries⟩ := (collects_renderMembers? layout (depth + 1)).mem hms
      have hbefore : ∀ m : Text × Text, IsClean (quote m.1 ++ layout.colon) := by
        intro m
        obtain ⟨space, hspace, hcolon⟩ := exists_space_of_colon layout
        rw [hcolon]
        exact (isClean_of_isString (isString_quote m.1)).append
          ((isClean_of_bare (by decide)).append (isClean_of_isSpace hspace))
      by_cases hall : ∀ entry ∈ entries, entry.2.IsTree fun x => x.isFinite = true
      · refine .inl ⟨.map hnames hall, isJson_members fun m hm => ?_⟩
        obtain ⟨entry, hentry, hm⟩ := hwritten m (List.mem_mergeSort.mp hm)
        have hor := ih entry hentry (render?_of_member hm)
        exact (hor.resolve_right fun h => h.1 (hall entry hentry)).2
      · refine .inr ⟨fun h => ?_, isStray_enclose (isClean_of_bare (by decide)) ?_ ?_⟩
        · cases h with
          | map _ h => exact hall h
        · refine List.forall_mem_map.mpr fun m hm => ?_
          obtain ⟨entry, hentry, hm⟩ := hwritten m (List.mem_mergeSort.mp hm)
          exact (ih entry hentry (render?_of_member hm)).imp
            (fun h => (hbefore m).append h.2.isClean) fun h => (hbefore m).append_stray h.2
        · obtain ⟨key, v, hentry, hinfinite⟩ := by simpa using hall
          obtain ⟨m, hm, hrender⟩ := hentries (key, v) hentry
          have hor := ih (key, v) hentry (render?_of_member hrender)
          refine ⟨_, List.mem_map_of_mem (List.mem_mergeSort.mpr hm), (hbefore m).append_stray ?_⟩
          exact (hor.resolve_left fun h => hinfinite h.1).2

/-- A tree is written as JSON exactly if its floating point numbers are finite, whatever space
stands behind it. -/
theorem isJson_render?_iff {P : Binary64 → Prop} {v : Value} (hv : v.IsTree P) {t space : Text}
    (h : render? layout depth v = some t) (hspace : IsSpace space) :
    IsJson (t ++ space) ↔ v.IsTree fun x => x.isFinite = true := by
  obtain ⟨hfinite, hjson⟩ | ⟨hinfinite, hstray⟩ := isJson_or_isStray hv h
  · exact iff_of_true (@IsJson.spaced [] t space nofun hjson hspace) hfinite
  · exact iff_of_false (fun hjson => hjson.isClean.not_isStray (hstray.append space)) hinfinite

/-- A mapping with texts for keys is a tree if its values are. -/
theorem isTree_members_iff {P : Binary64 → Prop} {members : List (Text × Value)} :
    (Value.map (members.map fun (name, v) => (.text name, v))).IsTree P ↔
      ∀ member ∈ members, member.2.IsTree P := by
  constructor
  · intro h
    cases h with
    | map _ h => exact fun member hmember => h _ (List.mem_map_of_mem hmember)
  · intro h
    refine .map (fun entry hentry => ?_) fun entry hentry => ?_ <;>
      obtain ⟨member, hmember, rfl⟩ := List.mem_map.mp hentry
    · exact ⟨member.1, rfl⟩
    · exact h member hmember

end Layouts

end Json

/-! ## Trees that can be written -/

namespace Value

open Json

/-- The value can be written as JSON, however it is laid out. -/
def Writable (v : Value) : Prop :=
  ∀ layout depth, (render? layout depth v).isSome = true

theorem writable_list {items : List Value} (h : ∀ v ∈ items, v.Writable) :
    (list items).Writable := by
  intro layout depth
  rw [render?, Option.isSome_map]
  exact (collects_renderItems? layout (depth + 1)).isSome_iff.mpr fun v hv => h v hv _ _

theorem writable_map {entries : List (Value × Value)} (h : Titled Writable entries) :
    (map entries).Writable := by
  intro layout depth
  rw [render?, Option.isSome_map]
  refine (collects_renderMembers? layout (depth + 1)).isSome_iff.mpr fun (key, v) hentry => ?_
  obtain ⟨⟨name, rfl⟩, hv⟩ := h _ hentry
  rw [plain?, Option.bind_some, Option.isSome_map]
  exact hv _ _

theorem collects_quotedItems? : Collects quoted? quotedItems? :=
  ⟨by rw [quotedItems?], fun v rest => by rw [quotedItems?]⟩

theorem collects_quotedEntries? : Collects
    (fun entry : Value × Value => entry.1.quoted?.bind fun key =>
      entry.2.quoted?.map fun t => key ++ ": " ++ t) quotedEntries? := by
  refine ⟨by rw [quotedEntries?], fun (key, v) rest => ?_⟩
  rw [quotedEntries?]
  cases key.quoted? with
  | none => rfl
  | some name => cases v.quoted? <;> rfl

theorem collects_quotedFields? : Collects
    (fun field : Text × Value => field.2.quoted?.map fun t => field.1 ++ "=" ++ t)
      quotedFields? := by
  refine ⟨by rw [quotedFields?], fun (name, v) rest => ?_⟩
  rw [quotedFields?]
  cases v.quoted? <;> rfl

theorem isSome_plain? {v : Value} (h : v.quoted?.isSome = true) : v.plain?.isSome = true := by
  unfold plain?
  split <;> first | rfl | exact h

/-- The value has a tree, and it can be written. -/
def Prints (v : Value) : Prop := v.tree?.isSome = true ∧ ∀ tree, v.tree? = some tree → tree.Writable

theorem prints_of_tree {v tree : Value} (h : v.tree? = some tree) (hw : tree.Writable) :
    v.Prints := by
  rw [Prints, h]
  refine ⟨rfl, fun found hfound => ?_⟩
  cases hfound
  exact hw

theorem writable_treeItems? {items : List Value} (h : ∀ v ∈ items, v.Prints) :
    ∃ trees, treeItems? items = some trees ∧ (list trees).Writable := by
  have hitems : (treeItems? items).isSome = true :=
    collects_treeItems?.isSome_iff.mpr fun v hv => (h v hv).1
  obtain ⟨trees, htrees⟩ := Option.isSome_iff_exists.mp hitems
  refine ⟨trees, htrees, writable_list ?_⟩
  exact collects_treeItems?.forall_of_forall htrees fun v hv => (h v hv).2

theorem writable_treeEntries? {entries : List (Value × Value)}
    (h : ∀ entry ∈ entries, entry.1.plain?.isSome = true ∧ entry.2.Prints) :
    ∃ pairs, treeEntries? entries = some pairs ∧ (ofPairs pairs).Writable := by
  have hentries : (treeEntries? entries).isSome = true := by
    refine collects_treeEntries?.isSome_iff.mpr fun entry hentry => ?_
    rw [isSome_bind_map, Bool.and_eq_true]
    exact ⟨(h entry hentry).1, (h entry hentry).2.1⟩
  obtain ⟨pairs, hpairs⟩ := Option.isSome_iff_exists.mp hentries
  have htitled := titled_treeEntries? hpairs fun entry hentry => (h entry hentry).2.2
  obtain ⟨found, hfound, htitled⟩ := htitled.ofPairs
  refine ⟨pairs, hpairs, ?_⟩
  rw [hfound]
  exact writable_map htitled

theorem writable_treeFields? {fields : List (Text × Value)} (h : ∀ field ∈ fields, field.2.Prints) :
    ∃ entries, treeFields? fields = some entries ∧ (map entries).Writable := by
  have hfields : (treeFields? fields).isSome = true := by
    refine collects_treeFields?.isSome_iff.mpr fun field hfield => ?_
    rw [Option.isSome_map]
    exact (h field hfield).1
  obtain ⟨entries, hentries⟩ := Option.isSome_iff_exists.mp hfields
  exact ⟨entries, hentries, writable_map (titled_treeFields? hentries fun field hfield =>
    (h field hfield).2)⟩

/-- A value that can be quoted in a message has a tree, and the tree can be written. -/
theorem prints_of_quoted {v : Value} (h : v.quoted?.isSome = true) : v.Prints := by
  induction v using parts_induction with
  | step v ih =>
      cases v with
      | null => exact prints_of_tree rfl fun _ _ => rfl
      | bool b => exact prints_of_tree rfl fun _ _ => rfl
      | float x => exact prints_of_tree rfl fun _ _ => rfl
      | text t => exact prints_of_tree rfl fun _ _ => rfl
      | int n =>
          refine prints_of_tree rfl fun layout depth => ?_
          rwa [render?, ← quoted?]
      | list items =>
          rw [quoted?, Option.isSome_map, collects_quotedItems?.isSome_iff] at h
          obtain ⟨trees, htrees, hwritable⟩ :=
            @writable_treeItems? items fun w hw => ih w hw (h w hw)
          exact prints_of_tree (by rw [tree?, htrees, Option.map_some]) hwritable
      | tuple items =>
          rw [quoted?, Option.isSome_map, collects_quotedItems?.isSome_iff] at h
          obtain ⟨trees, htrees, hwritable⟩ :=
            @writable_treeItems? items fun w hw => ih w hw (h w hw)
          exact prints_of_tree (by rw [tree?, htrees, Option.map_some]) hwritable
      | map entries =>
          rw [quoted?, Option.isSome_map, collects_quotedEntries?.isSome_iff] at h
          obtain ⟨pairs, hpairs, hwritable⟩ := writable_treeEntries? fun entry hentry => by
            have hquoted := h entry hentry
            rw [isSome_bind_map, Bool.and_eq_true] at hquoted
            exact ⟨isSome_plain? hquoted.1, ih _ (List.mem_map_of_mem hentry) hquoted.2⟩
          exact prints_of_tree (by rw [tree?, hpairs, Option.map_some]) hwritable
      | record type fields =>
          rw [quoted?, Option.isSome_map, collects_quotedFields?.isSome_iff] at h
          obtain ⟨entries, hentries, hwritable⟩ := writable_treeFields? fun field hfield => by
            have hquoted := h field hfield
            rw [Option.isSome_map] at hquoted
            exact ih _ (List.mem_map_of_mem hfield) hquoted
          exact prints_of_tree (by rw [tree?, hentries, Option.map_some]) hwritable
      | _ =>
          obtain ⟨t, ht⟩ := Option.isSome_iff_exists.mp h
          refine @prints_of_tree _ (text t) ?_ fun _ _ => rfl
          simp only [tree?, ht, Option.map_some]

end Value

end ConfigReader
