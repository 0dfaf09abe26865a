import ConfigReader.Format.Json
import ConfigReader.Proofs.Hexadecimal
import ConfigReader.Proofs.JsonTrees

/-!
# What a JSON text means

`Json.Means` says which tree a JSON text stands for: words and numbers by their texts, strings piece
by piece, arrays item by item, and objects member by member, in any order.  Space may stand around
every value and every name.  A tree that is written means itself, however it is laid out
(`Json.means_render?`), so what a command prints can be told by the tree that it means.
-/

namespace ConfigReader.Json

open Value

/-! ## Strings -/

/-- What stands for a code point in a string, as a reader takes it. -/
inductive Stands : Text → CodePoint → Prop
  /-- The code point itself, if it is no control character. -/
  | itself {c : CodePoint} (hcontrol : 32 ≤ c.toNat) (hquote : c ≠ doubleQuote)
      (hbackslash : c ≠ '\\') : Stands [c] c
  /-- An escape by a mark. -/
  | escape {mark c : CodePoint} (h : escape? mark = some c) : Stands ['\\', mark] c
  /-- An escape by the number of a control character. -/
  | number {d₁ d₂ d₃ d₄ c : CodePoint} (h : unit? d₁ d₂ d₃ d₄ = some c) (hcontrol : c.toNat < 32) :
      Stands ['\\', 'u', d₁, d₂, d₃, d₄] c

/-- A string stands for a text. -/
def IsQuoted (s t : Text) : Prop :=
  ∃ pieces : List (Text × CodePoint), (∀ p ∈ pieces, Stands p.1 p.2) ∧ pieces.map Prod.snd = t ∧
    s = doubleQuote :: (pieces.map Prod.fst).flatten ++ [doubleQuote]

theorem stands_escaped (c : CodePoint) : Stands (escaped c) c := by
  have hhex : ∀ n < 32, ∃ d₁ d₂ d₃ d₄, Text.hex 4 n = [d₁, d₂, d₃, d₄] ∧
      unit? d₁ d₂ d₃ d₄ = CodePoint.ofNat? n := by
    intro n hn
    refine ⟨(Text.hex 4 n)[0]!, (Text.hex 4 n)[1]!, (Text.hex 4 n)[2]!, (Text.hex 4 n)[3]!, ?_⟩
    revert n
    decide +kernel
  unfold escaped
  split
  · next h => exact h ▸ .escape rfl
  · next hquote =>
      split
      · next h => exact h ▸ .escape rfl
      · next hbackslash =>
          iterate 5
            split
            · next h => exact h ▸ .escape rfl
          split
          · next hcontrol =>
              obtain ⟨d₁, d₂, d₃, d₄, hdigits, hvalue⟩ := hhex _ hcontrol
              rw [hdigits]
              exact .number (hvalue.trans c.ofNat?_toNat) hcontrol
          · next hcontrol => exact .itself (Nat.le_of_not_lt hcontrol) hquote hbackslash

theorem isQuoted_quote (t : Text) : IsQuoted (quote t) t := by
  refine ⟨t.map fun c => (escaped c, c), ?_, ?_, ?_⟩
  · exact List.forall_mem_map.mpr fun c _ => stands_escaped c
  · rw [List.map_map]
    exact List.map_id t
  · rw [quote, List.flatMap_def, List.map_map]
    rfl

/-! ## Values -/

/-- A member of an object as it is written, and what its texts stand for. -/
structure Member where
  /-- What stands in front of the colon. -/
  before : Text
  /-- What stands behind it. -/
  behind : Text
  /-- The name. -/
  name : Text
  /-- The value. -/
  value : Value

namespace Member

/-- The member as it is written. -/
def written (m : Member) : Text := m.before ++ (":" ++ m.behind)

/-- What the member stands for. -/
def entry (m : Member) : Value × Value := (.text m.name, m.value)

/-- In front of the colon stands the name, with space around it. -/
def IsTitled (m : Member) : Prop :=
  ∃ space s space', IsSpace space ∧ IsQuoted s m.name ∧ IsSpace space' ∧
    m.before = space ++ (s ++ space')

end Member

/-- A JSON text means a tree. -/
inductive Means : Text → Value → Prop
  | null : Means "null" null
  | yes : Means "true" (bool true)
  | no : Means "false" (bool false)
  /-- An integer by its digits. -/
  | int (n : Int) : Means (Text.ofInt n) (int n)
  /-- A finite number by its text. -/
  | float {x : Binary64} (h : x.isFinite = true) : Means x.text (float x)
  | nan : Means "NaN" (float .nan)
  | infinity : Means "Infinity" (float (.infinite false))
  | minusInfinity : Means "-Infinity" (float (.infinite true))
  | text {s t : Text} (h : IsQuoted s t) : Means s (text t)
  /-- An array without items. -/
  | noItems {space : Text} (h : IsSpace space) : Means ("[" ++ (space ++ "]")) (list [])
  /-- The items of an array, with their texts. -/
  | items {items : List (Text × Value)} (hne : items ≠ []) (h : ∀ i ∈ items, Means i.1 i.2) :
      Means ("[" ++ (Text.join "," (items.map Prod.fst) ++ "]")) (list (items.map Prod.snd))
  /-- An object without members. -/
  | noMembers {space : Text} (h : IsSpace space) : Means ("\x7b" ++ (space ++ "\x7d")) (map [])
  /-- The members of an object, in any order. -/
  | members {members : List Member} {entries : List (Value × Value)} (hne : members ≠ [])
      (htitled : ∀ m ∈ members, m.IsTitled) (h : ∀ m ∈ members, Means m.behind m.value)
      (hentries : (members.map Member.entry).Perm entries) :
      Means ("\x7b" ++ (Text.join "," (members.map Member.written) ++ "\x7d")) (map entries)
  /-- A value with space around it. -/
  | spaced {before t after : Text} {v : Value} (hbefore : IsSpace before) (h : Means t v)
      (hafter : IsSpace after) : Means (before ++ (t ++ after)) v

theorem means_floatText (x : Binary64) : Means (floatText x) (float x) := by
  cases x with
  | nan => exact .nan
  | infinite negative =>
      cases negative with
      | false => exact .infinity
      | true => exact .minusInfinity
  | finite negative m e => exact @Means.float (.finite negative m e) rfl

section Layouts

variable {layout : Layout} {depth : Nat}

/-- Texts of items are laid out as an array of the items. -/
theorem means_items {pairs : List (Value × Text)} (h : ∀ p ∈ pairs, Means p.2 p.1) :
    Means (enclose layout depth "[" "]" (pairs.map Prod.snd)) (list (pairs.map Prod.fst)) := by
  by_cases hne : pairs = []
  · rw [hne]
    exact @Means.noItems [] nofun
  · obtain ⟨before, padded, hbefore, rfl, hafter, henclose⟩ :=
      @exists_padded_of_enclose layout depth _ Prod.snd "[" "]" pairs hne
    rw [henclose]
    have hitems := @Means.items (padded.map fun p => (before ++ (p.1.2 ++ p.2), p.1.1))
      (by simpa using hne) (List.forall_mem_map.mpr fun p hp =>
        .spaced hbefore (h p.1 (List.mem_map_of_mem hp)) (hafter p hp))
    rw [List.map_map, List.map_map] at hitems
    rw [List.map_map]
    exact hitems

/-- Names and texts are laid out as an object of the entries that they belong to. -/
theorem means_members {pairs : List ((Value × Value) × Text × Text)} {entries : List (Value × Value)}
    (hnames : ∀ p ∈ pairs, p.1.1 = text p.2.1) (h : ∀ p ∈ pairs, Means p.2.2 p.1.2)
    (hentries : (pairs.map Prod.fst).Perm entries) :
    Means (enclose layout depth "\x7b" "\x7d"
      ((pairs.map Prod.snd).map fun (name, t) => quote name ++ layout.colon ++ t))
      (map entries) := by
  rw [List.map_map]
  by_cases hne : pairs = []
  · subst hne
    rw [List.nil_perm.mp hentries]
    exact @Means.noMembers [] nofun
  · obtain ⟨before, padded, hbefore, rfl, hafter, henclose⟩ :=
      @exists_padded_of_enclose layout depth _ ((fun (name, t) => quote name ++ layout.colon ++ t) ∘
        Prod.snd) "\x7b" "\x7d" pairs hne
    obtain ⟨space, hspace, hcolon⟩ := exists_space_of_colon layout
    -- a name takes the space in front of it, and a value the space around it
    let member (p : ((Value × Value) × Text × Text) × Text) : Member :=
      ⟨before ++ (quote p.1.2.1 ++ []), space ++ (p.1.2.2 ++ p.2), p.1.2.1, p.1.1.2⟩
    have hwritten : (padded.map fun p => before ++
        (((fun (name, t) => quote name ++ layout.colon ++ t) ∘ Prod.snd) p.1 ++ p.2)) =
          (padded.map member).map Member.written := by
      simp only [List.map_map, Function.comp_def, member, Member.written, hcolon,
        List.append_assoc, List.append_nil]
    have hentry : (padded.map member).map Member.entry = (padded.map Prod.fst).map Prod.fst := by
      rw [List.map_map, List.map_map]
      refine List.map_congr_left fun p hp => ?_
      exact Prod.ext (hnames p.1 (List.mem_map_of_mem hp)).symm rfl
    rw [henclose, hwritten]
    refine .members (by simpa using hne) ?_ ?_ (by rwa [hentry])
    · refine List.forall_mem_map.mpr fun p _ => ?_
      exact ⟨before, _, [], hbefore, isQuoted_quote _, nofun, rfl⟩
    · refine List.forall_mem_map.mpr fun p hp => ?_
      exact .spaced hspace (h p.1 (List.mem_map_of_mem hp)) (hafter p hp)

/-- A tree that is written means itself. -/
theorem means_render? {P : Binary64 → Prop} {v : Value} (hv : v.IsTree P) {t : Text}
    (h : render? layout depth v = some t) : Means t v := by
  induction hv generalizing depth t with
  | null =>
      cases h
      exact .null
  | bool b =>
      cases h
      cases b with
      | false => exact .no
      | true => exact .yes
  | int n =>
      rw [render?] at h
      split at h
      · cases h
        exact .int n
      · cases h
  | float _ =>
      cases h
      exact means_floatText _
  | text t =>
      cases h
      exact .text (isQuoted_quote t)
  | list _ ih =>
      rw [render?] at h
      obtain ⟨ts, hts, rfl⟩ := Option.map_eq_some_iff.mp h
      obtain ⟨pairs, rfl, rfl, hpairs⟩ := (collects_renderItems? layout (depth + 1)).exists_pairs hts
      exact means_items fun p hp => ih p.1 (List.mem_map_of_mem hp) (hpairs p hp)
  | map hnames _ ih =>
      rw [render?] at h
      obtain ⟨ms, hms, rfl⟩ := Option.map_eq_some_iff.mp h
      obtain ⟨pairs, rfl, rfl, hpairs⟩ :=
        (collects_renderMembers? layout (depth + 1)).exists_pairs hms
      have hname : ∀ p ∈ pairs, p.1.1 = text p.2.1 := by
        intro p hp
        obtain ⟨name, hname⟩ := hnames p.1 (List.mem_map_of_mem hp)
        have hwritten := hpairs p hp
        rw [hname, plain?, Option.bind_some] at hwritten
        obtain ⟨t, -, hwritten⟩ := Option.map_eq_some_iff.mp hwritten
        rw [hname, ← hwritten]
      -- the members are put in the order of their names, and the entries with them
      have hperm := List.mergeSort_perm pairs fun p q => Text.le p.2.1 q.2.1
      have hsorted : (pairs.map Prod.snd).mergeSort (fun a b => Text.le a.1 b.1) =
          (pairs.mergeSort fun p q => Text.le p.2.1 q.2.1).map Prod.snd :=
        (List.map_mergeSort (f := Prod.snd) fun _ _ _ _ => rfl).symm
      simp only [hsorted]
      refine means_members (fun p hp => hname p (hperm.mem_iff.mp hp)) (fun p hp => ?_)
        (hperm.map Prod.fst)
      have hp := hperm.mem_iff.mp hp
      exact ih p.1 (List.mem_map_of_mem hp) (render?_of_member (hpairs p hp))

end Layouts

end ConfigReader.Json
