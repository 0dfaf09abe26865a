import ConfigReader.Proofs.Hexadecimal
import ConfigReader.Proofs.Segments
import ConfigReader.Proofs.Settings
import ConfigReader.Proofs.Tables

/-!
# Variables of a setting

The variables of a setting are those named by the lead and the name of the setting, in letters of
either case.  Names are put in small letters by the rules for all letters, so another letter could
stand for one of ASCII.  Only the Kelvin sign does, and no name of a setting has a k
(`Text.lowerAfter_eq_iff`).

An environment answers for a setting with the value of one of its variables, and so depends on
these alone (`Settings.get?_environmentEntries`).  The same goes for the settings that are resolved,
and for the error if there are none (`Settings.resolve_of_same_variables`).
-/

namespace ConfigReader

/-! ## Small letters of ASCII -/

namespace CodePoint

variable {c : CodePoint}

/-- An ASCII character that is no small letter of a letter beyond ASCII. -/
def isSmallOfAscii (c : CodePoint) : Bool := c.toNat < 128 && c ≠ .scalar 'k'

theorem isSmallOfAscii_of_le (h : 128 ≤ c.toNat) : c.isSmallOfAscii = false := by
  rw [isSmallOfAscii, decide_eq_false (Nat.not_lt.mpr h), Bool.false_and]

theorem lowerAscii_of_not_capital (h : ¬ (0x41 ≤ c.toNat ∧ c.toNat ≤ 0x5A)) : c.lowerAscii = c := by
  cases c with
  | scalar c => exact congrArg scalar (dif_neg h)
  | surrogate i => rfl

/-- Only the run of ASCII capitals is in ASCII, and only the Kelvin sign has a small letter there. -/
theorem capitalRuns_ascii : ∀ run ∈ capitalRuns, run = (0x41, 0x5A, 1, 32) ∨
    run = (0x212A, 0x212A, 1, -8383) ∨ 128 ≤ run.1 ∧ 128 ≤ run.1 + run.2.2.2 := by
  decide +kernel

/-- The small letter of a code point is found in a run, or else it is the code point. -/
theorem lower_cases (c : CodePoint) :
    c.toNat = 0x130 ∧ c.lower = "i\u0307" ∨
      (∃ run ∈ capitalRuns, run.1 ≤ c.toNat ∧ c.toNat ≤ run.2.1 ∧
        c.lower = [(ofNat? (c.toNat + run.2.2.2).toNat).getD c]) ∨
      c.lower = [c] := by
  unfold lower
  dsimp only
  split
  · next hdotted => exact .inl ⟨beq_iff_eq.mp hdotted, rfl⟩
  · split
    · next first last step offset hfind =>
        have hrange := List.find?_some hfind
        simp only [Bool.and_eq_true, decide_eq_true_eq] at hrange
        exact .inr (.inl ⟨_, List.mem_of_find?_eq_some hfind, hrange.1.1, hrange.1.2, rfl⟩)
    · exact .inr (.inr rfl)

/-- In ASCII the small letter of a capital one is the ASCII one. -/
theorem lower_of_lt (h : c.toNat < 128) : c.lower = [c.lowerAscii] := by
  by_cases hcapital : 0x41 ≤ c.toNat ∧ c.toNat ≤ 0x5A
  · exact forall_ascii (P := fun c => 0x41 ≤ c.toNat ∧ c.toNat ≤ 0x5A → c.lower = [c.lowerAscii])
      (by decide +kernel) h hcapital
  · rw [lowerAscii_of_not_capital hcapital]
    obtain ⟨hdotted, -⟩ | ⟨run, hrun, hfirst, hlast, -⟩ | hself := lower_cases c
    · omega
    · obtain rfl | rfl | ⟨hbeyond, -⟩ := capitalRuns_ascii run hrun
      · exact absurd ⟨hfirst, hlast⟩ hcapital
      · dsimp only at hfirst
        omega
      · omega
    · exact hself

/-- A letter beyond ASCII has a small letter beyond ASCII, or that of the Kelvin sign. -/
theorem exists_mem_lower (h : 128 ≤ c.toNat) : ∃ d ∈ c.lower, d.isSmallOfAscii = false := by
  have hself : c.isSmallOfAscii = false := isSmallOfAscii_of_le h
  obtain ⟨-, hlower⟩ | ⟨run, hrun, hfirst, hlast, hlower⟩ | hlower := lower_cases c
  · exact ⟨.scalar '\u0307', hlower ▸ by decide, by decide⟩
  · refine ⟨_, hlower ▸ List.mem_singleton_self _, ?_⟩
    cases hsmall : ofNat? (c.toNat + run.2.2.2).toNat with
    | none => exact hself
    | some d =>
        have hd := ofNat?_eq_some_iff.mp hsmall
        rw [Option.getD_some]
        obtain rfl | rfl | ⟨-, hbeyond⟩ := capitalRuns_ascii run hrun
        · dsimp only at hlast
          omega
        · have hkelvin : c.toNat = 0x212A := Nat.le_antisymm hlast hfirst
          have hk : d = .scalar 'k' := CodePoint.toNat_injective (by rw [hd, hkelvin]; rfl)
          rw [hk]
          rfl
        · exact isSmallOfAscii_of_le (by omega)
  · exact ⟨c, hlower ▸ List.mem_singleton_self c, hself⟩

end CodePoint

/-- A text of ASCII small letters without a k is made of ASCII letters only, wherever they stand. -/
theorem Text.lowerAfter_eq_iff {cased : Bool} {t small : Text}
    (h : small.all CodePoint.isSmallOfAscii = true) :
    lowerAfter cased t = small ↔ t.lowerAscii = small := by
  induction t generalizing cased small with
  | nil => rfl
  | cons c rest ih =>
      rw [lowerAfter, lowerAscii, List.map_cons]
      by_cases hc : c.toNat < 128
      · have hsigma : c ≠ .scalar 'Σ' := by
          rintro rfl
          exact absurd hc (by decide)
        rw [if_neg hsigma, CodePoint.lower_of_lt hc, List.singleton_append]
        cases small with
        | nil => exact ⟨nofun, nofun⟩
        | cons d small =>
            rw [List.all_cons, Bool.and_eq_true] at h
            rw [List.cons.injEq, List.cons.injEq]
            exact and_congr_right fun _ => ih h.2
      · -- on both sides stands something that is not in the small text
        have hle := Nat.le_of_not_lt hc
        have hnotMem : ∀ {d : CodePoint}, d.isSmallOfAscii = false → d ∉ small := fun hd hmem =>
          Bool.false_ne_true (hd.symm.trans (List.all_eq_true.mp h _ hmem))
        refine ⟨fun hlower => ?_, fun hlower => ?_⟩
        · obtain ⟨d, hd, hforeign⟩ : ∃ d ∈ (if c = .scalar 'Σ' then
              if cased && !startsCased rest then "ς" else "σ" else c.lower : Text),
              d.isSmallOfAscii = false := by
            split
            · split
              · exact ⟨.scalar 'ς', by decide, by decide⟩
              · exact ⟨.scalar 'σ', by decide, by decide⟩
            · exact CodePoint.exists_mem_lower hle
          exact absurd (hlower ▸ List.mem_append_left _ hd) (hnotMem hforeign)
        · have hforeign := CodePoint.isSmallOfAscii_of_le hle
          rw [CodePoint.lowerAscii_of_not_capital (by omega)] at hlower
          exact absurd (hlower ▸ List.mem_cons_self) (hnotMem hforeign)

namespace Settings

variable {setting : Text}

/-! ## Variables -/

/-- The variable is one of a setting. -/
def isVariableOf (setting name : Text) : Bool :=
  (Text.after? environmentLead name).any (·.lowerAscii = setting)

/-- The variables of a setting, in order. -/
def variablesOf (setting : Text) (environment : List (Text × Text)) : List (Text × Text) :=
  environment.filter (isVariableOf setting ·.1)

/-- The mapping that an environment stands for: each name once, with its last value. -/
def mapping (environment : List (Text × Text)) : List (Text × Text) :=
  environment.foldl (fun held (name, value) => setVariable name value held) []

/-- The entry that a variable gives. -/
def entryOf? : Text × Text → Option (Text × Text)
  | (name, value) => match Text.after? environmentLead name with
    | some (c :: rest) => some (Text.lower (c :: rest), value)
    | _ => none

theorem environmentEntries_eq (environment : List (Text × Text)) :
    environmentEntries environment = Entries.ofPairs ((mapping environment).filterMap entryOf?) :=
  rfl

theorem variablesOf_cons (name value : Text) (rest : List (Text × Text)) :
    variablesOf setting ((name, value) :: rest) =
      if isVariableOf setting name then (name, value) :: variablesOf setting rest
      else variablesOf setting rest := List.filter_cons

theorem variablesOf_concat (environment : List (Text × Text)) (name value : Text) :
    variablesOf setting (environment ++ [(name, value)]) =
      if isVariableOf setting name then variablesOf setting environment ++ [(name, value)]
      else variablesOf setting environment := by
  have happend : variablesOf setting (environment ++ [(name, value)]) =
    variablesOf setting environment ++ variablesOf setting [(name, value)] := List.filter_append ..
  rw [happend, variablesOf_cons]
  split
  · rfl
  · exact List.append_nil _

/-! ## The mapping of the variables -/

theorem variablesOf_setVariable (name value : Text) (held : List (Text × Text)) :
    variablesOf setting (setVariable name value held) =
      if isVariableOf setting name then setVariable name value (variablesOf setting held)
      else variablesOf setting held := by
  induction held with
  | nil => exact variablesOf_cons name value []
  | cons first rest ih =>
      obtain ⟨n, v⟩ := first
      rw [setVariable, variablesOf_cons]
      by_cases hname : n = name
      · subst hname
        rw [if_pos rfl, variablesOf_cons]
        split
        · rw [setVariable, if_pos rfl]
        · rfl
      · rw [if_neg hname, variablesOf_cons, ih]
        by_cases hn : isVariableOf setting n
        · rw [if_pos hn, if_pos hn, setVariable, if_neg hname]
          split <;> rfl
        · rw [if_neg hn, if_neg hn]

/-- The mapping of the variables of a setting is their part of the whole mapping. -/
theorem variablesOf_mapping (environment : List (Text × Text)) :
    variablesOf setting (mapping environment) = mapping (variablesOf setting environment) := by
  have hconcat : ∀ (environment : List (Text × Text)) (name value : Text),
      mapping (environment ++ [(name, value)]) = setVariable name value (mapping environment) := by
    intro environment name value
    rw [mapping, List.foldl_append]
    rfl
  induction environment using List.reverseRecOn with
  | nil => rfl
  | append_singleton environment entry ih =>
      obtain ⟨name, value⟩ := entry
      rw [hconcat, variablesOf_setVariable, ih, variablesOf_concat]
      split
      · rw [hconcat]
      · rfl

/-! ## The entry of a setting -/

section Entries

variable (h : setting.all CodePoint.isSmallOfAscii = true) (hnonempty : setting ≠ [])

include h hnonempty

/-- A variable gives the entry of a setting when it is one of the setting. -/
theorem entryOf?_eq_some_iff {name value v : Text} :
    entryOf? (name, value) = some (setting, v) ↔ isVariableOf setting name = true ∧ value = v := by
  rw [entryOf?, isVariableOf]
  cases Text.after? environmentLead name with
  | none => simp
  | some rest => cases rest with
    | nil => simpa [Text.lowerAscii] using fun hempty => absurd hempty hnonempty
    | cons c rest =>
        simp only [Option.some.injEq, Prod.mk.injEq, Option.any_some, decide_eq_true_eq]
        exact and_congr_left fun _ => Text.lowerAfter_eq_iff h

theorem lookup_entryOf? (held : List (Text × Text)) :
    (held.filterMap entryOf?).reverse.lookup setting =
      (variablesOf setting held).getLast?.map Prod.snd := by
  induction held using List.reverseRecOn with
  | nil => rfl
  | append_singleton held last ih =>
      obtain ⟨name, value⟩ := last
      rw [List.filterMap_append, variablesOf_concat]
      by_cases hset : isVariableOf setting name
      · have hentry : entryOf? (name, value) = some (setting, value) :=
          (entryOf?_eq_some_iff h hnonempty).mpr ⟨hset, rfl⟩
        rw [if_pos hset, List.filterMap_cons_some hentry]
        simp
      · rw [if_neg hset]
        refine Eq.trans ?_ ih
        cases hentry : entryOf? (name, value) with
        | none => rw [List.filterMap_cons_none hentry, List.filterMap_nil, List.append_nil]
        | some entry =>
            obtain ⟨key, v⟩ := entry
            have hkey : setting ≠ key := by
              rintro rfl
              exact hset ((entryOf?_eq_some_iff h hnonempty).mp hentry).1
            rw [List.filterMap_cons_some hentry, List.filterMap_nil, List.reverse_concat]
            exact (Entries.get?_cons ..).trans (if_neg hkey)

/-- The text of a setting is the value of the last one of its variables, in the order in which these
are first named. -/
theorem get?_environmentEntries (environment : List (Text × Text)) :
    (environmentEntries environment).get? setting =
      (mapping (variablesOf setting environment)).getLast?.map Prod.snd := by
  rw [environmentEntries_eq, Entries.get?_ofPairs, lookup_entryOf? h hnonempty,
    variablesOf_mapping]

end Entries

/-! ## Settings of two environments -/

theorem get?_of_same_variables (h : setting.all CodePoint.isSmallOfAscii = true)
    (hnonempty : setting ≠ []) {environment environment' : List (Text × Text)}
    (same : variablesOf setting environment = variablesOf setting environment') :
    (environmentEntries environment).get? setting =
      (environmentEntries environment').get? setting := by
  rw [get?_environmentEntries h hnonempty, get?_environmentEntries h hnonempty, same]

/-- Settings depend on the variables of the level and on those of the setting for JSON, on their
values and their order.  Other variables count for nothing, wherever they stand. -/
theorem resolve_of_same_variables {environment environment' : List (Text × Text)}
    (level : variablesOf levelName environment = variablesOf levelName environment')
    (json : variablesOf jsonName environment = variablesOf jsonName environment')
    (overrides : List (Text × Value)) :
    resolve overrides environment = resolve overrides environment' := by
  have hlevel := get?_of_same_variables (by decide) (by decide) level
  have hjson := get?_of_same_variables (by decide) (by decide) json
  rw [resolve_eq, resolve_eq, environmentValues_congr hlevel hjson]

/-- Variables of other programs, and one with the lead and no setting, on both sides of a variable. -/
theorem resolve_of_same_variables_among_others :
    let environment : List (Text × Text) :=
      [("HOME", "/"), ("PURECONF_LOG_LEVEL", "info"), ("PURECONF_LOG_FILE", "a")]
    let environment' : List (Text × Text) := [("PURECONF_", "b"), ("PURECONF_LOG_LEVEL", "info")]
    variablesOf levelName environment = variablesOf levelName environment' ∧
      variablesOf jsonName environment = variablesOf jsonName environment' ∧
      resolve [("log_json", .bool true)] environment =
        resolve [("log_json", .bool true)] environment' :=
  ⟨by decide, by decide, resolve_of_same_variables (by decide) (by decide) _⟩

/-- The variable with the name in capitals is not the only one that counts.  Here two environments
agree on the capital names, and a variable with another spelling makes the difference. -/
theorem other_spelling_counts :
    let documented : List (Text × Text) := [("PURECONF_LOG_LEVEL", "info")]
    let both : List (Text × Text) :=
      [("PURECONF_LOG_LEVEL", "info"), ("PURECONF_log_level", "debug")]
    (∀ setting ∈ [levelName, jsonName],
      documented.lookup (variableName setting) = both.lookup (variableName setting)) ∧
      resolve [] documented = .ok ⟨"INFO", false⟩ ∧ resolve [] both = .ok ⟨"DEBUG", false⟩ := by
  refine ⟨by decide, rfl, rfl⟩

end Settings

end ConfigReader
