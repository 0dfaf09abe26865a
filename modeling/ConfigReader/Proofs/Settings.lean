import ConfigReader.Logging
import ConfigReader.Proofs.Forms
import ConfigReader.Proofs.Replies
import ConfigReader.Settings
import Mathlib.Data.List.TakeWhile

/-!
# Settings by precedence

The environment is read as a whole before any override is looked at.  `environmentValues` is this
part of the work, and `resolve_eq` says that overrides are then put over it, one by one, and that the
level is made a name at the end.

So there are two places where settings are refused.  `RefusedEnvironment` and `RefusedOverrides` say
what is refused there, and `resolve_by_precedence` that nothing else is, and where each setting comes
from if nothing is.  A level that is refused is shown in the message, so one that cannot be shown is
refused with another error (`LongLevel`).  A level has been looked up by name when it is put into the
settings, so there are loggers for it (`configure_of_name`).
-/

namespace ConfigReader

/-! ## Names of levels -/

namespace Level

theorem normalize_of_name {name : Text} {n : Int} (h : ofName? name = some n) :
    normalize name = name := by
  have hnames : ∀ entry ∈ names, normalize entry.1 = entry.1 := by decide +kernel
  obtain ⟨before, after, hsplit, -⟩ := List.lookup_eq_some_iff.mp h
  exact hnames (name, n) (hsplit ▸ List.mem_append_right before List.mem_cons_self)

theorem normalize_of_isBlank {name : Text} (h : name.isBlank = true) : normalize name = [] := by
  have hnone : name.dropWhile CodePoint.isBlank = [] :=
    List.dropWhile_eq_nil_iff.mpr (List.all_eq_true.mp h)
  rw [normalize, Text.strip, Text.trim, hnone]
  rfl

end Level

/-- Loggers take a level by its name. -/
theorem Loggers.configure_of_name {level : Text} {n : Int} (h : Level.ofName? level = some n)
    (loggers : Loggers) (name : Text) (json : Bool) (stream : Nat) :
    loggers.configure name (.text level) json stream =
      .ok (loggers.set name ⟨⟨n, false⟩, false, [⟨n, json, stream⟩]⟩) := by
  have hlevel : Level.parse (.text level) = .ok ⟨n, false⟩ := by
    rw [Level.parse, Level.normalize_of_name h, h]
  rw [configure, hlevel]
  rfl

namespace Settings

/-- A value that names a level, in letters of either case and with blank space around it. -/
inductive NamesLevel : Value → Prop where
  /-- The text of a name. -/
  | text {name : Text} {n : Int} (h : Level.ofName? (Level.normalize name) = some n) :
      NamesLevel (.text name)

section Normalize

variable {origin name : Text} {v : Value} {n : Int}

theorem normalizeLevel_of_name (h : Level.ofName? (Level.normalize name) = some n) :
    normalizeLevel origin (.text name) = .ok (Level.normalize name) := by
  have hblank : name.isBlank = false := by
    rw [Bool.eq_false_iff]
    intro hblank
    rw [Level.normalize_of_isBlank hblank] at h
    cases h
  simp only [normalizeLevel, hblank, h, Option.isSome_some, if_true, Bool.false_eq_true, if_false]

/-- Any other value is refused.  Its text is part of the message, and there is none if an integer
has too many digits. -/
theorem normalizeLevel_of_not_namesLevel (h : ¬ NamesLevel v) :
    ((∃ cause, normalizeLevel origin v = .error (.settings cause)) ∧ v.quoted?.isSome = true) ∨
      normalizeLevel origin v = .error (.integerTooLong none) ∧ v.quoted? = none := by
  cases v with
  | text name =>
      refine .inl ⟨?_, rfl⟩
      have hname : (Level.ofName? (Level.normalize name)).isSome = false := by
        cases hname : Level.ofName? (Level.normalize name) with
        | none => rfl
        | some n => exact absurd (.text hname) h
      simp only [normalizeLevel, hname, Bool.false_eq_true, if_false]
      split
      · exact ⟨_, rfl⟩
      · exact ⟨_, rfl⟩
  | _ =>
      simp only [normalizeLevel]
      split
      · next hshown => exact .inl ⟨⟨_, rfl⟩, hshown ▸ rfl⟩
      · next hshown => exact .inr ⟨rfl, hshown⟩

theorem level_of_normalizeLevel {level : Text} (h : normalizeLevel origin v = .ok level) :
    ∃ n, Level.ofName? level = some n := by
  by_cases hv : NamesLevel v
  · obtain ⟨hname⟩ := hv
    rw [normalizeLevel_of_name hname] at h
    cases h
    exact ⟨_, hname⟩
  · have hrefused := @normalizeLevel_of_not_namesLevel origin v hv
    rw [h] at hrefused
    obtain ⟨⟨cause, herror⟩, -⟩ | ⟨herror, -⟩ := hrefused
    · cases herror
    · cases herror

end Normalize

/-! ## The environment -/

/-- A variable that does not fit its setting. -/
inductive RefusedEnvironment (entries : Entries) : Prop where
  /-- The level has no such name. -/
  | level {t : Text} (found : entries.get? levelName = some t) (unnamed : ¬ NamesLevel (.text t))
  /-- The text stands neither for true nor for false. -/
  | json {t : Text} (found : entries.get? jsonName = some t)
      (outside : t.strip.lower ∉ trueTexts ++ falseTexts)

/-- What programs over the environment read, with the defaults for what is not there. -/
def environmentValues (entries : Entries) : Except Failure (Value × Value) := do
  let level ← fromEnvironment (Program.scalar .string levelKey) levelName entries
  let json ← fromEnvironment (Program.scalar .boolean jsonKey) jsonName entries
  let level ← level.mapM fun name => normalizeLevel (variableName levelName) (.text name)
  return ((level.map Value.text).getD (.text "WARNING"), (json.map Value.bool).getD (.bool false))

/-- The name of the level in an environment, or the default. -/
def environmentLevel (entries : Entries) : Text := (entries.get? levelName).getD "WARNING"

/-- The setting for JSON in an environment, a text as a truth value, or the default. -/
def environmentJson (entries : Entries) : Value :=
  ((entries.get? jsonName).map fun t => .bool (t.strip.lower ∈ trueTexts)).getD (.bool false)

section Environment

variable {entries : Entries}

theorem fromEnvironment_scalar (kind : Kind) {key : Key} {name : Text} (hname : key.text = name)
    (entries : Entries) :
    fromEnvironment (Program.scalar kind key) name entries =
      match entries.get? name with
      | none => .ok none
      | some t => match parseScalar t name kind with
        | .ok a => .ok (some a)
        | .error (.read (.malformed ..)) =>
            .error (.settings (.invalidValue (variableName name) t.quoted))
        | .error f => .error f := by
  have hpath : KeyPath.root.resolve key.text = name := hname
  simp only [fromEnvironment, Program.runValidating, Program.run, Strategy.scalar,
    Strategy.withAnswer, Source.flat, Entries.answer, hpath]
  cases entries.get? name with
  | none => rfl
  | some t =>
      dsimp only
      cases parseScalar t name kind with
      | ok a => rfl
      | error f => cases f with
        | read cause => cases cause <;> rfl
        | _ => rfl

theorem levelKey_text : levelKey.text = levelName := rfl

theorem jsonKey_text : jsonKey.text = jsonName := rfl

theorem fromEnvironment_level (entries : Entries) :
    fromEnvironment (Program.scalar .string levelKey) levelName entries =
      .ok (entries.get? levelName) := by
  rw [fromEnvironment_scalar .string levelKey_text]
  cases entries.get? levelName <;> rfl

/-- The text of a truth value is in one of the two tables. -/
theorem parseBoolean_eq (t path : Text) :
    parseBoolean t path =
      if t.strip.lower ∈ trueTexts ++ falseTexts then .ok (decide (t.strip.lower ∈ trueTexts))
      else .error (.read (.malformed path "Boolean" (.text t))) := by
  simp only [parseBoolean, List.contains_eq_mem, List.mem_append, decide_eq_true_eq]
  by_cases htrue : t.strip.lower ∈ trueTexts
  · simp [htrue]
  · by_cases hfalse : t.strip.lower ∈ falseTexts
    · simp [htrue, hfalse]
    · rw [if_neg htrue, if_neg hfalse, if_neg (not_or.mpr ⟨htrue, hfalse⟩)]
      rfl

theorem fromEnvironment_json (entries : Entries) :
    fromEnvironment (Program.scalar .boolean jsonKey) jsonName entries =
      match entries.get? jsonName with
      | none => .ok none
      | some t =>
          if t.strip.lower ∈ trueTexts ++ falseTexts then
            .ok (some (decide (t.strip.lower ∈ trueTexts)))
          else .error (.settings (.invalidValue (variableName jsonName) t.quoted)) := by
  rw [fromEnvironment_scalar .boolean jsonKey_text]
  cases entries.get? jsonName with
  | none => rfl
  | some t =>
      simp only [parseScalar, parseBoolean_eq]
      by_cases htable : t.strip.lower ∈ trueTexts ++ falseTexts
      · simp only [htable, if_true]
      · simp only [htable, if_false]

/-- The values depend on the texts of the two settings only. -/
theorem environmentValues_congr {entries' : Entries}
    (level : entries.get? levelName = entries'.get? levelName)
    (json : entries.get? jsonName = entries'.get? jsonName) :
    environmentValues entries = environmentValues entries' := by
  have hjson : fromEnvironment (Program.scalar .boolean jsonKey) jsonName entries =
      fromEnvironment (Program.scalar .boolean jsonKey) jsonName entries' := by
    rw [fromEnvironment_json, fromEnvironment_json, json]
  rw [environmentValues, environmentValues, hjson, fromEnvironment_level, fromEnvironment_level,
    level]

theorem fromEnvironment_json_cases (entries : Entries) :
    (∃ json, fromEnvironment (Program.scalar .boolean jsonKey) jsonName entries = .ok json) ∨
      ∃ cause, fromEnvironment (Program.scalar .boolean jsonKey) jsonName entries =
        .error (.settings cause) := by
  rw [fromEnvironment_json]
  split
  · exact .inl ⟨_, rfl⟩
  · split
    · exact .inl ⟨_, rfl⟩
    · exact .inr ⟨_, rfl⟩

/-- An environment that is refused is refused for a cause of the settings. -/
theorem environmentValues_of_refused (h : RefusedEnvironment entries) :
    ∃ cause, environmentValues entries = .error (.settings cause) := by
  rw [environmentValues, fromEnvironment_level]
  cases h with
  | json found outside =>
      rw [fromEnvironment_json, found]
      simp only [if_neg outside]
      exact ⟨_, rfl⟩
  | @level t found unnamed =>
      -- the truth value is read before the level is looked up
      obtain ⟨json, hjson⟩ | ⟨cause, hjson⟩ := fromEnvironment_json_cases entries
      · obtain ⟨cause, hcause⟩ : ∃ cause,
            normalizeLevel (variableName levelName) (.text t) = .error (.settings cause) :=
          ((normalizeLevel_of_not_namesLevel unnamed).resolve_right nofun).1
        rw [hjson, found]
        refine ⟨cause, ?_⟩
        simp only [bind, Except.bind, Option.mapM_some, hcause]
        rfl
      · rw [hjson]
        exact ⟨cause, rfl⟩

/-- The level of an environment that is not refused has a name. -/
theorem exists_environmentLevel (h : ¬ RefusedEnvironment entries) :
    ∃ n, Level.ofName? (Level.normalize (environmentLevel entries)) = some n := by
  rw [environmentLevel]
  cases hfound : entries.get? levelName with
  | none => exact ⟨30, rfl⟩
  | some t =>
      obtain ⟨hname⟩ : NamesLevel (.text t) := Classical.not_not.mp fun unnamed =>
        h (.level hfound unnamed)
      exact ⟨_, hname⟩

/-- An environment that is not refused has values, the level by its name. -/
theorem environmentValues_of_not_refused (h : ¬ RefusedEnvironment entries) :
    environmentValues entries =
      .ok (.text (Level.normalize (environmentLevel entries)), environmentJson entries) := by
  have hlevel : (entries.get? levelName).mapM (fun name =>
      normalizeLevel (variableName levelName) (.text name)) =
        .ok ((entries.get? levelName).map Level.normalize) := by
    obtain ⟨n, hname⟩ := exists_environmentLevel h
    rw [environmentLevel] at hname
    cases hfound : entries.get? levelName with
    | none => rfl
    | some t =>
        rw [hfound, Option.getD_some] at hname
        rw [Option.mapM_some, normalizeLevel_of_name hname]
        rfl
  have hjson : fromEnvironment (Program.scalar .boolean jsonKey) jsonName entries =
      .ok ((entries.get? jsonName).map fun t => decide (t.strip.lower ∈ trueTexts)) := by
    rw [fromEnvironment_json]
    cases hfound : entries.get? jsonName with
    | none => rfl
    | some t =>
        have htable : t.strip.lower ∈ trueTexts ++ falseTexts :=
          Decidable.not_not.mp fun outside => h (.json hfound outside)
        exact if_pos htable
  rw [environmentValues, fromEnvironment_level, hjson, environmentLevel, environmentJson]
  simp only [bind, Except.bind, hlevel]
  cases entries.get? levelName <;> cases entries.get? jsonName <;> rfl

end Environment

/-! ## Overrides -/

/-- An override that is refused. -/
inductive RefusedOverrides (overrides : List (Text × Value)) : Prop where
  /-- No setting has the name. -/
  | name {name : Text} {v : Value} (given : (name, v) ∈ overrides)
      (unknown : name ≠ levelName ∧ name ≠ jsonName)
  /-- A value is given for the level and names none. -/
  | level {v : Value} (given : (levelName, v) ∈ overrides) (nonnull : v.isNull = false)
      (unnamed : ¬ NamesLevel v)

/-- All overrides have names of settings, and the one for the level spells an integer of too many
digits. -/
structure LongLevel (overrides : List (Text × Value)) : Prop where
  /-- The names. -/
  known : ∀ name v, (name, v) ∈ overrides → name = levelName ∨ name = jsonName
  /-- The level. -/
  long : ∃ v n, (levelName, v) ∈ overrides ∧ v.Quotes n ∧
    digitLimit < (Text.ofNat n.natAbs).length

/-- A value that spells an integer of too many digits is the one that has no quoted text. -/
theorem quoted?_eq_none_iff {v : Value} : v.quoted? = none ↔
    ∃ n, v.Quotes n ∧ digitLimit < (Text.ofNat n.natAbs).length := by
  rw [← Option.not_isSome_iff_eq_none, Value.isSome_quoted?_iff]
  simp only [Text.hasDecimalText_iff, not_forall, exists_prop, not_le]

/-- The values of both settings with one override put over them. -/
def override (held : Value × Value) : Text × Value → Except Failure (Value × Value)
  | (name, v) =>
      if name = levelName then .ok (if v.isNull then held.1 else v, held.2)
      else if name = jsonName then .ok (held.1, if v.isNull then held.2 else v)
      else .error (.settings (.unknownSetting name))

/-- Overrides are put over the values of the environment, and the level is made a name. -/
theorem resolve_eq (overrides : List (Text × Value)) (environment : List (Text × Text)) :
    resolve overrides environment =
      (environmentValues (environmentEntries environment) >>= fun held =>
        overrides.foldlM override held >>= fun (level, json) =>
          (Settings.mk · json.isTruthy) <$> normalizeLevel levelName level) := by
  rw [resolve, environmentValues]
  simp only [bind_assoc, pure_bind, map_eq_pure_bind]
  rfl

/-- The level of resolved settings has a name. -/
theorem level_of_resolve {overrides : List (Text × Value)} {environment : List (Text × Text)}
    {settings : Settings} (h : resolve overrides environment = .ok settings) :
    ∃ n, Level.ofName? settings.logLevel = some n := by
  rw [resolve_eq] at h
  obtain ⟨held, -, h⟩ := Except.bind_eq_ok.mp h
  obtain ⟨⟨value, json⟩, -, h⟩ := Except.bind_eq_ok.mp h
  dsimp only at h
  cases hlevel : normalizeLevel levelName value with
  | error f =>
      rw [hlevel] at h
      cases h
  | ok level =>
      rw [hlevel] at h
      cases h
      exact level_of_normalizeLevel hlevel

/-- The override of a setting, if there is one that is not null. -/
def given? (overrides : List (Text × Value)) (name : Text) : Option Value :=
  (overrides.lookup name).filter (!·.isNull)

section Overrides

variable {overrides : List (Text × Value)} {name : Text} {v : Value}

theorem given?_cons (sought name : Text) (v : Value) (rest : List (Text × Value)) :
    given? ((name, v) :: rest) sought =
      if sought = name then (if v.isNull then none else some v) else given? rest sought := by
  rw [given?, List.lookup_cons]
  by_cases h : sought = name
  · rw [if_pos h, beq_iff_eq.mpr h]
    cases hnull : v.isNull <;> simp [hnull]
  · rw [if_neg h, beq_eq_false_iff_ne.mpr h]
    rfl

/-- In a mapping the override of a setting is the one with its name. -/
theorem given?_eq_some_iff (mapping : (overrides.map Prod.fst).Nodup) :
    given? overrides name = some v ↔ (name, v) ∈ overrides ∧ v.isNull = false := by
  have hlookup : overrides.lookup name = some v ↔ (name, v) ∈ overrides := by
    rw [List.lookup_eq_some_iff]
    constructor
    · rintro ⟨before, after, rfl, -⟩
      exact List.mem_append_right before List.mem_cons_self
    · intro hmem
      obtain ⟨before, after, rfl⟩ := List.append_of_mem hmem
      rw [List.map_append, List.nodup_append] at mapping
      refine ⟨before, after, rfl, fun other hother => bne_iff_ne.mpr ?_⟩
      exact (mapping.2.2 _ (List.mem_map_of_mem hother) _ List.mem_cons_self).symm
  rw [given?, Option.filter_eq_some_iff, hlookup, Bool.not_eq_true']

/-- Overrides with known names take the places of the values below them. -/
theorem foldlM_override (mapping : (overrides.map Prod.fst).Nodup)
    (known : ∀ name v, (name, v) ∈ overrides → name = levelName ∨ name = jsonName)
    (held : Value × Value) :
    overrides.foldlM override held =
      .ok ((given? overrides levelName).getD held.1, (given? overrides jsonName).getD held.2) := by
  induction overrides generalizing held with
  | nil => rfl
  | cons first rest ih =>
      obtain ⟨name, v⟩ := first
      rw [List.map_cons, List.nodup_cons] at mapping
      have hrest := ih mapping.2 fun n w hmem => known n w (List.mem_cons_of_mem _ hmem)
      have hnone : given? rest name = none := Option.eq_none_iff_forall_ne_some.mpr fun w hw =>
        mapping.1 (List.mem_map.mpr ⟨_, ((given?_eq_some_iff mapping.2).mp hw).1, rfl⟩)
      have hnames : jsonName ≠ levelName := by decide
      rw [List.foldlM_cons, given?_cons, given?_cons]
      obtain rfl | rfl := known name v List.mem_cons_self
      · rw [override, if_pos rfl, if_pos rfl, if_neg hnames]
        refine (hrest _).trans ?_
        rw [hnone]
        cases v.isNull <;> rfl
      · rw [override, if_neg hnames, if_pos rfl, if_pos rfl, if_neg hnames.symm]
        refine (hrest _).trans ?_
        rw [hnone]
        cases v.isNull <;> rfl

theorem foldlM_override_of_unknown (given : (name, v) ∈ overrides)
    (unknown : name ≠ levelName ∧ name ≠ jsonName) (held : Value × Value) :
    ∃ other, overrides.foldlM override held = .error (.settings (.unknownSetting other)) := by
  induction overrides generalizing held with
  | nil => cases given
  | cons first rest ih =>
      obtain ⟨first, w⟩ := first
      rw [List.foldlM_cons, override]
      obtain heq | hrest := List.mem_cons.mp given
      · cases heq
        rw [if_neg unknown.1, if_neg unknown.2]
        exact ⟨name, rfl⟩
      · split
        · exact ih hrest _
        · split
          · exact ih hrest _
          · exact ⟨first, rfl⟩

end Overrides

/-! ## Precedence -/

/-- The value that is taken for the level: its override, or that of the environment. -/
def levelOf (overrides : List (Text × Value)) (entries : Entries) : Value :=
  (given? overrides levelName).getD (.text (environmentLevel entries))

/-- The value that is taken for the setting for JSON. -/
def jsonOf (overrides : List (Text × Value)) (entries : Entries) : Value :=
  (given? overrides jsonName).getD (environmentJson entries)

section Precedence

variable {overrides : List (Text × Value)} {environment : List (Text × Text)}

/-- An environment that is refused is refused in the same way below all overrides. -/
theorem resolve_of_refusedEnvironment (h : RefusedEnvironment (environmentEntries environment)) :
    ∃ cause, ∀ overrides, resolve overrides environment = .error (.settings cause) := by
  obtain ⟨cause, hcause⟩ := environmentValues_of_refused h
  refine ⟨cause, fun overrides => ?_⟩
  rw [resolve_eq, hcause]
  rfl

theorem resolve_of_fits (fits : ¬ RefusedEnvironment (environmentEntries environment)) :
    resolve overrides environment =
      overrides.foldlM override
        (.text (Level.normalize (environmentLevel (environmentEntries environment))),
          environmentJson (environmentEntries environment)) >>= fun (level, json) =>
        (Settings.mk · json.isTruthy) <$> normalizeLevel levelName level := by
  rw [resolve_eq, environmentValues_of_not_refused fits]
  rfl

theorem resolve_of_unknown {name : Text} {v : Value}
    (fits : ¬ RefusedEnvironment (environmentEntries environment)) (given : (name, v) ∈ overrides)
    (unknown : name ≠ levelName ∧ name ≠ jsonName) :
    ∃ cause, resolve overrides environment = .error (.settings cause) := by
  obtain ⟨other, hother⟩ := foldlM_override_of_unknown given unknown _
  refine ⟨.unknownSetting other, ?_⟩
  rw [resolve_of_fits fits, hother]
  rfl

/-- With known names only, what is left is to make the level a name. -/
theorem resolve_of_known (mapping : (overrides.map Prod.fst).Nodup)
    (fits : ¬ RefusedEnvironment (environmentEntries environment))
    (known : ∀ name v, (name, v) ∈ overrides → name = levelName ∨ name = jsonName) :
    resolve overrides environment =
      (Settings.mk · (jsonOf overrides (environmentEntries environment)).isTruthy) <$>
        normalizeLevel levelName (levelOf overrides (environmentEntries environment)) := by
  -- the level of the environment is a name already, and stays as it is
  have hlevel : normalizeLevel levelName ((given? overrides levelName).getD
      (.text (Level.normalize (environmentLevel (environmentEntries environment))))) =
        normalizeLevel levelName (levelOf overrides (environmentEntries environment)) := by
    rw [levelOf]
    cases given? overrides levelName with
    | some v => rfl
    | none =>
        obtain ⟨n, hname⟩ := exists_environmentLevel fits
        have hself := Level.normalize_of_name hname
        rw [Option.getD_none, Option.getD_none, normalizeLevel_of_name hname,
          normalizeLevel_of_name (hself.symm ▸ hname), hself]
  rw [resolve_of_fits fits, foldlM_override mapping known, ← hlevel]
  rfl

/-- Over an environment that fits, overrides are refused for a cause of the settings, unless the
level that is given has no text to put into the message. -/
theorem resolve_of_refusedOverrides (mapping : (overrides.map Prod.fst).Nodup)
    (fits : ¬ RefusedEnvironment (environmentEntries environment))
    (h : RefusedOverrides overrides) :
    ((∃ cause, resolve overrides environment = .error (.settings cause)) ∧ ¬ LongLevel overrides) ∨
      resolve overrides environment = .error (.integerTooLong none) ∧ LongLevel overrides := by
  by_cases known : ∀ name v, (name, v) ∈ overrides → name = levelName ∨ name = jsonName
  · cases h with
    | name given unknown => exact absurd (known _ _ given) (not_or.mpr unknown)
    | @level v given nonnull unnamed =>
        have hgiven := (given?_eq_some_iff mapping).mpr ⟨given, nonnull⟩
        have hlevel : levelOf overrides (environmentEntries environment) = v := by
          rw [levelOf, hgiven, Option.getD_some]
        rw [resolve_of_known mapping fits known, hlevel]
        obtain ⟨⟨cause, hcause⟩, hshown⟩ | ⟨hlong, hshown⟩ :=
          normalizeLevel_of_not_namesLevel unnamed
        · refine .inl ⟨⟨cause, by rw [hcause]; rfl⟩, fun hlong => ?_⟩
          obtain ⟨w, n, hw, hn, hdigits⟩ := hlong.long
          have hnone := quoted?_eq_none_iff.mpr ⟨n, hn, hdigits⟩
          -- there is only one override for the level, and null has a text
          have hnonnull : w.isNull = false := by
            cases w with
            | null => cases hnone
            | _ => rfl
          cases hgiven.symm.trans ((given?_eq_some_iff mapping).mpr ⟨hw, hnonnull⟩)
          rw [hnone] at hshown
          cases hshown
        · obtain ⟨n, hn, hdigits⟩ := quoted?_eq_none_iff.mp hshown
          exact .inr ⟨by rw [hlong]; rfl, known, v, n, given, hn, hdigits⟩
  · refine .inl ⟨?_, fun hlong => known hlong.known⟩
    -- an unknown name anywhere is found before the level is looked up
    push Not at known
    obtain ⟨name, v, given, unknown⟩ := known
    exact resolve_of_unknown fits given unknown

/-- All other settings are resolved. -/
theorem resolve_of_not_refused (mapping : (overrides.map Prod.fst).Nodup)
    (fits : ¬ RefusedEnvironment (environmentEntries environment))
    (h : ¬ RefusedOverrides overrides) :
    ∃ name n, levelOf overrides (environmentEntries environment) = .text name ∧
      Level.ofName? (Level.normalize name) = some n ∧
      resolve overrides environment =
        .ok ⟨Level.normalize name, (jsonOf overrides (environmentEntries environment)).isTruthy⟩ := by
  have known : ∀ name v, (name, v) ∈ overrides → name = levelName ∨ name = jsonName :=
    fun name v given => Decidable.or_iff_not_not_and_not.mpr fun unknown => h (.name given unknown)
  have hnames : NamesLevel (levelOf overrides (environmentEntries environment)) := by
    rw [levelOf]
    cases hgiven : given? overrides levelName with
    | none =>
        obtain ⟨n, hname⟩ := exists_environmentLevel fits
        exact .text hname
    | some v =>
        obtain ⟨given, nonnull⟩ := (given?_eq_some_iff mapping).mp hgiven
        exact Classical.not_not.mp fun unnamed => h (.level given nonnull unnamed)
  rw [resolve_of_known mapping fits known]
  generalize levelOf overrides (environmentEntries environment) = v at hnames ⊢
  obtain @⟨name, n, hname⟩ := hnames
  refine ⟨name, n, rfl, hname, ?_⟩
  rw [normalizeLevel_of_name hname]
  rfl

/-- A level that spells an integer of too many digits is refused. -/
theorem LongLevel.refused (h : LongLevel overrides) : RefusedOverrides overrides := by
  obtain ⟨v, n, given, hn, hdigits⟩ := h.long
  have hnone := quoted?_eq_none_iff.mpr ⟨n, hn, hdigits⟩
  refine .level given ?_ ?_
  · cases v with
    | null => cases hnone
    | _ => rfl
  · rintro ⟨hname⟩
    cases hnone

/-- Settings are refused with a cause, or for a level that cannot be shown, or resolved from the
values that are taken. -/
theorem resolve_cases (environment : List (Text × Text))
    (mapping : (overrides.map Prod.fst).Nodup) :
    ((RefusedEnvironment (environmentEntries environment) ∨
        (RefusedOverrides overrides ∧ ¬ LongLevel overrides)) ∧
      ∃ cause, resolve overrides environment = .error (.settings cause)) ∨
    ((¬ RefusedEnvironment (environmentEntries environment) ∧ LongLevel overrides) ∧
      resolve overrides environment = .error (.integerTooLong none)) ∨
    (¬ (RefusedEnvironment (environmentEntries environment) ∨ RefusedOverrides overrides) ∧
      ∃ name n, levelOf overrides (environmentEntries environment) = .text name ∧
        Level.ofName? (Level.normalize name) = some n ∧
        resolve overrides environment =
          .ok ⟨Level.normalize name,
            (jsonOf overrides (environmentEntries environment)).isTruthy⟩) := by
  by_cases henv : RefusedEnvironment (environmentEntries environment)
  · obtain ⟨cause, hcause⟩ := resolve_of_refusedEnvironment henv
    exact .inl ⟨.inl henv, cause, hcause overrides⟩
  · by_cases hoverrides : RefusedOverrides overrides
    · obtain ⟨hcause, hshort⟩ | ⟨hlong, hlevel⟩ :=
        resolve_of_refusedOverrides mapping henv hoverrides
      · exact .inl ⟨.inr ⟨hoverrides, hshort⟩, hcause⟩
      · exact .inr (.inl ⟨⟨henv, hlevel⟩, hlong⟩)
    · exact .inr (.inr ⟨not_or.mpr ⟨henv, hoverrides⟩,
        resolve_of_not_refused mapping henv hoverrides⟩)

/-- Settings are refused for a variable of the environment or for an override, and for nothing else.
The error is one of the settings, unless the environment fits, all names are known and the level
spells an integer of too many digits.  Then it is that of the integer, which has no text to put into
the message.  A variable that does not fit is reported whatever the overrides are.  Each setting
that is resolved is its override, if there is one that is not null, or what the environment has, or
the default, and loggers take the level. -/
theorem resolve_by_precedence (overrides : List (Text × Value)) (environment : List (Text × Text))
    (mapping : (overrides.map Prod.fst).Nodup) :
    ((∃ cause, resolve overrides environment = .error (.settings cause)) ↔
      RefusedEnvironment (environmentEntries environment) ∨
        (RefusedOverrides overrides ∧ ¬ LongLevel overrides)) ∧
    (resolve overrides environment = .error (.integerTooLong none) ↔
      ¬ RefusedEnvironment (environmentEntries environment) ∧ LongLevel overrides) ∧
    (∀ f, resolve overrides environment = .error f →
      (∃ cause, f = .settings cause) ∨ f = .integerTooLong none) ∧
    (RefusedEnvironment (environmentEntries environment) →
      ∃ cause, ∀ overrides', resolve overrides' environment = .error (.settings cause)) ∧
    ∀ settings, resolve overrides environment = .ok settings →
      (∃ name, levelOf overrides (environmentEntries environment) = .text name ∧
        settings.logLevel = Level.normalize name) ∧
      settings.logJson = (jsonOf overrides (environmentEntries environment)).isTruthy ∧
      ∀ (loggers : Loggers) (logger : Text) (json : Bool) (stream : Nat),
        ∃ configured, loggers.configure logger (.text settings.logLevel) json stream =
          .ok configured := by
  obtain ⟨hrefused, cause, herror⟩ | ⟨⟨henv, hlong⟩, herror⟩ | ⟨hfits, name, n, hlevel, hname, hok⟩ :=
    resolve_cases environment mapping
  · refine ⟨iff_of_true ⟨cause, herror⟩ hrefused, iff_of_false (fun hlong => ?_) fun hlong => ?_,
      fun f hf => ?_, resolve_of_refusedEnvironment, fun settings hok => ?_⟩
    · cases herror.symm.trans hlong
    · obtain henv | ⟨-, hshort⟩ := hrefused
      · exact hlong.1 henv
      · exact hshort hlong.2
    · cases herror.symm.trans hf
      exact .inl ⟨cause, rfl⟩
    · cases herror.symm.trans hok
  · refine ⟨iff_of_false ?_ ?_, iff_of_true herror ⟨henv, hlong⟩, fun f hf => ?_,
      resolve_of_refusedEnvironment, fun settings hok => ?_⟩
    · rintro ⟨cause, hcause⟩
      cases herror.symm.trans hcause
    · rintro (h | ⟨-, hshort⟩)
      · exact henv h
      · exact hshort hlong
    · cases herror.symm.trans hf
      exact .inr rfl
    · cases herror.symm.trans hok
  · refine ⟨iff_of_false ?_ ?_, iff_of_false (fun hlong => ?_) fun hlong => ?_, fun f hf => ?_,
      resolve_of_refusedEnvironment, fun settings hsettings => ?_⟩
    · rintro ⟨cause, hcause⟩
      cases hok.symm.trans hcause
    · exact fun h => hfits (h.imp_right And.left)
    · cases hok.symm.trans hlong
    · exact hfits (.inr hlong.2.refused)
    · cases hok.symm.trans hf
    · cases hok.symm.trans hsettings
      exact ⟨⟨name, hlevel, rfl⟩, rfl, fun loggers logger json stream =>
        ⟨_, Loggers.configure_of_name hname loggers logger json stream⟩⟩

/-- An override that is null leaves the setting to the environment. -/
theorem resolve_by_precedence_below_null :
    let overrides : List (Text × Value) := [("log_level", .text " debug"), ("log_json", .null)]
    let environment : List (Text × Text) :=
      [("PURECONF_LOG_LEVEL", "info"), ("PURECONF_LOG_JSON", " YES ")]
    (overrides.map Prod.fst).Nodup ∧ resolve overrides environment = .ok ⟨"DEBUG", true⟩ ∧
      ¬ (RefusedEnvironment (environmentEntries environment) ∨
        (RefusedOverrides overrides ∧ ¬ LongLevel overrides)) ∧
      jsonOf overrides (environmentEntries environment) = .bool true := by
  intro overrides environment
  have mapping : (overrides.map Prod.fst).Nodup := by decide
  have hok : resolve overrides environment = .ok ⟨"DEBUG", true⟩ := rfl
  have hprecedence := resolve_by_precedence overrides environment mapping
  refine ⟨mapping, hok, fun hrefused => ?_, rfl⟩
  obtain ⟨cause, herror⟩ := hprecedence.1.mpr hrefused
  cases hok.symm.trans herror

/-- A level that is an integer of too many digits is refused with another error. -/
theorem long_level_not_refused :
    let overrides : List (Text × Value) := [("log_level", .int (Nat.pow 10 5000))]
    RefusedOverrides overrides ∧ resolve overrides [] = .error (.integerTooLong none) := by
  have hlong : hasDecimalText (Nat.pow 10 5000) = false := by decide +kernel
  -- the power is too large to be computed
  generalize ((Nat.pow 10 5000 : Nat) : Int) = n at hlong ⊢
  intro overrides
  have hnone : (Value.int n).quoted? = none := by
    rw [Value.quoted?, hlong, if_neg Bool.false_ne_true]
  have known : ∀ name v, (name, v) ∈ overrides → name = levelName ∨ name = jsonName := by
    intro name v hmem
    cases List.mem_singleton.mp hmem
    exact .inl rfl
  have fits : ¬ RefusedEnvironment (environmentEntries []) := by
    rintro (⟨found, -⟩ | ⟨found, -⟩) <;> cases found
  have hrefused : normalizeLevel levelName (.int n) = .error (.integerTooLong none) := by
    simp only [normalizeLevel, hnone]
  refine ⟨.level List.mem_cons_self rfl (by rintro ⟨⟩), ?_⟩
  have mapping : (overrides.map Prod.fst).Nodup := List.nodup_singleton _
  rw [resolve_of_known mapping fits known]
  change _ <$> normalizeLevel levelName (.int n) = _
  rw [hrefused]
  rfl

end Precedence

end Settings

end ConfigReader
