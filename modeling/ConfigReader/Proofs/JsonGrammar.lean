import ConfigReader.Format.JsonText
import ConfigReader.Proofs.Decimals

/-!
# The grammar of JSON

JSON texts by their productions: numbers, strings, arrays and objects, with space around values.

Strings, integers and floating point numbers that are finite are written in this grammar.  A number
with digits of its own is laid out with a point in front of them, behind them or among them, and
its first digit is not zero unless it is alone in front of the point (`isNumber_layout`).  What is
not a number or is infinite is written as a word of letters, which no production has outside of
strings.  `IsStray` tells these words from JSON: a text is scanned from left to right, and strings
are passed over.
-/

namespace ConfigReader.Json

/-! ## Productions -/

/-- Space between tokens. -/
def IsSpace (t : Text) : Prop := ∀ c ∈ t, c ∈ Text.ofString " \t\n\r"

instance : DecidablePred IsSpace := fun t =>
  inferInstanceAs (Decidable (∀ c ∈ t, c ∈ Text.ofString " \t\n\r"))

/-- Digits, the first of which is not zero. -/
def IsSignificant (t : Text) : Prop := t.isDigits = true ∧ t.head? ≠ some (.scalar '0')

/-- The fraction of a number. -/
inductive IsFraction : Text → Prop
  /-- No fraction. -/
  | none : IsFraction []
  /-- A point and digits. -/
  | digits {ds : Text} (h : ds.isDigits = true) : IsFraction ("." ++ ds)

/-- The exponent of a number. -/
inductive IsExponent : Text → Prop
  /-- No exponent. -/
  | none : IsExponent []
  /-- A mark, a sign or none, and digits. -/
  | digits {mark sign ds : Text} (hmark : mark = "e" ∨ mark = "E")
      (hsign : sign = [] ∨ sign = "+" ∨ sign = "-") (h : ds.isDigits = true) :
      IsExponent (mark ++ (sign ++ ds))

/-- A number. -/
inductive IsNumber : Text → Prop
  /-- A sign or none, digits, and a fraction and an exponent or none. -/
  | parts {sign whole fraction exponent : Text} (hsign : sign = [] ∨ sign = "-")
      (hwhole : whole = "0" ∨ IsSignificant whole) (hfraction : IsFraction fraction)
      (hexponent : IsExponent exponent) : IsNumber (sign ++ (whole ++ (fraction ++ exponent)))

/-- What stands for one code point in a string. -/
inductive IsPiece : Text → Prop
  /-- The code point itself, if it is no control character. -/
  | itself {c : CodePoint} (hcontrol : 32 ≤ c.toNat) (hquote : c ≠ doubleQuote)
      (hbackslash : c ≠ '\\') : IsPiece [c]
  /-- An escape. -/
  | escape {c : CodePoint} (h : c ∈ Text.ofString "\"\\/bfnrt") : IsPiece ['\\', c]
  /-- An escape by number. -/
  | number {ds : Text} (hlength : ds.length = 4) (hdigits : ∀ d ∈ ds, d.hexValue?.isSome = true) :
      IsPiece ("\\u" ++ ds)

/-- A string. -/
def IsString (t : Text) : Prop :=
  ∃ pieces : List Text, (∀ p ∈ pieces, IsPiece p) ∧
    t = doubleQuote :: pieces.flatten ++ [doubleQuote]

/-- A name in front of a colon. -/
def IsName (t : Text) : Prop :=
  ∃ before s after, IsSpace before ∧ IsString s ∧ IsSpace after ∧ t = before ++ (s ++ after)

/-- A JSON text. -/
inductive IsJson : Text → Prop
  /-- A literal. -/
  | literal {t : Text} (h : t ∈ (["null", "true", "false"] : List Text)) : IsJson t
  /-- A number. -/
  | number {t : Text} (h : IsNumber t) : IsJson t
  /-- A string. -/
  | string {t : Text} (h : IsString t) : IsJson t
  /-- An array without items. -/
  | noItems {space : Text} (h : IsSpace space) : IsJson ("[" ++ (space ++ "]"))
  /-- An array. -/
  | items {items : List Text} (hne : items ≠ []) (h : ∀ t ∈ items, IsJson t) :
      IsJson ("[" ++ (Text.join "," items ++ "]"))
  /-- An object without members. -/
  | noMembers {space : Text} (h : IsSpace space) : IsJson ("\x7b" ++ (space ++ "\x7d"))
  /-- An object. -/
  | members {members : List (Text × Text)} (hne : members ≠ [])
      (hnames : ∀ m ∈ members, IsName m.1) (h : ∀ m ∈ members, IsJson m.2) :
      IsJson ("\x7b" ++ (Text.join "," (members.map fun m => m.1 ++ (":" ++ m.2)) ++ "\x7d"))
  /-- A value with space around it. -/
  | spaced {before t after : Text} (hbefore : IsSpace before) (h : IsJson t)
      (hafter : IsSpace after) : IsJson (before ++ (t ++ after))

/-! ## Strings -/

theorem isPiece_escaped (c : CodePoint) : IsPiece (escaped c) := by
  have hhex : ∀ n < 32, (Text.hex 4 n).length = 4 ∧
      ∀ d ∈ Text.hex 4 n, d.hexValue?.isSome = true := by decide +kernel
  unfold escaped
  split
  · exact .escape (by decide)
  · next hquote =>
      split
      · exact .escape (by decide)
      · next hbackslash =>
          iterate 5
            split
            · exact .escape (by decide)
          split
          · next hcontrol => exact .number (hhex _ hcontrol).1 (hhex _ hcontrol).2
          · next hcontrol => exact .itself (Nat.le_of_not_lt hcontrol) hquote hbackslash

theorem isString_quote (t : Text) : IsString (quote t) := by
  refine ⟨t.map escaped, fun p hp => ?_, ?_⟩
  · obtain ⟨c, -, rfl⟩ := List.mem_map.mp hp
    exact isPiece_escaped c
  · rw [quote, List.flatMap_def]

/-! ## Numbers -/

/-- The digits of a number do not begin with zero. -/
theorem head?_toDigits {n : Nat} (h : n ≠ 0) : (Nat.toDigits 10 n).head? ≠ some '0' := by
  have hdigit : ∀ d < 10, d ≠ 0 → [Nat.digitChar d].head? ≠ some '0' := by decide
  induction n using Nat.strong_induction_on with
  | _ n ih =>
      by_cases hsmall : n < 10
      · rw [Nat.toDigits_of_lt_base hsmall]
        exact hdigit n hsmall h
      · rw [Nat.toDigits_of_base_le (by decide) (by omega), List.head?_append]
        intro hzero
        obtain hzero | ⟨hnone, -⟩ := Option.or_eq_some_iff.mp hzero
        · exact ih (n / 10) (by omega) (by omega) hzero
        · exact absurd (List.head?_eq_none_iff.mp hnone) Nat.toDigits_ne_nil

theorem isSignificant_ofNat {n : Nat} (h : n ≠ 0) : IsSignificant (Text.ofNat n) := by
  refine ⟨Text.isDigits_ofNat n, ?_⟩
  rw [Text.ofNat, List.head?_map]
  intro hzero
  obtain ⟨d, hd, hscalar⟩ := Option.map_eq_some_iff.mp hzero
  cases hscalar
  exact head?_toDigits h hd

/-- A number of digits only. -/
theorem isNumber_whole {sign whole : Text} (hsign : sign = [] ∨ sign = "-")
    (hwhole : whole = "0" ∨ IsSignificant whole) : IsNumber (sign ++ whole) := by
  have h := IsNumber.parts hsign hwhole .none .none
  rwa [List.append_nil, List.append_nil] at h

theorem isNumber_ofInt (n : Int) : IsNumber (Text.ofInt n) := by
  cases n with
  | ofNat n =>
      refine isNumber_whole (.inl rfl) ?_
      by_cases h : n = 0
      · exact .inl (by rw [h]; rfl)
      · exact .inr (isSignificant_ofNat h)
  | negSucc n =>
      exact @isNumber_whole "-" _ (.inr rfl) (.inr (isSignificant_ofNat (Nat.succ_ne_zero n)))

/-! ## Floating point numbers -/

theorem isDigits_append {s t : Text} (hs : s.isDigits = true) (ht : ∀ c ∈ t, c.isDigit = true) :
    (s ++ t : Text).isDigits = true := by
  obtain ⟨hne, hall⟩ := Text.isDigits_iff.mp hs
  exact Text.isDigits_iff.mpr ⟨by simp [hne], List.forall_mem_append.mpr ⟨hall, ht⟩⟩

theorem isDigit_of_mem_zeros {n : Nat} : ∀ c ∈ Text.replicate n "0", c.isDigit = true := by
  intro c hc
  obtain ⟨zero, hzero, hc⟩ := List.mem_flatten.mp hc
  rw [List.eq_of_mem_replicate hzero] at hc
  obtain rfl := List.mem_singleton.mp hc
  decide

/-- Digits that go on with digits. -/
theorem IsSignificant.append {s t : Text} (hs : IsSignificant s) (ht : ∀ c ∈ t, c.isDigit = true) :
    IsSignificant (s ++ t) := by
  refine ⟨isDigits_append hs.1 ht, ?_⟩
  cases s with
  | nil => cases hs.1
  | cons d rest => exact hs.2

/-- Digits cut short. -/
theorem IsSignificant.take {s : Text} (hs : IsSignificant s) {n : Nat} (hn : 0 < n) :
    IsSignificant (s.take n) := by
  cases s with
  | nil => cases hs.1
  | cons d rest =>
      obtain ⟨n, rfl⟩ := Nat.exists_eq_succ_of_ne_zero (Nat.ne_of_gt hn)
      refine ⟨Text.isDigits_iff.mpr ⟨List.cons_ne_nil _ _, fun c hc => ?_⟩, hs.2⟩
      exact (Text.isDigits_iff.mp hs.1).2 c (List.mem_of_mem_take hc)

/-- Digits in front of a point, and digits behind it. -/
theorem isNumber_point {sign whole ds : Text} (hsign : sign = [] ∨ sign = "-")
    (hwhole : whole = "0" ∨ IsSignificant whole) (hds : ds.isDigits = true) :
    IsNumber (sign ++ (whole ++ ("." ++ ds))) := by
  have h := IsNumber.parts hsign hwhole (.digits hds) .none
  rwa [List.append_nil] at h

section Layout

open Binary64

variable {sign digits : Text}

/-- The exponent of the scientific layout. -/
theorem isExponent_power {point : Int} :
    IsExponent (Text.ofString (if point < 0 then "e-" else "e+") ++
      (Text.ofString (if point.natAbs < 10 then "0" else "") ++ Text.ofNat point.natAbs)) := by
  have hds : (Text.ofString (if point.natAbs < 10 then "0" else "") ++
      Text.ofNat point.natAbs : Text).isDigits = true := by
    split
    · exact isDigits_append (s := "0") rfl (Text.isDigits_iff.mp (Text.isDigits_ofNat _)).2
    · exact Text.isDigits_ofNat _
  split
  · exact @IsExponent.digits "e" "-" _ (.inl rfl) (.inr (.inr rfl)) hds
  · exact @IsExponent.digits "e" "+" _ (.inl rfl) (.inr (.inl rfl)) hds

/-- Digits are laid out as a number, whatever the exponent. -/
theorem isNumber_layout (hsign : sign = [] ∨ sign = "-") (hdigits : IsSignificant digits)
    (exponent : Int) : IsNumber (sign ++ layout digits exponent) := by
  obtain ⟨hne, hall⟩ := Text.isDigits_iff.mp hdigits.1
  unfold layout
  simp only
  split
  · split
    · -- all digits stand behind the point
      have hbehind : (Text.replicate (-(exponent + digits.length)).toNat "0" ++ digits).isDigits =
          true := by
        refine Text.isDigits_iff.mpr ⟨by simp [hne], ?_⟩
        exact List.forall_mem_append.mpr ⟨isDigit_of_mem_zeros, hall⟩
      exact @isNumber_point _ "0" _ hsign (.inl rfl) hbehind
    · next hpoint =>
        split
        · -- all digits stand in front of it
          have hwhole : IsSignificant (digits ++ Text.replicate exponent.toNat "0") :=
            hdigits.append isDigit_of_mem_zeros
          exact @isNumber_point _ _ "0" hsign (.inr hwhole) rfl
        · next hexponent =>
            have hwhole := hdigits.take (n := (exponent + digits.length).toNat) (by omega)
            have hbehind : Text.isDigits (digits.drop (exponent + digits.length).toNat) = true := by
              refine Text.isDigits_iff.mpr ⟨?_, fun c hc => hall c (List.mem_of_mem_drop hc)⟩
              rw [Ne, List.drop_eq_nil_iff]
              omega
            rw [List.append_assoc]
            exact isNumber_point hsign (.inr hwhole) hbehind
  · -- the first digit stands in front of the point, and the others behind it
    rw [List.append_assoc, List.append_assoc]
    obtain ⟨d, rest, rfl⟩ := List.exists_cons_of_ne_nil hne
    have hwhole : IsSignificant [d] := hdigits.take Nat.one_pos
    cases rest with
    | nil => exact @IsNumber.parts sign [d] [] _ hsign (.inr hwhole) .none isExponent_power
    | cons next rest =>
        have hbehind : Text.isDigits (next :: rest) = true :=
          Text.isDigits_iff.mpr ⟨List.cons_ne_nil _ _, (List.forall_mem_cons.mp hall).2⟩
        exact @IsNumber.parts sign [d] _ _ hsign (.inr hwhole) (.digits hbehind) isExponent_power

/-- Digits without the zeros at their end. -/
theorem IsSignificant.dropEndWhile (h : IsSignificant digits) :
    IsSignificant (digits.dropEndWhile (· = .scalar '0')) := by
  have hkept : digits.dropEndWhile (· = .scalar '0') <+: digits := by
    rw [Text.dropEndWhile, ← List.reverse_suffix, List.reverse_reverse]
    exact List.dropWhile_suffix _
  -- the first digit is not dropped
  have hne : digits.dropEndWhile (· = .scalar '0') ≠ [] := by
    intro hnil
    rw [Text.dropEndWhile, List.reverse_eq_nil_iff, List.dropWhile_eq_nil_iff] at hnil
    obtain ⟨d, rest, rfl⟩ := List.exists_cons_of_ne_nil (Text.isDigits_iff.mp h.1).1
    have hd := hnil d (List.mem_reverse.mpr List.mem_cons_self)
    exact h.2 (congrArg some (of_decide_eq_true hd))
  rw [List.prefix_iff_eq_take.mp hkept]
  exact h.take (List.length_pos_iff.mpr hne)

/-- An interval above zero does not hold zero. -/
theorem holds_zero {i : Interval} (hlow : 0 < i.low) (hhigh : 0 < i.high) (p : Int) :
    i.holds 0 p = false := by
  have hgrid : ∀ num, 0 < num → gridCompare num i.den 0 p = .gt := by
    intro num hnum
    cases p with
    | ofNat e =>
        rw [gridCompare, Nat.mul_zero, Nat.zero_mul]
        exact Nat.compare_eq_gt.mpr hnum
    | negSucc e =>
        rw [gridCompare, Nat.mul_zero]
        exact Nat.compare_eq_gt.mpr (Nat.mul_pos hnum (Nat.pow_pos (by decide)))
  rw [Interval.holds, hgrid _ hlow, hgrid _ hhigh]

/-- The numbers that round to a positive number are above zero. -/
theorem roundingInterval_pos {m : Nat} (hm : 0 < m) (e : Int) :
    0 < (roundingInterval m e).low ∧ 0 < (roundingInterval m e).high := by
  have hscale : 0 < (ratio 1 e).1 := by
    cases e with
    | ofNat k => exact Nat.mul_pos Nat.one_pos (Nat.pow_pos (by decide))
    | negSucc k => exact Nat.one_pos
  unfold roundingInterval
  simp only
  constructor
  · split <;> exact Nat.mul_pos (by omega) hscale
  · exact Nat.mul_pos (by omega) hscale

/-- Digits are taken from the grid if they lie in the interval. -/
theorem holds_digitsOn? {num den : Nat} {i : Interval} {point : Int} {count k : Nat} {p : Int}
    (h : digitsOn? num den i point count = some (k, p)) : i.holds k p = true := by
  have htaken : ∀ (n d : Nat) (q : Int),
      (if i.holds (roundDiv n d) q then some (roundDiv n d, q)
        else if i.holds (n / d) q then some (n / d, q)
        else if i.holds (n / d + 1) q then some (n / d + 1, q)
        else none) = some (k, p) → i.holds k p = true := by
    intro n d q h
    split at h
    · next hholds =>
        cases h
        exact hholds
    · split at h
      · next hholds =>
          cases h
          exact hholds
      · split at h
        · next hholds =>
            cases h
            exact hholds
        · cases h
  exact htaken _ _ _ h

/-- The shortest digits of a positive number are not zero, unless they are those of the number in
front of the point. -/
theorem shortest_ne_zero {m : Nat} (hm : 0 < m) (e : Int) :
    (shortest m e).1 ≠ 0 ∨ (shortest m e).2 = 0 := by
  obtain ⟨hlow, hhigh⟩ := roundingInterval_pos hm e
  unfold shortest
  simp only
  cases hfound : (List.range 17).findSome? fun c => digitsOn? (ratio m e).1 (ratio m e).2
      (roundingInterval m e) (decimalPoint (ratio m e).1 (ratio m e).2) (c + 1) with
  | none => exact .inr rfl
  | some found =>
      obtain ⟨c, -, hdigits⟩ := List.exists_of_findSome?_eq_some hfound
      obtain ⟨k, p⟩ := found
      have hholds := holds_digitsOn? hdigits
      refine .inl fun (hzero : k = 0) => ?_
      rw [hzero, holds_zero hlow hhigh] at hholds
      cases hholds

theorem isNumber_trimmed (hsign : sign = [] ∨ sign = "-") {k : Nat} {p : Int}
    (h : k ≠ 0 ∨ p = 0) :
    IsNumber (sign ++ layout (trimZeros (Text.ofNat k) p).1 (trimZeros (Text.ofNat k) p).2) := by
  by_cases hk : k = 0
  · -- nothing is left of zero, and what is left is laid out as zero
    obtain rfl := h.resolve_left (not_not_intro hk)
    subst hk
    exact @isNumber_point _ "0" "0" hsign (.inl rfl) rfl
  · exact isNumber_layout hsign (isSignificant_ofNat hk).dropEndWhile _

/-- A finite number is written as a number. -/
theorem isNumber_text (negative : Bool) (m : Nat) (e : Int) :
    IsNumber (Binary64.text (.finite negative m e)) := by
  have hsign : (if negative then Text.ofString "-" else Text.ofString "") = [] ∨
      (if negative then Text.ofString "-" else Text.ofString "") = "-" := by
    cases negative <;> decide
  rw [Binary64.text]
  split
  · exact @isNumber_point _ "0" "0" hsign (.inl rfl) rfl
  · next hm =>
      have hpos : 0 < m := Nat.pos_of_ne_zero (by simpa using hm)
      exact isNumber_trimmed hsign (shortest_ne_zero hpos e)

end Layout

theorem isNumber_floatText {x : Binary64} (h : x.isFinite = true) : IsNumber (floatText x) := by
  cases x with
  | finite negative m e => exact isNumber_text negative m e
  | infinite negative => cases h
  | nan => cases h

/-! ## Stray letters -/

/-- Outside of strings stands one of the letters that the words for numbers which are not finite
begin with.  The flag says that the text begins within a string. -/
def strays : Bool → Text → Bool
  | _, [] => false
  | true, .scalar '\\' :: _ :: rest => strays true rest
  | true, c :: rest => strays (c ≠ doubleQuote) rest
  | false, c :: rest => c = 'N' || c = 'I' || strays (c = doubleQuote) rest

/-- A text that is passed over, with its strings, whatever stands behind it. -/
def IsClean (t : Text) : Prop := ∀ rest, strays false (t ++ rest) = strays false rest

/-- A text with a stray letter, whatever stands behind it. -/
def IsStray (t : Text) : Prop := ∀ rest, strays false (t ++ rest) = true

theorem IsClean.not_isStray {t : Text} (h : IsClean t) : ¬ IsStray t := by
  intro hstray
  cases (h []).symm.trans (hstray [])

theorem isClean_nil : IsClean [] := fun _ => rfl

theorem IsClean.append {s t : Text} (hs : IsClean s) (ht : IsClean t) : IsClean (s ++ t) := by
  intro rest
  rw [List.append_assoc, hs, ht]

theorem IsStray.append {s : Text} (h : IsStray s) (t : Text) : IsStray (s ++ t) := by
  intro rest
  rw [List.append_assoc, h]

theorem IsClean.append_stray {s t : Text} (hs : IsClean s) (ht : IsStray t) : IsStray (s ++ t) := by
  intro rest
  rw [List.append_assoc, hs, ht]

/-- Neither a quote nor a stray letter. -/
def IsBare (c : CodePoint) : Prop := c ≠ doubleQuote ∧ c ≠ 'N' ∧ c ≠ 'I'

instance : DecidablePred IsBare := fun c =>
  inferInstanceAs (Decidable (c ≠ doubleQuote ∧ c ≠ 'N' ∧ c ≠ 'I'))

theorem isClean_of_bare {t : Text} (h : ∀ c ∈ t, IsBare c) : IsClean t := by
  intro rest
  induction t with
  | nil => rfl
  | cons c t ih =>
      obtain ⟨⟨hquote, hn, hi⟩, ht⟩ := List.forall_mem_cons.mp h
      rw [List.cons_append, strays]
      simp only [hquote, hn, hi, decide_false, Bool.false_or]
      exact ih ht

theorem isClean_join {sep : Text} (hsep : IsClean sep) :
    ∀ {items : List Text}, (∀ t ∈ items, IsClean t) → IsClean (Text.join sep items)
  | [], _ => isClean_nil
  | [t], h => h t List.mem_cons_self
  | t :: next :: rest, h => by
      obtain ⟨ht, hrest⟩ := List.forall_mem_cons.mp h
      exact (ht.append hsep).append (isClean_join hsep hrest)

/-- A stray letter in an item is one in the items joined. -/
theorem isStray_join {sep : Text} (hsep : IsClean sep) :
    ∀ {items : List Text}, (∀ t ∈ items, IsClean t ∨ IsStray t) → (∃ t ∈ items, IsStray t) →
      IsStray (Text.join sep items)
  | [], _, hstray => by
      obtain ⟨t, ht, -⟩ := hstray
      cases ht
  | [t], _, hstray => by
      obtain ⟨u, hu, hstray⟩ := hstray
      rwa [List.mem_singleton.mp hu] at hstray
  | t :: next :: rest, h, hstray => by
      obtain ⟨ht | ht, hrest⟩ := List.forall_mem_cons.mp h
      · refine (ht.append hsep).append_stray (isStray_join hsep hrest ?_)
        obtain ⟨u, hu, hstray⟩ := hstray
        obtain rfl | hu := List.mem_cons.mp hu
        · exact absurd hstray ht.not_isStray
        · exact ⟨u, hu, hstray⟩
      · exact (ht.append sep).append _

/-! ### Productions without stray letters -/

theorem isBare_of_isDigit {c : CodePoint} (h : c.isDigit = true) : IsBare c := by
  refine ⟨?_, ?_, ?_⟩ <;>
  · rintro rfl
    exact absurd h (by decide)

theorem isClean_of_isDigits {t : Text} (h : t.isDigits = true) : IsClean t :=
  isClean_of_bare fun c hc => isBare_of_isDigit ((Text.isDigits_iff.mp h).2 c hc)

theorem isClean_of_isSpace {t : Text} (h : IsSpace t) : IsClean t := by
  have hbare : ∀ c ∈ Text.ofString " \t\n\r", IsBare c := by decide
  exact isClean_of_bare fun c hc => hbare c (h c hc)

theorem isClean_of_isNumber {t : Text} (h : IsNumber t) : IsClean t := by
  obtain ⟨hsign, hwhole, hfraction, hexponent⟩ := h
  refine .append ?_ (.append ?_ (.append ?_ ?_))
  · obtain rfl | rfl := hsign <;> exact isClean_of_bare (by decide)
  · obtain rfl | hwhole := hwhole
    · exact isClean_of_bare (by decide)
    · exact isClean_of_isDigits hwhole.1
  · cases hfraction with
    | none => exact isClean_nil
    | digits h => exact .append (isClean_of_bare (by decide)) (isClean_of_isDigits h)
  · cases hexponent with
    | none => exact isClean_nil
    | digits hmark hsign h =>
        refine .append ?_ (.append ?_ (isClean_of_isDigits h))
        · obtain rfl | rfl := hmark <;> exact isClean_of_bare (by decide)
        · obtain rfl | rfl | rfl := hsign <;> exact isClean_of_bare (by decide)

theorem strays_cons {c : CodePoint} (h : c ≠ '\\') (rest : Text) :
    strays true (c :: rest) = strays (c ≠ doubleQuote) rest := by
  rw [strays]
  exact fun _ _ heq _ => h heq

/-- Within a string, what stands for one code point is passed over. -/
theorem strays_of_isPiece {p : Text} (h : IsPiece p) (rest : Text) :
    strays true (p ++ rest) = strays true rest := by
  cases h with
  | itself _ hquote hbackslash =>
      rw [List.singleton_append, strays_cons hbackslash]
      simp only [hquote, ne_eq, not_false_iff, decide_true]
  | escape _ => rfl
  | @number ds _ hdigits =>
      have hpassed : ∀ ds : Text, (∀ d ∈ ds, d.hexValue?.isSome = true) →
          strays true (ds ++ rest) = strays true rest := by
        intro ds hdigits
        induction ds with
        | nil => rfl
        | cons d ds ih =>
            obtain ⟨hd, hds⟩ := List.forall_mem_cons.mp hdigits
            have hplain : d ≠ '\\' ∧ d ≠ doubleQuote := by
              constructor <;>
              · rintro rfl
                exact absurd hd (by decide)
            rw [List.cons_append, strays_cons hplain.1]
            simp only [hplain.2, ne_eq, not_false_iff, decide_true]
            exact ih hds
      exact hpassed ds hdigits

theorem isClean_of_isString {t : Text} (h : IsString t) : IsClean t := by
  obtain ⟨pieces, hpieces, rfl⟩ := h
  intro rest
  have hpassed : strays true (pieces.flatten ++ (doubleQuote :: rest)) = strays false rest := by
    induction pieces with
    | nil => rfl
    | cons p pieces ih =>
        obtain ⟨hp, hpieces⟩ := List.forall_mem_cons.mp hpieces
        rw [List.flatten_cons, List.append_assoc, strays_of_isPiece hp, ih hpieces]
  rw [List.cons_append, List.cons_append, List.append_assoc, List.singleton_append]
  exact hpassed

theorem isClean_of_isName {t : Text} (h : IsName t) : IsClean t := by
  obtain ⟨before, s, after, hbefore, hs, hafter, rfl⟩ := h
  exact (isClean_of_isSpace hbefore).append
    ((isClean_of_isString hs).append (isClean_of_isSpace hafter))

/-- JSON has no stray letter. -/
theorem IsJson.isClean {t : Text} (h : IsJson t) : IsClean t := by
  have hbare : ∀ mark ∈ (["null", "true", "false", "[", "]", "\x7b", "\x7d", ",", ":"] : List Text),
      IsClean mark := by
    have hmarks : ∀ mark ∈ (["null", "true", "false", "[", "]", "\x7b", "\x7d", ",", ":"] :
        List Text), ∀ c ∈ mark, IsBare c := by decide
    exact fun mark hmark => isClean_of_bare (hmarks mark hmark)
  induction h with
  | literal h => exact hbare _ (List.mem_append_left _ h)
  | number h => exact isClean_of_isNumber h
  | string h => exact isClean_of_isString h
  | noItems h =>
      exact (hbare "[" (by decide)).append ((isClean_of_isSpace h).append (hbare "]" (by decide)))
  | items _ _ ih =>
      exact (hbare "[" (by decide)).append
        ((isClean_join (hbare "," (by decide)) ih).append (hbare "]" (by decide)))
  | noMembers h =>
      exact (hbare "\x7b" (by decide)).append
        ((isClean_of_isSpace h).append (hbare "\x7d" (by decide)))
  | members _ hnames _ ih =>
      have hmembers := isClean_join (hbare "," (by decide)) (List.forall_mem_map.mpr fun m hm =>
        (isClean_of_isName (hnames m hm)).append ((hbare ":" (by decide)).append (ih m hm)))
      exact (hbare "\x7b" (by decide)).append (hmembers.append (hbare "\x7d" (by decide)))
  | spaced hbefore _ hafter ih =>
      exact (isClean_of_isSpace hbefore).append (ih.append (isClean_of_isSpace hafter))

/-- What is not a finite number is written with a stray letter. -/
theorem isStray_floatText {x : Binary64} (h : x.isFinite = false) : IsStray (floatText x) := by
  cases x with
  | finite negative m e => cases h
  | infinite negative => cases negative <;> exact fun _ => rfl
  | nan => exact fun _ => rfl

end ConfigReader.Json
