import ConfigReader.Proofs.Decimals

/-!
# Numerals

A *numeral* is a sign, or none, and digits, with blank space around them.  `Numeral` says so without
a reader, and `numeral_iff` that stripping a text and cutting off its sign finds the parts of a
numeral.  The digits may be of any script, and stand for the number that the same digits of ASCII
spell.

A text is read as an integer exactly when it is a numeral that is not too long
(`parseInteger_numeral`).  The digits of one numeral may be of several scripts.
-/

namespace ConfigReader

/-! ## Digits of any script -/

namespace CodePoint

variable {c : CodePoint} {d : Nat}

theorem decimal?_eq_some (h : c.decimal? = some d) :
    ∃ start ∈ decimalZeros, start ≤ c.toNat ∧ c.toNat < start + 10 ∧ d = c.toNat - start := by
  obtain ⟨start, hstart, rfl⟩ := Option.map_eq_some_iff.mp h
  have hrange := List.find?_some hstart
  simp only [Bool.and_eq_true, decide_eq_true_eq] at hrange
  exact ⟨start, List.mem_of_find?_eq_some hstart, hrange.1, hrange.2, rfl⟩

theorem decimal?_lt (h : c.decimal? = some d) : d < 10 := by
  obtain ⟨start, -, hlow, hhigh, rfl⟩ := decimal?_eq_some h
  omega

/-- No digit is blank. -/
theorem not_isBlank_of_decimal? (h : c.decimal? = some d) : c.isBlank = false := by
  have hzeros : ∀ start ∈ decimalZeros, start = 0x30 ∨ 0xA0 < start ∧ start + 10 ≤ 0x1680 ∨
      0x1680 < start ∧ start + 10 ≤ 0x2000 ∨ 0x3000 < start := by decide
  obtain ⟨start, hstart, hlow, hhigh, -⟩ := decimal?_eq_some h
  have hrange := hzeros start hstart
  simp [isBlank]
  omega

/-- The ASCII digit with the value of a digit; all else unchanged. -/
def asciiDigit (c : CodePoint) : CodePoint := c.decimal?.elim c fun d => .scalar (Nat.digitChar d)

theorem isDigit_asciiDigit : c.asciiDigit.isDigit = c.decimal?.isSome := by
  cases h : c.decimal? with
  | some d =>
      rw [asciiDigit, h, Option.elim_some, isDigit, Nat.isDigit_digitChar, decide_eq_true_eq.mpr]
      · rfl
      · exact decimal?_lt h
  | none =>
      rw [asciiDigit, h, Option.elim_none, Option.isSome_none, Bool.eq_false_iff]
      intro hdigit
      rw [decimal?_of_isDigit hdigit] at h
      cases h

theorem decimal?_asciiDigit : c.asciiDigit.decimal? = c.decimal? := by
  cases h : c.decimal? with
  | some d =>
      have hdigit : c.asciiDigit.isDigit = true := by rw [isDigit_asciiDigit, h, Option.isSome_some]
      have hvalue : c.asciiDigit.toNat = 48 + d := by
        rw [asciiDigit, h]
        exact Nat.toNat_digitChar_of_lt_ten (decimal?_lt h)
      rw [decimal?_of_isDigit hdigit, hvalue, Nat.add_sub_cancel_left]
  | none => rw [asciiDigit, h, Option.elim_none, h]

theorem asciiDigit_of_isDigit (h : c.isDigit = true) : c.asciiDigit = c := by
  obtain ⟨hlow, hhigh⟩ := toNat_of_isDigit h
  rw [asciiDigit, decimal?_of_isDigit h, Option.elim_some]
  cases c with
  | scalar c =>
      refine congrArg scalar (Char.toNat_inj.mp ?_)
      rw [Nat.toNat_digitChar_of_lt_ten (by omega)]
      exact Nat.add_sub_cancel' hlow
  | surrogate i => cases h

end CodePoint

namespace Text

variable {t : Text}

theorem asciiDigits_eq_map (t : Text) : asciiDigits t = t.map CodePoint.asciiDigit := by
  refine List.map_congr_left fun c _ => ?_
  rw [CodePoint.asciiDigit]
  cases c.decimal? <;> rfl

/-- Digits of any script become ASCII digits, and nothing else does. -/
theorem isDigits_asciiDigits :
    t.asciiDigits.isDigits = true ↔ t ≠ [] ∧ ∀ c ∈ t, c.decimal?.isSome = true := by
  rw [isDigits_iff, asciiDigits_eq_map, Ne, List.map_eq_nil_iff, List.forall_mem_map]
  simp only [CodePoint.isDigit_asciiDigit]

/-- ASCII digits stay as they are. -/
theorem asciiDigits_of_isDigits (h : t.isDigits = true) : t.asciiDigits = t := by
  rw [asciiDigits_eq_map]
  refine (List.map_congr_left fun c hc => ?_).trans (List.map_id t)
  exact CodePoint.asciiDigit_of_isDigit ((isDigits_iff.mp h).2 c hc)

theorem mapM_decimal?_asciiDigits (t : Text) :
    t.asciiDigits.mapM CodePoint.decimal? = t.mapM CodePoint.decimal? := by
  rw [asciiDigits_eq_map, List.mapM_map]
  exact congrArg (t.mapM ·) (funext fun c => CodePoint.decimal?_asciiDigit)

theorem isSome_of_mapM_decimal? {ds : List Nat} (h : t.mapM CodePoint.decimal? = some ds) :
    ∀ c ∈ t, c.decimal?.isSome = true := by
  induction t generalizing ds with
  | nil => exact nofun
  | cons c rest ih =>
      rw [List.mapM_cons] at h
      obtain ⟨d, hd, h⟩ := Option.bind_eq_some_iff.mp h
      obtain ⟨more, hmore, -⟩ := Option.bind_eq_some_iff.mp h
      exact List.forall_mem_cons.mpr ⟨Option.isSome_of_eq_some hd, ih hmore⟩

end Text

/-! ## Numerals -/

/-- A sign in front of digits, or none, and whether it is a minus sign. -/
inductive Sign : Bool → Text → Prop
  /-- No sign. -/
  | none : Sign false []
  /-- A plus sign. -/
  | plus : Sign false [.scalar '+']
  /-- A minus sign. -/
  | minus : Sign true [.scalar '-']

/-- A text that is a numeral with these digits. -/
inductive Numeral (negative : Bool) (digits : Text) : Text → Prop
  /-- The parts of a numeral stand behind each other. -/
  | parts {before sign after : Text} (hbefore : ∀ c ∈ before, c.isBlank = true)
      (hsign : Sign negative sign) (hdigits : digits.asciiDigits.isDigits = true)
      (hafter : ∀ c ∈ after, c.isBlank = true) :
      Numeral negative digits (before ++ (sign ++ digits ++ after))

/-- The number of a numeral. -/
def signedNumber (negative : Bool) (digits : Text) : Int :=
  if negative then -(digits.asciiDigits.toNat : Int) else digits.asciiDigits.toNat

theorem signed_append {negative : Bool} {sign digits : Text} (hsign : Sign negative sign)
    (hdigits : ∀ c ∈ digits, c.decimal?.isSome = true) :
    Text.signed (sign ++ digits) = (negative, digits) := by
  cases hsign with
  | none =>
      rw [List.nil_append]
      unfold Text.signed
      split
      · exact absurd (hdigits (.scalar '+') List.mem_cons_self) (by decide)
      · exact absurd (hdigits (.scalar '-') List.mem_cons_self) (by decide)
      · rfl
  | plus => rfl
  | minus => rfl

theorem exists_sign (t : Text) : ∃ sign, Sign t.signed.1 sign ∧ t = sign ++ t.signed.2 := by
  unfold Text.signed
  split
  · exact ⟨_, .plus, rfl⟩
  · exact ⟨_, .minus, rfl⟩
  · exact ⟨_, .none, rfl⟩

/-- The parts of a numeral are found by stripping the text and cutting off the sign. -/
theorem numeral_iff {negative : Bool} {digits text : Text} :
    Numeral negative digits text ↔
      text.strip.signed = (negative, digits) ∧ digits.asciiDigits.isDigits = true := by
  constructor
  · rintro ⟨hbefore, hsign, hdigits, hafter⟩
    have hall := (Text.isDigits_asciiDigits.mp hdigits).2
    refine ⟨?_, hdigits⟩
    rw [Text.strip, Text.trim_between hbefore hafter, signed_append hsign hall]
    intro c hc
    obtain hc | hc := List.mem_append.mp hc
    · cases hsign with
      | none => cases hc
      | plus =>
          rw [List.mem_singleton.mp hc]
          decide
      | minus =>
          rw [List.mem_singleton.mp hc]
          decide
    · obtain ⟨d, hd⟩ := Option.isSome_iff_exists.mp (hall c hc)
      exact CodePoint.not_isBlank_of_decimal? hd
  · rintro ⟨hsigned, hdigits⟩
    obtain ⟨before, after, htext, hbefore, hafter⟩ := Text.exists_trim CodePoint.isBlank text
    obtain ⟨sign, hsign, hstrip⟩ := exists_sign text.strip
    rw [hsigned] at hsign hstrip
    rw [htext, ← Text.strip, hstrip]
    exact .parts hbefore hsign hdigits hafter

/-! ## Reading -/

/-- A text is read by the digits behind its sign, if they are digits. -/
theorem parseInteger_eq (text path : Text) :
    parseInteger text path =
      if text.strip.signed.2.asciiDigits.isDigits then
        if text.strip.signed.2.length > digitLimit then
          .error (.integerTooLong (some text.strip.signed.2.length))
        else .ok (signedNumber text.strip.signed.1 text.strip.signed.2)
      else .error (.read (.malformed path "Integer" (.text text))) := by
  rw [parseInteger]
  generalize text.strip.signed = parts
  obtain ⟨negative, digits⟩ := parts
  by_cases hdigits : digits.asciiDigits.isDigits = true
  · have hall := (Text.isDigits_iff.mp hdigits).2
    have hvalues := Text.mapM_decimal? hall
    have hlength : digits.asciiDigits.length = digits.length := List.length_map _
    rw [Text.mapM_decimal?_asciiDigits] at hvalues
    rw [if_pos hdigits, ← hlength]
    cases hascii : digits.asciiDigits with
    | nil =>
        rw [hascii] at hdigits
        cases hdigits
    | cons c rest =>
        rw [hascii] at hall hvalues
        have hnumber := Text.foldl_digits hall 0
        rw [List.map_cons] at hvalues hnumber
        simp only [hvalues, signedNumber, hascii, hnumber, List.length_cons, List.length_map]
        rfl
  · rw [if_neg hdigits]
    cases hvalues : digits.mapM CodePoint.decimal? with
    | none =>
        simp only [hvalues]
        rfl
    | some values => cases values with
      | nil =>
          simp only [hvalues]
          rfl
      | cons d ds =>
          refine absurd (Text.isDigits_asciiDigits.mpr ⟨?_, Text.isSome_of_mapM_decimal? hvalues⟩)
            hdigits
          rintro rfl
          cases hvalues

section Outcomes

variable {text : Text} (path : Text)

theorem parseInteger_of_numeral {negative : Bool} {digits : Text}
    (h : Numeral negative digits text) :
    parseInteger text path =
      if digits.length > digitLimit then .error (.integerTooLong (some digits.length))
      else .ok (signedNumber negative digits) := by
  obtain ⟨hsigned, hdigits⟩ := numeral_iff.mp h
  rw [parseInteger_eq, hsigned, if_pos hdigits]

theorem parseInteger_of_no_numeral (h : ¬ ∃ negative digits, Numeral negative digits text) :
    parseInteger text path = .error (.read (.malformed path "Integer" (.text text))) := by
  rw [parseInteger_eq, if_neg]
  exact fun hdigits => h ⟨_, _, numeral_iff.mpr ⟨rfl, hdigits⟩⟩

/-- A text is a numeral in one way at most. -/
theorem Numeral.unique {negative negative' : Bool} {digits digits' : Text}
    (h : Numeral negative digits text) (h' : Numeral negative' digits' text) :
    negative = negative' ∧ digits = digits' := by
  have hparts := (numeral_iff.mp h).1.symm.trans (numeral_iff.mp h').1
  exact Prod.mk.inj hparts

theorem parseInteger_eq_ok {n : Int} :
    parseInteger text path = .ok n ↔
      ∃ negative digits, Numeral negative digits text ∧ digits.length ≤ digitLimit ∧
        n = signedNumber negative digits := by
  constructor
  · intro h
    by_cases hnumeral : ∃ negative digits, Numeral negative digits text
    · obtain ⟨negative, digits, hnumeral⟩ := hnumeral
      rw [parseInteger_of_numeral path hnumeral] at h
      split at h
      · cases h
      · next hlength =>
          cases h
          exact ⟨negative, digits, hnumeral, Nat.le_of_not_lt hlength, rfl⟩
    · rw [parseInteger_of_no_numeral path hnumeral] at h
      cases h
  · rintro ⟨negative, digits, hnumeral, hlength, rfl⟩
    rw [parseInteger_of_numeral path hnumeral, if_neg (Nat.not_lt.mpr hlength)]

theorem parseInteger_eq_tooLong {count : Option Nat} :
    parseInteger text path = .error (.integerTooLong count) ↔
      ∃ negative digits, Numeral negative digits text ∧ digitLimit < digits.length ∧
        count = some digits.length := by
  constructor
  · intro h
    by_cases hnumeral : ∃ negative digits, Numeral negative digits text
    · obtain ⟨negative, digits, hnumeral⟩ := hnumeral
      rw [parseInteger_of_numeral path hnumeral] at h
      split at h
      · next hlength =>
          cases h
          exact ⟨negative, digits, hnumeral, hlength, rfl⟩
      · cases h
    · rw [parseInteger_of_no_numeral path hnumeral] at h
      cases h
  · rintro ⟨negative, digits, hnumeral, hlength, rfl⟩
    rw [parseInteger_of_numeral path hnumeral, if_pos hlength]

theorem parseInteger_eq_malformed :
    parseInteger text path = .error (.read (.malformed path "Integer" (.text text))) ↔
      ¬ ∃ negative digits, Numeral negative digits text := by
  refine ⟨?_, parseInteger_of_no_numeral path⟩
  rintro h ⟨negative, digits, hnumeral⟩
  rw [parseInteger_of_numeral path hnumeral] at h
  split at h <;> cases h

end Outcomes

/-- A text is read as an integer exactly when it is a numeral whose digits, of any script, are not
too many.  A numeral of too many digits is refused for their number, and any other text as one that
does not fit, with its blank space.  So when no digit of another script and not too many digits
are in play, what is read is a sign, or none, and ASCII digits, and all else does not fit. -/
theorem parseInteger_numeral (text path : Text) :
    (∀ n, parseInteger text path = .ok n ↔
      ∃ negative digits, Numeral negative digits text ∧ digits.length ≤ digitLimit ∧
        n = signedNumber negative digits) ∧
    (∀ count, parseInteger text path = .error (.integerTooLong count) ↔
      ∃ negative digits, Numeral negative digits text ∧ digitLimit < digits.length ∧
        count = some digits.length) ∧
    (parseInteger text path = .error (.read (.malformed path "Integer" (.text text))) ↔
      ¬ ∃ negative digits, Numeral negative digits text) ∧
    ((∀ negative digits, Numeral negative digits text →
        digits.isDigits = true ∧ digits.length ≤ digitLimit) →
      (∀ n, parseInteger text path = .ok n ↔
        ∃ negative digits, Numeral negative digits text ∧ digits.isDigits = true ∧
          n = if negative then -(digits.toNat : Int) else digits.toNat) ∧
      ((¬ ∃ negative digits, Numeral negative digits text ∧ digits.isDigits = true) →
        parseInteger text path = .error (.read (.malformed path "Integer" (.text text))))) := by
  refine ⟨fun n => parseInteger_eq_ok path, fun count => parseInteger_eq_tooLong path,
    parseInteger_eq_malformed path, fun hplain => ⟨fun n => ?_, fun hnone => ?_⟩⟩
  · rw [parseInteger_eq_ok]
    constructor
    · rintro ⟨negative, digits, hnumeral, -, rfl⟩
      have hdigits := (hplain negative digits hnumeral).1
      refine ⟨negative, digits, hnumeral, hdigits, ?_⟩
      rw [signedNumber, Text.asciiDigits_of_isDigits hdigits]
    · rintro ⟨negative, digits, hnumeral, hdigits, rfl⟩
      refine ⟨negative, digits, hnumeral, (hplain negative digits hnumeral).2, ?_⟩
      rw [signedNumber, Text.asciiDigits_of_isDigits hdigits]
  · refine parseInteger_of_no_numeral path ?_
    rintro ⟨negative, digits, hnumeral⟩
    exact hnone ⟨negative, digits, hnumeral, (hplain negative digits hnumeral).1⟩

example : parseInteger " -0\u0663\uFF14\n" "n" = .ok (-34) := rfl

/-- A digit that is no ASCII digit is read, and a numeral of 4301 ASCII digits is not read and is not
reported as a text that does not fit. -/
theorem numerals_beyond_plain :
    let other : Text := "\u0663"
    let digits : Text := List.replicate 4301 (.scalar '1')
    (parseInteger other "n" = .ok 3 ∧
      ¬ ∃ negative digits, Numeral negative digits other ∧ digits.isDigits = true) ∧
    (Numeral false digits digits ∧ digits.isDigits = true) ∧
      parseInteger digits "n" = .error (.integerTooLong (some 4301)) := by
  intro other digits
  have hother : other.strip.signed = (false, other) := rfl
  have hdigits : digits.isDigits = true := by
    rw [Text.isDigits, List.all_replicate]
    rfl
  have hlength : digits.length = 4301 := List.length_replicate
  -- nothing below may compute with the digits
  clear_value digits
  have hnumeral : Numeral false digits digits := by
    have hparts : Numeral false digits ([] ++ ([] ++ digits ++ [])) :=
      .parts (List.forall_mem_nil _) .none ((Text.asciiDigits_of_isDigits hdigits).symm ▸ hdigits)
        (List.forall_mem_nil _)
    simpa using hparts
  refine ⟨⟨rfl, ?_⟩, ⟨hnumeral, hdigits⟩, ?_⟩
  · rintro ⟨negative, found, hfound, hplain⟩
    rw [(numeral_iff.mp hfound).1] at hother
    cases hother
    exact absurd hplain (by decide)
  · rw [parseInteger_of_numeral "n" hnumeral, hlength]
    rfl

end ConfigReader
