import ConfigReader.Source
import Mathlib.Data.List.TakeWhile

/-!
# Decimal text read back

An integer is written in ASCII digits and read from digits of any script, so what is
written is read back: `parseInteger_ofInt`, for the integers that have a text.  A text
of too many digits is not read, whatever number it spells (`parseInteger_digits`).
-/

namespace ConfigReader

/-! ## Digits -/

namespace CodePoint

theorem toNat_of_isDigit {c : CodePoint} (h : c.isDigit = true) :
    48 ≤ c.toNat ∧ c.toNat ≤ 57 := by
  cases c with
  | scalar c =>
      have hc : 48 ≤ c.toNat ∧ c.toNat ≤ 57 := by
        simpa [isDigit, Char.isDigit, UInt32.le_iff_toNat_le] using h
      exact hc
  | surrogate i => cases h

/-- An ASCII digit stands for its distance from zero. -/
theorem decimal?_of_isDigit {c : CodePoint} (h : c.isDigit = true) :
    c.decimal? = some (c.toNat - 48) := by
  obtain ⟨hlow, hhigh⟩ := toNat_of_isDigit h
  have hzero : decimalZeros.find? (fun start => start ≤ c.toNat && c.toNat < start + 10) =
      some 48 := by
    rw [decimalZeros, List.find?_cons_of_pos]
    simp only [Bool.and_eq_true, decide_eq_true_eq]
    omega
  rw [decimal?, hzero, Option.map_some]

theorem not_isBlank_of_isDigit {c : CodePoint} (h : c.isDigit = true) : c.isBlank = false := by
  obtain ⟨hlow, hhigh⟩ := toNat_of_isDigit h
  simp [isBlank]
  omega

theorem isDigit_separator : separator.isDigit = false := by decide

end CodePoint

namespace Text

theorem isDigits_iff {t : Text} : t.isDigits = true ↔ t ≠ [] ∧ ∀ c ∈ t, c.isDigit = true := by
  simp [isDigits, List.isEmpty_eq_false_iff]

/-- Code points of a class in front are dropped, up to the first one that is not of the class. -/
theorem dropWhile_lead {p : CodePoint → Bool} {lead rest : Text} (hlead : ∀ c ∈ lead, p c = true)
    (hrest : ∀ c, rest.head? = some c → p c = false) : (lead ++ rest).dropWhile p = rest := by
  rw [List.dropWhile_append_of_pos hlead]
  cases rest with
  | nil => rfl
  | cons c more => rw [List.dropWhile_cons_of_neg (by simp [hrest c rfl])]

/-- What stands between code points of a class is what is left when these are cut off. -/
theorem trim_between {p : CodePoint → Bool} {before t after : Text}
    (hbefore : ∀ c ∈ before, p c = true) (hafter : ∀ c ∈ after, p c = true)
    (h : ∀ c ∈ t, p c = false) : (before ++ (t ++ after)).trim p = t := by
  have hrev : (after.reverse ++ t.reverse).dropWhile p = t.reverse :=
    dropWhile_lead (fun c hc => hafter c (List.mem_reverse.mp hc))
      fun c hc => h c (List.mem_reverse.mp (List.mem_of_head? hc))
  rw [trim, dropEndWhile, List.dropWhile_append_of_pos hbefore]
  cases t with
  | nil =>
      have hnil : (after ++ []).dropWhile p = [] := dropWhile_lead hafter nofun
      rw [List.nil_append, ← List.append_nil after, hnil]
      rfl
  | cons c rest =>
      have hc : p c = false := h c List.mem_cons_self
      rw [List.cons_append, List.dropWhile_cons_of_neg (by simp [hc]), ← List.cons_append,
        List.reverse_append, hrev, List.reverse_reverse]

/-- A text without code points of a class has none at its ends. -/
theorem trim_eq_self {p : CodePoint → Bool} {t : Text} (h : ∀ c ∈ t, p c = false) :
    t.trim p = t := by
  have ht : trim p ([] ++ (t ++ [])) = t := trim_between nofun nofun h
  rwa [List.nil_append, List.append_nil] at ht

/-- What is cut off at the ends of a text is of the class. -/
theorem exists_trim (p : CodePoint → Bool) (t : Text) :
    ∃ before after, t = before ++ (t.trim p ++ after) ∧ (∀ c ∈ before, p c = true) ∧
      ∀ c ∈ after, p c = true := by
  refine ⟨t.takeWhile p, ((t.dropWhile p).reverse.takeWhile p).reverse, ?_,
    fun c => List.mem_takeWhile_imp, fun c hc => List.mem_takeWhile_imp (List.mem_reverse.mp hc)⟩
  rw [trim, dropEndWhile, ← List.reverse_append, List.takeWhile_append_dropWhile,
    List.reverse_reverse, List.takeWhile_append_dropWhile]

/-- ASCII digits have values, and these spell the number of the text. -/
theorem mapM_decimal? {t : Text} (h : ∀ c ∈ t, c.isDigit = true) :
    t.mapM CodePoint.decimal? = some (t.map fun c => c.toNat - 48) := by
  induction t with
  | nil => rfl
  | cons c rest ih =>
      rw [List.mapM_cons, CodePoint.decimal?_of_isDigit (h c List.mem_cons_self),
        ih fun d hd => h d (List.mem_cons_of_mem c hd)]
      rfl

theorem foldl_digits {t : Text} (h : ∀ c ∈ t, c.isDigit = true) (n : Nat) :
    (t.map fun c => c.toNat - 48).foldl (fun n d => 10 * n + d) n =
      t.foldl (fun n c => 10 * n + (if c.isDigit then c.toNat - 48 else 0)) n := by
  induction t generalizing n with
  | nil => rfl
  | cons c rest ih =>
      rw [List.map_cons, List.foldl_cons, List.foldl_cons, if_pos (h c List.mem_cons_self),
        ih fun d hd => h d (List.mem_cons_of_mem c hd)]

/-! ## Texts of numbers -/

theorem isDigits_ofNat (n : Nat) : (ofNat n).isDigits = true := by
  refine isDigits_iff.mpr ⟨by simp [ofNat, Nat.toDigits_ne_nil], fun c hc => ?_⟩
  obtain ⟨d, hd, rfl⟩ := List.mem_map.mp hc
  exact Nat.isDigit_of_mem_toDigits (by decide) (by decide) hd

theorem toNat_ofNat (n : Nat) : (ofNat n).toNat = n := by
  have hdigits : ∀ (cs : List Char), (∀ c ∈ cs, c.isDigit = true) → ∀ m : Nat,
      (cs.map CodePoint.scalar).foldl
        (fun n c => 10 * n + (if c.isDigit then c.toNat - 48 else 0)) m =
        Nat.ofDigitChars 10 cs m := by
    intro cs
    induction cs with
    | nil => exact fun _ _ => rfl
    | cons c rest ih =>
        intro h m
        have hc : (CodePoint.scalar c).isDigit = true := h c List.mem_cons_self
        rw [List.map_cons, List.foldl_cons, if_pos hc,
          ih fun d hd => h d (List.mem_cons_of_mem c hd)]
        rfl
  rw [toNat, ofNat, hdigits _ fun c hc => Nat.isDigit_of_mem_toDigits (by decide) (by decide) hc]
  exact Nat.ofDigitChars_toDigits (by decide) (by decide)

theorem ofNat_injective {m n : Nat} (h : ofNat m = ofNat n) : m = n := by
  rw [← toNat_ofNat m, h, toNat_ofNat]

/-- An integer has a text when its digits are not too many. -/
theorem hasDecimalText_iff {n : Int} :
    hasDecimalText n = true ↔ (ofNat n.natAbs).length ≤ digitLimit := by
  have hpos : 0 < digitLimit := by decide
  unfold hasDecimalText
  -- the power is too large to be computed
  generalize digitLimit = limit at hpos ⊢
  rw [decide_eq_true_eq, ofNat, List.length_map]
  exact (Nat.length_toDigits_le_iff (by decide) hpos).symm

theorem separator_notMem_of_isDigits {t : Text} (h : t.isDigits = true) : separator ∉ t := by
  intro hmem
  have hdigit := (isDigits_iff.mp h).2 _ hmem
  rw [CodePoint.isDigit_separator] at hdigit
  cases hdigit

theorem separator_notMem_ofNat (n : Nat) : separator ∉ ofNat n :=
  separator_notMem_of_isDigits (isDigits_ofNat n)

end Text

/-! ## Reading -/

/-- A text without blank space that stands for an integer: a sign, and then digits. -/
theorem parseInteger_signed {t digits : Text} {negative : Bool}
    (hblank : ∀ c ∈ t, c.isBlank = false) (hsign : t.signed = (negative, digits))
    (h : digits.isDigits = true) (path : Text) :
    parseInteger t path =
      if digits.length > digitLimit then .error (.integerTooLong (some digits.length))
      else .ok (if negative then -(digits.toNat : Int) else digits.toNat) := by
  obtain ⟨hne, hdigits⟩ := Text.isDigits_iff.mp h
  rw [parseInteger, Text.strip, Text.trim_eq_self hblank, hsign]
  cases digits with
  | nil => exact absurd rfl hne
  | cons c rest =>
      have hvalue := Text.foldl_digits hdigits 0
      rw [List.map_cons] at hvalue
      simp only [Text.mapM_decimal? hdigits, List.map_cons, List.length_cons, List.length_map,
        hvalue]
      rfl

theorem signed_of_digits {t : Text} (h : ∀ c ∈ t, c.isDigit = true) : t.signed = (false, t) := by
  unfold Text.signed
  split
  · exact absurd (h _ List.mem_cons_self) (by decide)
  · exact absurd (h _ List.mem_cons_self) (by decide)
  · rfl

/-- ASCII digits are read as the number they spell, if they are not too many. -/
theorem parseInteger_digits {t : Text} (h : t.isDigits = true) (path : Text) :
    parseInteger t path =
      if t.length > digitLimit then .error (.integerTooLong (some t.length))
      else .ok t.toNat := by
  have hdigits := (Text.isDigits_iff.mp h).2
  have hblank : ∀ c ∈ t, c.isBlank = false := fun c hc =>
    CodePoint.not_isBlank_of_isDigit (hdigits c hc)
  exact parseInteger_signed hblank (signed_of_digits hdigits) h path

/-- An integer that has a text is read back from it. -/
theorem parseInteger_ofInt {n : Int} (h : hasDecimalText n = true) (path : Text) :
    parseInteger (Text.ofInt n) path = .ok n := by
  have hlength : ¬ (Text.ofNat n.natAbs).length > digitLimit :=
    Nat.not_lt.mpr (Text.hasDecimalText_iff.mp h)
  have hdigits := (Text.isDigits_iff.mp (Text.isDigits_ofNat n.natAbs)).2
  cases n with
  | ofNat n =>
      have hlength : ¬ (Text.ofNat n).length > digitLimit := hlength
      rw [Text.ofInt, parseInteger_digits (Text.isDigits_ofNat n), if_neg hlength, Text.toNat_ofNat]
      rfl
  | negSucc n =>
      have hlength : ¬ (Text.ofNat (n + 1)).length > digitLimit := hlength
      have hblank : ∀ c ∈ CodePoint.scalar '-' :: Text.ofNat (n + 1), c.isBlank = false := by
        intro c hc
        obtain rfl | hc := List.mem_cons.mp hc
        · decide
        · exact CodePoint.not_isBlank_of_isDigit (hdigits c hc)
      rw [Text.ofInt, parseInteger_signed hblank rfl (Text.isDigits_ofNat (n + 1)), if_neg hlength,
        Text.toNat_ofNat]
      rfl

end ConfigReader
