import ConfigReader.Number.Literal
import ConfigReader.Proofs.Decimals
import Mathlib.Data.List.Forall2

/-!
# Hexadecimal digits read back

A literal may have space, a sign, underscores and the letter of its base, and digits of any
script.  None of these is a hexadecimal digit, so digits in base sixteen are a literal of the
number that they spell (`integerLiteral_of_hex`).  `HexLiteral` gives the literals in full, and
`integerLiteral_sixteen_iff` says that these and no others are read.  The number of a code point
names it again (`CodePoint.ofNat?_toNat`).
-/

namespace ConfigReader

/-! ## Hexadecimal digits -/

namespace CodePoint

theorem ofNat?_toNat (c : CodePoint) : ofNat? c.toNat = some c := by
  cases c with
  | scalar c =>
      have hvalid : c.toNat.isValidChar := c.valid
      rw [toNat, ofNat?, dif_pos hvalid]
      rfl
  | surrogate i =>
      have hi := i.isLt
      have hinvalid : ¬ (0xD800 + i.val).isValidChar := by
        unfold Nat.isValidChar
        omega
      have hsub : 0xD800 + i.val - 0xD800 = i.val := by omega
      rw [toNat, ofNat?, dif_neg hinvalid, dif_pos (by omega)]
      exact congrArg (fun j => some (surrogate j)) (Fin.ext hsub)

/-- Every number below that of the end of the code points is that of one. -/
theorem exists_toNat {n : Nat} (h : n < 0x110000) : ∃ c : CodePoint, c.toNat = n := by
  by_cases hvalid : n.isValidChar
  · exact ⟨scalar (Char.ofNatAux n hvalid), rfl⟩
  · have hsurrogate : n - 0xD800 < 2048 ∧ 0xD800 ≤ n := by
      unfold Nat.isValidChar at hvalid
      omega
    refine ⟨surrogate ⟨n - 0xD800, hsurrogate.1⟩, ?_⟩
    rw [toNat]
    exact Nat.add_sub_cancel' hsurrogate.2

theorem ofNat?_eq_some_iff {n : Nat} {c : CodePoint} : ofNat? n = some c ↔ c.toNat = n := by
  constructor
  · intro h
    by_cases hvalid : n.isValidChar
    · rw [ofNat?, dif_pos hvalid] at h
      cases h
      rfl
    · rw [ofNat?, dif_neg hvalid] at h
      unfold Nat.isValidChar at hvalid
      obtain ⟨hsurrogate, h⟩ := Option.dite_none_right_eq_some.mp h
      cases h
      exact Nat.add_sub_cancel' (by omega)
  · rintro rfl
    exact ofNat?_toNat c

/-- A property of all ASCII characters, checked number by number. -/
theorem forall_ascii {P : CodePoint → Prop} (h : ∀ n < 128, P (scalar (Char.ofNat n)))
    {c : CodePoint} (hc : c.toNat < 128) : P c := by
  cases c with
  | scalar c =>
      have hp := h c.toNat hc
      rwa [Char.ofNat_toNat] at hp
  | surrogate i =>
      rw [toNat] at hc
      omega

/-- A hexadecimal digit is an ASCII character. -/
theorem toNat_lt_of_hexValue? {c : CodePoint} {d : Nat} (h : c.hexValue? = some d) :
    c.toNat < 128 := by
  cases c with
  | surrogate i => cases h
  | scalar c =>
      simp only [hexValue?] at h
      split at h
      · next hdigit =>
          have := toNat_of_isDigit (c := .scalar c) hdigit
          omega
      · split at h
        · next hletter => exact Nat.lt_of_le_of_lt (m := 102) hletter.2 (by decide)
        · split at h
          · next hletter => exact Nat.lt_of_le_of_lt (m := 70) hletter.2 (by decide)
          · cases h

/-- A property of all hexadecimal digits, checked value by value. -/
theorem forall_hexValue? {P : CodePoint → Prop}
    (h : ∀ n < 128, (scalar (Char.ofNat n)).hexValue?.isSome = true → P (scalar (Char.ofNat n)))
    {c : CodePoint} {d : Nat} (hc : c.hexValue? = some d) : P c :=
  forall_ascii (P := fun c => c.hexValue?.isSome = true → P c) h (toNat_lt_of_hexValue? hc)
    (hc ▸ rfl)

/-- What no hexadecimal digit is, and what it is in a literal. -/
theorem plain_of_hexValue? {c : CodePoint} {d : Nat} (h : c.hexValue? = some d) :
    c.isLiteralBlank = false ∧ c ≠ '+' ∧ c ≠ '-' ∧ c ≠ '_' ∧ c.lowerAscii ≠ 'x' ∧
      c.digitValue? 16 = c.hexValue? ∧
      c.decimal?.all (fun d => .scalar (Nat.digitChar d) = c) = true :=
  forall_hexValue? (P := fun c => c.isLiteralBlank = false ∧ c ≠ '+' ∧ c ≠ '-' ∧ c ≠ '_' ∧
      c.lowerAscii ≠ 'x' ∧ c.digitValue? 16 = c.hexValue? ∧
      c.decimal?.all (fun d => .scalar (Nat.digitChar d) = c) = true)
    (by decide +kernel) h

theorem hexValue?_lt {c : CodePoint} {d : Nat} (h : c.hexValue? = some d) : d < 16 := by
  have hall : ∀ e, c.hexValue? = some e → e < 16 :=
    forall_hexValue? (P := fun c => ∀ e, c.hexValue? = some e → e < 16) (by decide +kernel) h
  exact hall d h

theorem digitValue?_sixteen (c : CodePoint) : c.digitValue? 16 = c.hexValue? := by
  cases h : c.hexValue? with
  | none => rw [digitValue?, h]
  | some d => rw [(plain_of_hexValue? h).2.2.2.2.2.1, h]

end CodePoint

/-! ## Literals in base sixteen -/

/-- Hexadecimal digits and their values. -/
abbrev HexDigits (written : Text) (ds : List Nat) : Prop :=
  List.Forall₂ (fun c d => c.hexValue? = some d) written ds

/-- The number with the values of digits in base sixteen. -/
def hexNumber (ds : List Nat) : Nat := ds.foldl (fun n d => 16 * n + d) 0

section Hexadecimal

variable {written : Text} {ds : List Nat}

theorem exists_hexValue? (h : HexDigits written ds) :
    ∀ c ∈ written, ∃ d, c.hexValue? = some d := by
  induction h with
  | nil => exact nofun
  | cons hc _ ih => exact List.forall_mem_cons.mpr ⟨⟨_, hc⟩, ih⟩

theorem asciiDigits_of_hex (h : HexDigits written ds) :
    written.asciiDigits = written := by
  induction h with
  | nil => rfl
  | @cons c d written ds hc _ ih =>
      rcases CodePoint.plain_of_hexValue? hc with ⟨-, -, -, -, -, -, hdecimal⟩
      rw [Text.asciiDigits, List.map_cons, ← Text.asciiDigits, ih]
      congr 1
      cases hd : c.decimal? with
      | none => rfl
      | some d => simpa [hd] using hdecimal

theorem digitRun?_of_hex (h : HexDigits written ds)
    (afterDigit : Bool) (hne : afterDigit = true ∨ written ≠ []) (count value : Nat) :
    digitRun? 16 afterDigit count value written =
      some (count + written.length, ds.foldl (fun n d => 16 * n + d) value, []) := by
  induction h generalizing afterDigit count value with
  | nil =>
      rcases hne with rfl | hne
      · rfl
      · exact absurd rfl hne
  | @cons c d written ds hc _ ih =>
      rcases CodePoint.plain_of_hexValue? hc with ⟨-, -, -, hunderscore, -, hdigit, -⟩
      rw [digitRun?, if_neg hunderscore, hdigit, hc]
      simp only
      rw [ih true (.inl rfl), List.length_cons, List.foldl_cons]
      congr 2
      omega

theorem afterBase_of_hex (h : HexDigits written ds) :
    afterBase 16 written = written := by
  unfold afterBase
  split
  · next c rest =>
      cases h with
      | cons _ hrest => cases hrest with
        | cons hc _ =>
            rcases CodePoint.plain_of_hexValue? hc with ⟨-, -, -, -, hletter, -, -⟩
            refine if_neg fun heq => hletter ?_
            exact congrArg CodePoint.scalar (Option.some.inj heq).symm
  · rfl

/-- Hexadecimal digits are a literal of the number that they spell. -/
theorem integerLiteral_of_hex (h : HexDigits written ds)
    (hne : written ≠ []) :
    integerLiteral 16 written = .ok (hexNumber ds : Nat) := by
  have hplain : ∀ c ∈ written, c.isLiteralBlank = false := by
    intro c hc
    rcases exists_hexValue? h c hc with ⟨d, hd⟩
    exact (CodePoint.plain_of_hexValue? hd).1
  have hsigned : written.signed = (false, written) := by
    cases h with
    | nil => rfl
    | @cons c d written ds hc _ =>
        rcases CodePoint.plain_of_hexValue? hc with ⟨-, hplus, hminus, -⟩
        unfold Text.signed
        split
        · next heq => exact absurd (List.cons.inj heq).1 hplus
        · next heq => exact absurd (List.cons.inj heq).1 hminus
        · rfl
  rw [integerLiteral, Text.trim_eq_self hplain, asciiDigits_of_hex h, hsigned]
  simp only [afterBase_of_hex h, digitRun?_of_hex h false (.inr hne)]
  rfl

end Hexadecimal

/-! ## The literals that are read -/

theorem toLower_eq_x {c : Char} : c.toLower = 'x' ↔ c = 'x' ∨ c = 'X' := by
  constructor
  · intro h
    unfold Char.toLower at h
    split at h
    · have hval : c.val + 32 = 120 := congrArg Char.val h
      refine .inr (Char.ext ?_)
      rw [← UInt32.add_sub_cancel c.val 32, hval]
      rfl
    · exact .inl h
  · rintro (rfl | rfl) <;> rfl

/-- Hexadecimal digits up to the end of a text, with single underscores between them.  Unless a
digit stands in front, there is one at least, and no underscore before it. -/
inductive HexRun : (afterDigit : Bool) → Text → List Nat → Prop
  /-- The end behind a digit. -/
  | nil : HexRun true [] []
  /-- An underscore behind a digit, and a digit behind it. -/
  | underscore {t : Text} {ds : List Nat} (hrest : HexRun false t ds) : HexRun true ('_' :: t) ds
  /-- A digit. -/
  | digit {afterDigit : Bool} {c : CodePoint} {d : Nat} {t : Text} {ds : List Nat}
      (hdigit : c.hexValue? = some d) (hrest : HexRun true t ds) :
      HexRun afterDigit (c :: t) (d :: ds)

/-- Hexadecimal digits that may have a zero and the letter of their base in front, and an
underscore behind the letter. -/
inductive HexBody : Text → List Nat → Prop
  /-- The digits alone. -/
  | bare {t : Text} {ds : List Nat} (h : HexRun false t ds) : HexBody t ds
  /-- Digits behind the letter. -/
  | lettered {letter : CodePoint} {t : Text} {ds : List Nat} (hletter : letter = 'x' ∨ letter = 'X')
      (h : HexRun false t ds) : HexBody ('0' :: letter :: t) ds
  /-- Digits behind the letter and an underscore. -/
  | apart {letter : CodePoint} {t : Text} {ds : List Nat} (hletter : letter = 'x' ∨ letter = 'X')
      (h : HexRun false t ds) : HexBody ('0' :: letter :: '_' :: t) ds

/-- The literals of an integer in base sixteen, without the space around them and with ASCII
digits. -/
inductive HexLiteral : Text → Int → Prop
  /-- Without a sign. -/
  | unsigned {t : Text} {ds : List Nat} (h : HexBody t ds) : HexLiteral t (hexNumber ds)
  /-- With a plus sign. -/
  | plus {t : Text} {ds : List Nat} (h : HexBody t ds) : HexLiteral ('+' :: t) (hexNumber ds)
  /-- With a minus sign. -/
  | minus {t : Text} {ds : List Nat} (h : HexBody t ds) : HexLiteral ('-' :: t) (-hexNumber ds)

section Literal

variable {t : Text} {ds : List Nat}

/-- The reader of digits comes to the end of a text exactly if it is a run of them. -/
theorem digitRun?_eq_end_iff {afterDigit : Bool} {count value n : Nat} :
    (∃ total, digitRun? 16 afterDigit count value t = some (total, n, [])) ↔
      ∃ ds, HexRun afterDigit t ds ∧ n = ds.foldl (fun n d => 16 * n + d) value := by
  induction t generalizing afterDigit count value with
  | nil =>
      constructor
      · rintro ⟨total, h⟩
        cases afterDigit with
        | false => cases h
        | true =>
            cases h
            exact ⟨[], .nil, rfl⟩
      · rintro ⟨ds, h, rfl⟩
        cases h
        exact ⟨count, rfl⟩
  | cons c t ih =>
      by_cases hunderscore : c = '_'
      · subst hunderscore
        cases afterDigit with
        | false =>
            constructor
            · rintro ⟨total, h⟩
              cases h
            · rintro ⟨ds, h, -⟩
              cases h with
              | digit hdigit _ => cases hdigit
        | true =>
            rw [digitRun?, if_pos rfl, if_pos rfl, ih]
            constructor
            · rintro ⟨ds, h, hn⟩
              exact ⟨ds, .underscore h, hn⟩
            · rintro ⟨ds, h, hn⟩
              cases h with
              | underscore h => exact ⟨ds, h, hn⟩
              | digit hdigit _ => cases hdigit
      · rw [digitRun?, if_neg hunderscore, CodePoint.digitValue?_sixteen]
        cases hdigit : c.hexValue? with
        | none =>
            constructor
            · rintro ⟨total, h⟩
              cases afterDigit <;> cases h
            · rintro ⟨ds, h, -⟩
              cases h with
              | underscore _ => exact absurd rfl hunderscore
              | digit hvalue _ =>
                  rw [hdigit] at hvalue
                  cases hvalue
        | some d =>
            rw [ih]
            constructor
            · rintro ⟨ds, h, hn⟩
              exact ⟨d :: ds, .digit hdigit h, hn⟩
            · rintro ⟨ds, h, hn⟩
              cases h with
              | underscore _ => exact absurd rfl hunderscore
              | digit hvalue hrest =>
                  cases hdigit.symm.trans hvalue
                  exact ⟨_, hrest, hn⟩

/-- No run of digits has the letter of the base as its second code point. -/
theorem HexRun.second {c letter : CodePoint} {rest : Text} (h : HexRun false (c :: letter :: rest) ds)
    (hletter : letter = 'x' ∨ letter = 'X') : False := by
  cases h with
  | digit _ hrest => cases hrest with
    | underscore _ =>
        rcases hletter with h | h <;> exact absurd h (by decide)
    | digit hdigit _ =>
        rcases hletter with rfl | rfl <;> cases hdigit

theorem afterBase_letter {letter : CodePoint} (hletter : letter = 'x' ∨ letter = 'X') (rest : Text) :
    afterBase 16 ('0' :: letter :: rest) =
      match rest with
      | .scalar '_' :: digits => digits
      | digits => digits := by
  rcases hletter with rfl | rfl <;> rfl

/-- Digits stand behind the letter of their base, if it is there. -/
theorem hexRun_afterBase_iff : HexRun false (afterBase 16 t) ds ↔ HexBody t ds := by
  constructor
  · intro h
    unfold afterBase at h
    split at h
    · next c rest =>
        split at h
        · next hbase =>
            have hletter : (CodePoint.scalar c) = 'x' ∨ (CodePoint.scalar c) = 'X' := by
              have := toLower_eq_x.mp (Option.some.inj hbase).symm
              simpa using this
            split at h
            · exact .apart hletter h
            · exact .lettered hletter h
        · exact .bare h
    · exact .bare h
  · intro h
    cases h with
    | bare h =>
        unfold afterBase
        split
        · next c rest =>
            rw [if_neg]
            · exact h
            · intro hbase
              refine h.second ?_
              simpa using toLower_eq_x.mp (Option.some.inj hbase).symm
        · exact h
    | lettered hletter h =>
        rw [afterBase_letter hletter]
        split
        · cases h with
          | digit hdigit _ => cases hdigit
        · exact h
    | apart hletter h =>
        rw [afterBase_letter hletter]
        exact h

/-- The digits of a literal stand behind its sign. -/
theorem hexLiteral_iff {n : Int} :
    HexLiteral t n ↔ ∃ ds, HexBody t.signed.2 ds ∧
      n = if t.signed.1 then -(hexNumber ds : Int) else hexNumber ds := by
  constructor
  · intro h
    cases h with
    | @unsigned _ ds h =>
        have hsigned : t.signed = (false, t) := by
          unfold Text.signed
          split
          · cases h with
            | bare h => cases h with
              | digit hdigit _ => cases hdigit
          · cases h with
            | bare h => cases h with
              | digit hdigit _ => cases hdigit
          · rfl
        rw [hsigned]
        exact ⟨ds, h, rfl⟩
    | plus h => exact ⟨_, h, rfl⟩
    | minus h => exact ⟨_, h, rfl⟩
  · rintro ⟨ds, h, rfl⟩
    revert h
    unfold Text.signed
    split
    · exact .plus
    · exact .minus
    · exact .unsigned

/-- What is read as an integer in base sixteen. -/
theorem integerLiteral_sixteen_iff {n : Int} :
    integerLiteral 16 t = .ok n ↔
      HexLiteral (t.trim CodePoint.isLiteralBlank).asciiDigits n := by
  generalize hbody : (t.trim CodePoint.isLiteralBlank).asciiDigits = body
  have hrun : integerLiteral 16 t = .ok n ↔ ∃ v, (∃ total,
      digitRun? 16 false 0 0 (afterBase 16 body.signed.2) = some (total, v, [])) ∧
        n = if body.signed.1 then -(v : Int) else v := by
    rw [integerLiteral, hbody]
    cases hfound : digitRun? 16 false 0 0 (afterBase 16 body.signed.2) with
    | none => simp [hfound]
    | some found =>
        obtain ⟨total, v, rest⟩ := found
        cases rest with
        | nil =>
            simp only [hfound]
            constructor
            · intro h
              cases h
              exact ⟨v, ⟨total, rfl⟩, rfl⟩
            · rintro ⟨v', ⟨total', h⟩, rfl⟩
              cases h
              rfl
        | cons c rest => simp [hfound]
  rw [hrun, hexLiteral_iff]
  constructor
  · rintro ⟨v, hv, hn⟩
    obtain ⟨ds, hds, rfl⟩ := digitRun?_eq_end_iff.mp hv
    exact ⟨ds, hexRun_afterBase_iff.mp hds, hn⟩
  · rintro ⟨ds, hds, hn⟩
    exact ⟨_, digitRun?_eq_end_iff.mpr ⟨ds, hexRun_afterBase_iff.mpr hds, rfl⟩, hn⟩

end Literal

end ConfigReader
