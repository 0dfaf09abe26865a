import ConfigReader.Format.Properties
import ConfigReader.Proofs.Hexadecimal
import ConfigReader.Proofs.Runs
import ConfigReader.Proofs.Tables

/-!
# Properties texts written and read back

A properties text is written line by line, and each line has a key, a sign and a value.  A
code point stands for itself where nothing else is meant by it, and otherwise it is escaped.
A writer may choose among escapes, and may escape what need not be.

`Properties.parse_written` says that a text is read as it was written, whatever the choices
were.  The passes of the reader look at backslashes each on its own: lines are joined by the
backslashes at their ends, keys are cut where no backslash stands in front, and escapes are
replaced.  What is said of each pass is said of a spelled text from left to right, so that
no pass stops in the middle of an escape.
-/

namespace ConfigReader

namespace Properties

/-! ## Spelled texts -/

/-- The ways to escape a code point. -/
inductive Escapes : CodePoint → Text → Prop
  /-- A tab. -/
  | tab : Escapes '\t' "\\t"
  /-- A line feed. -/
  | lineFeed : Escapes '\n' "\\n"
  /-- A carriage return. -/
  | carriageReturn : Escapes '\r' "\\r"
  /-- A form feed. -/
  | formFeed : Escapes '\x0c' "\\f"
  /-- A number of four hexadecimal digits. -/
  | number {c : CodePoint} {written : Text} {ds : List Nat}
      (hdigits : HexDigits written ds)
      (hlength : written.length = 4) (hvalue : hexNumber ds = c.toNat) :
      Escapes c ("\\u" ++ written)
  /-- The code point itself, if it ends no line and its escape means nothing else. -/
  | itself {c : CodePoint} (hbreak : c.isLineBreak = false)
      (hletter : c ∉ Text.ofString "tnrfu") : Escapes c ['\\', c]

/-- A text is written code point by code point: by itself where that stands for itself, or
escaped. -/
inductive Spells (bare : CodePoint → Bool) : Text → Text → Prop
  /-- The empty text. -/
  | nil : Spells bare [] []
  /-- A code point by itself. -/
  | itself {c : CodePoint} {t written : Text} (h : bare c = true) (hrest : Spells bare t written) :
      Spells bare (c :: t) (c :: written)
  /-- An escaped code point. -/
  | escaped {c : CodePoint} {escape t written : Text} (h : Escapes c escape)
      (hrest : Spells bare t written) : Spells bare (c :: t) (escape ++ written)

/-- What stands for itself in a value: all but backslashes and line ends. -/
def standsInValue (c : CodePoint) : Bool := c ≠ '\\' && !c.isLineBreak

/-- What stands for itself in a key: no sign and no space either. -/
def standsInKey (c : CodePoint) : Bool := standsInValue c && !isSign c && !isGap c

/-- Spaces and tabs. -/
def Padding (t : Text) : Prop := ∀ c ∈ t, c = ' ' ∨ c = '\t'

/-- The lines for a key and a value. -/
inductive WritesLine (key value : Text) : Text → Prop
  /-- Key, sign and value, with padding before each of them and behind the sign.  The written
  key does not begin like a comment, and the written value not with a space or a tab. -/
  | line {indent writtenKey before : Text} {sign : CodePoint} {after writtenValue : Text}
      (hindent : Padding indent) (hkey : Spells standsInKey key writtenKey)
      (hcomment : ∀ c, writtenKey.head? = some c → c ≠ '#' ∧ c ≠ '!')
      (hbefore : Padding before) (hsign : isSign sign = true) (hafter : Padding after)
      (hvalue : Spells standsInValue value writtenValue)
      (hspace : ∀ c, writtenValue.head? = some c → c ≠ ' ' ∧ c ≠ '\t') :
      WritesLine key value (indent ++ writtenKey ++ before ++ sign :: (after ++ writtenValue))

/-- The texts for keys and values, line by line. -/
def Writes (pairs : List (Text × Text)) (t : Text) : Prop :=
  ∃ lines, List.Forall₂ (fun pair line => WritesLine pair.1 pair.2 line) pairs lines ∧
    t = Text.join ['\n'] lines

theorem standsInKey_of_hexValue? {c : CodePoint} {d : Nat} (h : c.hexValue? = some d) :
    standsInKey c = true :=
  CodePoint.forall_hexValue? (P := fun c => standsInKey c = true) (by decide +kernel) h

theorem ne_backslash_of_standsInValue {c : CodePoint} (h : standsInValue c = true) :
    c ≠ '\\' ∧ c.isLineBreak = false := by
  simpa [standsInValue] using h

theorem standsInValue_of_standsInKey {c : CodePoint} (h : standsInKey c = true) :
    standsInValue c = true := by
  simp only [standsInKey, Bool.and_eq_true] at h
  exact h.1.1

/-- An escape is a backslash, a code point, and digits if this says so. -/
theorem Escapes.shape {c : CodePoint} {escape : Text} (h : Escapes c escape) :
    ∃ (mark : CodePoint) (digits : Text), escape = .scalar '\\' :: mark :: digits ∧
      mark.isLineBreak = false ∧ ∀ d ∈ digits, standsInKey d = true := by
  cases h with
  | tab => exact ⟨'t', [], rfl, by decide, nofun⟩
  | lineFeed => exact ⟨'n', [], rfl, by decide, nofun⟩
  | carriageReturn => exact ⟨'r', [], rfl, by decide, nofun⟩
  | formFeed => exact ⟨'f', [], rfl, by decide, nofun⟩
  | @number _ written ds hdigits _ _ =>
      refine ⟨'u', written, rfl, by decide, fun d hd => ?_⟩
      rcases exists_hexValue? hdigits d hd with ⟨v, hv⟩
      exact standsInKey_of_hexValue? hv
  | itself hbreak _ => exact ⟨c, [], rfl, hbreak, nofun⟩

namespace Spells

variable {bare bare' : CodePoint → Bool} {t written : Text}

theorem mono (h : Spells bare t written) (hbare : ∀ c, bare c = true → bare' c = true) :
    Spells bare' t written := by
  induction h with
  | nil => exact .nil
  | itself h _ ih => exact .itself (hbare _ h) ih
  | escaped h _ ih => exact .escaped h ih

/-- No line ends within a spelled text. -/
theorem noBreak (h : Spells standsInValue t written) : ∀ c ∈ written, c.isLineBreak = false := by
  induction h with
  | nil => exact nofun
  | itself h _ ih => exact List.forall_mem_cons.mpr ⟨(ne_backslash_of_standsInValue h).2, ih⟩
  | escaped h _ ih =>
      rcases h.shape with ⟨mark, digits, rfl, hmark, hdigits⟩
      intro c hc
      rcases List.mem_append.mp hc with hc | hc
      · rcases List.mem_cons.mp hc with rfl | hc
        · decide
        · rcases List.mem_cons.mp hc with rfl | hc
          · exact hmark
          · exact (ne_backslash_of_standsInValue (standsInValue_of_standsInKey (hdigits c hc))).2
      · exact ih c hc

end Spells

/-! ## Lines that end -/

theorem trailingBackslashes_concat (t : Text) (c : CodePoint) :
    trailingBackslashes (t ++ [c]) = if c = '\\' then trailingBackslashes t + 1 else 0 := by
  rw [trailingBackslashes, List.reverse_append, List.reverse_singleton, List.singleton_append,
    List.takeWhile_cons]
  by_cases hc : c = '\\' <;> simp [hc, trailingBackslashes]

/-- A line goes on if it ends with a backslash that is not escaped. -/
theorem continues_concat (t : Text) (c : CodePoint) :
    continues (t ++ [c]) = (c = '\\' && !continues t) := by
  rw [continues, trailingBackslashes_concat]
  by_cases hc : c = '\\'
  · rw [if_pos hc, continues]
    rcases Nat.mod_two_eq_zero_or_one (trailingBackslashes t) with heven | hodd
    · have hsucc : (trailingBackslashes t + 1) % 2 = 1 := by omega
      simp [hc, heven, hsucc]
    · have hsucc : (trailingBackslashes t + 1) % 2 = 0 := by omega
      simp [hc, hodd, hsucc]
  · simp [hc]

/-- No line that does not go on does so with the text behind it. -/
def Closed (written : Text) : Prop :=
  ∀ t, continues t = false → continues (t ++ written) = false

theorem closed_nil : Closed [] := fun t ht => (List.append_nil t).symm ▸ ht

theorem Closed.append {s t : Text} (hs : Closed s) (ht : Closed t) : Closed (s ++ t) := by
  intro u hu
  rw [← List.append_assoc]
  exact ht _ (hs u hu)

theorem closed_singleton {c : CodePoint} (h : c ≠ '\\') : Closed [c] := by
  intro t _
  rw [continues_concat]
  simp [h]

/-- The code point behind a backslash is escaped, even if it is a backslash. -/
theorem closed_escape (mark : CodePoint) : Closed [.scalar '\\', mark] := by
  intro t ht
  have hopen : continues (t ++ [.scalar '\\']) = true := by
    rw [continues_concat, ht]
    rfl
  have hpair : t ++ [.scalar '\\', mark] = t ++ [.scalar '\\'] ++ [mark] := by simp
  rw [hpair, continues_concat, hopen]
  simp

theorem closed_of_plain {t : Text} (h : ∀ c ∈ t, c ≠ '\\') : Closed t := by
  induction t with
  | nil => exact closed_nil
  | cons c rest ih =>
      rcases List.forall_mem_cons.mp h with ⟨hc, hrest⟩
      exact (closed_singleton hc).append (ih hrest)

theorem Spells.closed {t written : Text} (h : Spells standsInValue t written) : Closed written := by
  induction h with
  | nil => exact closed_nil
  | itself h _ ih => exact (closed_singleton (ne_backslash_of_standsInValue h).1).append ih
  | escaped h _ ih =>
      rcases h.shape with ⟨mark, digits, rfl, -, hdigits⟩
      have hplain : Closed digits := closed_of_plain fun d hd =>
        (ne_backslash_of_standsInValue (standsInValue_of_standsInKey (hdigits d hd))).1
      exact ((closed_escape mark).append hplain).append ih

/-! ## Escapes read back -/

theorem unit?_of_hex {written : Text} {ds : List Nat} {c : CodePoint}
    (hdigits : HexDigits written ds) (hne : written ≠ [])
    (hvalue : hexNumber ds = c.toNat) : unit? written = some c := by
  rw [unit?, integerLiteral_of_hex hdigits hne, hvalue]
  exact c.ofNat?_toNat

theorem unescape_cons {c : CodePoint} (h : c ≠ '\\') (rest : Text) :
    unescape (c :: rest) = (unescape rest).map (c :: ·) := by
  rw [unescape]
  · exact fun _ _ _ _ _ heq _ => h heq
  · exact fun _ heq _ => h heq
  · exact fun _ _ heq _ => h heq

/-- An escape stands for its code point. -/
theorem unescape_escape {c : CodePoint} {escape : Text} (h : Escapes c escape) (rest : Text) :
    unescape (escape ++ rest) = (unescape rest).map (c :: ·) := by
  cases h with
  | tab => rfl
  | lineFeed => rfl
  | carriageReturn => rfl
  | formFeed => rfl
  | @number _ written ds hdigits hlength hvalue =>
      match written, hlength with
      | [a, b, d, e], _ =>
          have hunit := unit?_of_hex hdigits (List.cons_ne_nil _ _) hvalue
          change unescape (.scalar '\\' :: .scalar 'u' :: a :: b :: d :: e :: rest) = _
          rw [unescape, hunit]
  | itself _ hletter =>
      have hletters : c ≠ 't' ∧ c ≠ 'n' ∧ c ≠ 'r' ∧ c ≠ 'f' ∧ c ≠ 'u' := by
        simpa [Text.ofString] using hletter
      rcases hletters with ⟨ht, hn, hr, hf, hu⟩
      have hescaped : escaped c = c := by
        rw [escaped] <;> assumption
      change unescape (.scalar '\\' :: c :: rest) = _
      rw [unescape, hescaped]
      · exact fun _ _ _ _ _ heq _ => hu heq
      · exact hu

theorem Spells.unescape {t written : Text} (h : Spells standsInValue t written) :
    unescape written = .ok t := by
  induction h with
  | nil => rfl
  | itself h _ ih =>
      rw [unescape_cons (ne_backslash_of_standsInValue h).1, ih]
      rfl
  | escaped h _ ih =>
      rw [unescape_escape h, ih]
      rfl

/-! ## Keys and values found again -/

theorem splitKey_cons {c : CodePoint} (h : standsInKey c = true) (rest : Text) :
    splitKey (c :: rest) = (c :: (splitKey rest).1, (splitKey rest).2) := by
  have hne := (ne_backslash_of_standsInValue (standsInValue_of_standsInKey h)).1
  have hsplit : (isSign c || isGap c) = false := by
    simp only [standsInKey, Bool.and_eq_true, Bool.not_eq_true'] at h
    simp [h.1.2, h.2]
  rw [splitKey]
  · rw [hsplit]
    rfl
  · exact fun _ _ heq _ => hne heq

/-- A key goes on where its spelling does, whatever stands behind it. -/
theorem Spells.splitKey {t written : Text} (h : Spells standsInKey t written) (rest : Text) :
    splitKey (written ++ rest) =
      (written ++ (Properties.splitKey rest).1, (Properties.splitKey rest).2) := by
  have hplain : ∀ {digits : Text}, (∀ d ∈ digits, standsInKey d = true) → ∀ more : Text,
      Properties.splitKey (digits ++ more) =
        (digits ++ (Properties.splitKey more).1, (Properties.splitKey more).2) := by
    intro digits hdigits more
    induction digits with
    | nil => rfl
    | cons d digits ih =>
        rcases List.forall_mem_cons.mp hdigits with ⟨hd, hdigits⟩
        rw [List.cons_append, splitKey_cons hd, ih hdigits, List.cons_append]
  induction h with
  | nil => rfl
  | itself h _ ih => rw [List.cons_append, splitKey_cons h, ih, List.cons_append]
  | escaped h _ ih =>
      rcases h.shape with ⟨mark, digits, rfl, -, hdigits⟩
      rw [List.append_assoc, List.cons_append, List.cons_append, Properties.splitKey,
        hplain hdigits, ih]
      simp

/-- A sign or a space ends a key. -/
theorem splitKey_of_end {c : CodePoint} (h : (isSign c || isGap c) = true) (rest : Text) :
    splitKey (c :: rest) = ([], c :: rest) := by
  rw [splitKey]
  · rw [if_pos h]
  · rintro _ _ rfl _
    exact absurd h (by decide)

theorem Spells.head?_cases {bare : CodePoint → Bool} {t written : Text}
    (h : Spells bare t written) : ∀ c, written.head? = some c → bare c = true ∨ c = '\\' := by
  intro c hc
  cases h with
  | nil => cases hc
  | itself h _ =>
      cases hc
      exact .inl h
  | escaped h _ =>
      rcases h.shape with ⟨mark, digits, rfl, -, -⟩
      cases hc
      exact .inr rfl

/-- Nothing but space that may be passed over. -/
def Gaps (t : Text) : Prop := ∀ c ∈ t, isGap c = true

theorem Padding.gaps {t : Text} (h : Padding t) : Gaps t := by
  intro c hc
  rcases h c hc with rfl | rfl <;> decide

/-- Space is passed over up to the first code point behind it. -/
theorem Gaps.dropWhile {t : Text} (h : Gaps t) {rest : Text}
    (hrest : ∀ c, rest.head? = some c → isGap c = false) :
    (t ++ rest).dropWhile isGap = rest := Text.dropWhile_lead h hrest

theorem isGap_of_isSign {c : CodePoint} (h : isSign c = true) : isGap c = false := by
  simp only [isSign, Bool.or_eq_true, decide_eq_true_eq] at h
  rcases h with rfl | rfl <;> decide

section Parts

variable {key value writtenKey before after writtenValue : Text} {sign : CodePoint}

theorem skipSeparator_sign (hbefore : Gaps before) (hsign : isSign sign = true)
    (hafter : Gaps after) (hvalue : ∀ c, writtenValue.head? = some c → isGap c = false) :
    skipSeparator (before ++ sign :: (after ++ writtenValue)) = writtenValue := by
  have hdrop : (before ++ sign :: (after ++ writtenValue)).dropWhile isGap =
      sign :: (after ++ writtenValue) := by
    refine hbefore.dropWhile fun c hc => ?_
    cases hc
    exact isGap_of_isSign hsign
  rw [skipSeparator, hdrop]
  simp only [hsign, if_true]
  exact hafter.dropWhile hvalue

/-- A line without an indent is the entry that it was written for. -/
theorem entry_of_parts (hkey : Spells standsInKey key writtenKey) (hbefore : Padding before)
    (hsign : isSign sign = true) (hafter : Padding after)
    (hvalue : Spells standsInValue value writtenValue)
    (hspace : ∀ c, writtenValue.head? = some c → isGap c = false) :
    entry (writtenKey ++ (before ++ sign :: (after ++ writtenValue))) = .ok (key, value) := by
  have hend : splitKey (before ++ sign :: (after ++ writtenValue)) =
      ([], before ++ sign :: (after ++ writtenValue)) := by
    cases before with
    | nil => exact splitKey_of_end (by simp [hsign]) _
    | cons c more => exact splitKey_of_end (by simp [hbefore.gaps c List.mem_cons_self]) _
  have hsplit : splitEntry (writtenKey ++ (before ++ sign :: (after ++ writtenValue))) =
      (writtenKey, writtenValue) := by
    rw [splitEntry, hkey.splitKey, hend]
    simp only [List.append_nil]
    rw [skipSeparator_sign hbefore.gaps hsign hafter.gaps hspace]
  have hkey' := (hkey.mono fun _ => standsInValue_of_standsInKey).unescape
  simp only [entry, hsplit, hkey', hvalue.unescape]
  rfl

theorem closed_of_parts (hkey : Spells standsInKey key writtenKey) (hbefore : Padding before)
    (hsign : isSign sign = true) (hafter : Padding after)
    (hvalue : Spells standsInValue value writtenValue) :
    Closed (writtenKey ++ (before ++ sign :: (after ++ writtenValue))) := by
  have hpadding : ∀ {t : Text}, Padding t → Closed t := by
    intro t ht
    refine closed_of_plain fun c hc => ?_
    rcases ht c hc with rfl | rfl <;> decide
  have hsign : Closed [sign] := by
    refine closed_singleton ?_
    rintro rfl
    exact absurd hsign (by decide)
  have hkey := (hkey.mono fun _ => standsInValue_of_standsInKey).closed
  exact hkey.append ((hpadding hbefore).append
    (hsign.append ((hpadding hafter).append hvalue.closed)))

theorem noBreak_of_parts {indent : Text} (hindent : Padding indent)
    (hkey : Spells standsInKey key writtenKey) (hbefore : Padding before)
    (hsign : isSign sign = true) (hafter : Padding after)
    (hvalue : Spells standsInValue value writtenValue) :
    ∀ c ∈ indent ++ writtenKey ++ before ++ sign :: (after ++ writtenValue),
      c.isLineBreak = false := by
  have hpadding : ∀ {t : Text}, Padding t → ∀ c ∈ t, c.isLineBreak = false := by
    intro t ht c hc
    rcases ht c hc with rfl | rfl <;> decide
  have hsign : sign.isLineBreak = false := by
    simp only [isSign, Bool.or_eq_true, decide_eq_true_eq] at hsign
    rcases hsign with rfl | rfl <;> decide
  have hkey := (hkey.mono fun _ => standsInValue_of_standsInKey).noBreak
  intro c hc
  simp only [List.mem_append, List.mem_cons] at hc
  rcases hc with ((hc | hc) | hc) | rfl | hc | hc
  · exact hpadding hindent c hc
  · exact hkey c hc
  · exact hpadding hbefore c hc
  · exact hsign
  · exact hpadding hafter c hc
  · exact hvalue.noBreak c hc

end Parts

/-- What the reader sees in a line: a logical line of its own, with an entry. -/
structure Holds (line : Text) (pair : Text × Text) : Prop where
  /-- No line ends within it. -/
  noBreak : ∀ c ∈ line, c.isLineBreak = false
  /-- It is not empty. -/
  ne_nil : line ≠ []
  /-- It is neither blank nor a comment. -/
  kept : isSkipped (line.dropWhile isGap) = false
  /-- It does not go on in the next line. -/
  closed : continues (line.dropWhile isGap) = false
  /-- It is read as the entry. -/
  entry : entry (line.dropWhile isGap) = .ok pair

theorem isGap_of_standsInKey {c : CodePoint} (h : standsInKey c = true) : isGap c = false := by
  simp only [standsInKey, Bool.and_eq_true, Bool.not_eq_true'] at h
  exact h.2

theorem isGap_of_standsInValue {c : CodePoint} (h : standsInValue c = true)
    (hspace : c ≠ ' ' ∧ c ≠ '\t') : isGap c = false := by
  have hfeed : c ≠ '\x0c' := by
    rintro rfl
    exact absurd h (by decide)
  simp [isGap, hspace, hfeed]

/-- The code point that a value begins with is none that is passed over. -/
theorem isGap_head_value {value writtenValue : Text} (h : Spells standsInValue value writtenValue)
    (hspace : ∀ c, writtenValue.head? = some c → c ≠ ' ' ∧ c ≠ '\t') :
    ∀ c, writtenValue.head? = some c → isGap c = false := by
  intro c hc
  rcases h.head?_cases c hc with hbare | rfl
  · exact isGap_of_standsInValue hbare (hspace c hc)
  · decide

/-- A line begins behind its padding with its key, or with its sign if the key is empty.  What is
left between key and sign is padding. -/
theorem exists_body {key indent writtenKey before rest : Text} {sign : CodePoint}
    (hindent : Padding indent) (hkey : Spells standsInKey key writtenKey)
    (hcomment : ∀ c, writtenKey.head? = some c → c ≠ '#' ∧ c ≠ '!') (hbefore : Padding before)
    (hsign : isSign sign = true) :
    ∃ between, Padding between ∧
      (indent ++ writtenKey ++ before ++ sign :: rest).dropWhile isGap =
        writtenKey ++ (between ++ sign :: rest) ∧
      isSkipped (writtenKey ++ (between ++ sign :: rest)) = false := by
  cases writtenKey with
  | nil =>
      have hpadding : Padding (indent ++ before) := fun c hc =>
        (List.mem_append.mp hc).elim (hindent c) (hbefore c)
      refine ⟨[], nofun, ?_, ?_⟩
      · rw [List.append_nil]
        refine hpadding.gaps.dropWhile fun c hc => ?_
        cases hc
        exact isGap_of_isSign hsign
      · simp only [isSign, Bool.or_eq_true, decide_eq_true_eq] at hsign
        rcases hsign with rfl | rfl <;> rfl
  | cons first more =>
      refine ⟨before, hbefore, ?_, ?_⟩
      · rw [List.append_assoc, List.append_assoc]
        refine hindent.gaps.dropWhile fun c hc => ?_
        cases hc
        rcases hkey.head?_cases first rfl with hbare | rfl
        · exact isGap_of_standsInKey hbare
        · decide
      · have hfirst := hcomment first rfl
        simp [isSkipped, hfirst]

theorem WritesLine.holds {key value line : Text} (h : WritesLine key value line) :
    Holds line (key, value) := by
  cases h with
  | line hindent hkey hcomment hbefore hsign hafter hvalue hspace =>
      rcases exists_body hindent hkey hcomment hbefore hsign
        with ⟨between, hbetween, hdrop, hkept⟩
      constructor
      · exact noBreak_of_parts hindent hkey hbefore hsign hafter hvalue
      · simp
      · rw [hdrop]
        exact hkept
      · rw [hdrop]
        exact closed_of_parts hkey hbetween hsign hafter hvalue [] rfl
      · rw [hdrop]
        exact entry_of_parts hkey hbetween hsign hafter hvalue (isGap_head_value hvalue hspace)

/-! ## Lines found again -/

theorem splitLines_cons {c : CodePoint} (h : c.isLineBreak = false) {line : Text}
    {lines : List Text} {d : CodePoint} {rest : Text}
    (hrest : Text.splitLines (d :: rest) = line :: lines) :
    Text.splitLines (c :: d :: rest) = (c :: line) :: lines := by
  have hne : c ≠ '\r' := by
    rintro rfl
    exact absurd h (by decide)
  rw [Text.splitLines.eq_3 c line lines d rest (fun _ heq _ => hne heq) hrest, h]
  rfl

/-- A text without line ends is a line. -/
theorem splitLines_of_noBreak {line : Text} (h : ∀ c ∈ line, c.isLineBreak = false)
    (hne : line ≠ []) : Text.splitLines line = [line] := by
  induction line with
  | nil => exact absurd rfl hne
  | cons c rest ih =>
      rcases List.forall_mem_cons.mp h with ⟨hc, hrest⟩
      cases rest with
      | nil =>
          rw [Text.splitLines.eq_def]
          simp only [hc]
          rfl
      | cons d more => exact splitLines_cons hc (ih hrest (List.cons_ne_nil d more))

/-- A line ends at the first line feed, if no line ends before. -/
theorem splitLines_append {line : Text} (h : ∀ c ∈ line, c.isLineBreak = false) (rest : Text) :
    Text.splitLines (line ++ .scalar '\n' :: rest) = line :: Text.splitLines rest := by
  induction line with
  | nil =>
      rw [List.nil_append, Text.splitLines.eq_def]
      rfl
  | cons c line ih =>
      rcases List.forall_mem_cons.mp h with ⟨hc, hline⟩
      cases line with
      | nil => exact splitLines_cons hc (ih hline)
      | cons d more => exact splitLines_cons hc (ih hline)

/-- Lines that are not empty are found again. -/
theorem splitLines_join : ∀ {lines : List Text},
    (∀ line ∈ lines, (∀ c ∈ line, c.isLineBreak = false) ∧ line ≠ []) →
      Text.splitLines (Text.join ['\n'] lines) = lines
  | [], _ => rfl
  | [line], h =>
      have hline := h line List.mem_cons_self
      splitLines_of_noBreak hline.1 hline.2
  | line :: next :: rest, h => by
      rcases List.forall_mem_cons.mp h with ⟨⟨hbreak, -⟩, hrest⟩
      rw [Text.join, List.append_assoc]
      exact (splitLines_append hbreak _).trans (congrArg (line :: ·) (splitLines_join hrest))

/-- Lines that do not go on are logical lines. -/
theorem joinLines_of_closed {lines : List Text}
    (h : ∀ line ∈ lines, isSkipped (line.dropWhile isGap) = false ∧
      continues (line.dropWhile isGap) = false) :
    joinLines none lines = lines.map (List.dropWhile isGap) := by
  induction lines with
  | nil => rfl
  | cons line rest ih =>
      rcases List.forall_mem_cons.mp h with ⟨⟨hkept, hclosed⟩, hrest⟩
      simp only [joinLines, hkept, hclosed, Bool.false_eq_true, if_false, ih hrest, List.map_cons]

/-! ## Texts read back -/

/-- Lines that hold entries are read line by line. -/
theorem parse_of_holds {lines : List Text} {pairs : List (Text × Text)}
    (h : List.Forall₂ Holds lines pairs) :
    parse (Text.join ['\n'] lines) = .ok (Entries.ofPairs pairs) := by
  have hlines : ∀ line ∈ lines, ∃ pair, Holds line pair := by
    induction h with
    | nil => exact nofun
    | cons hline _ ih => exact List.forall_mem_cons.mpr ⟨⟨_, hline⟩, ih⟩
  have hsplit : Text.splitLines (Text.join ['\n'] lines) = lines :=
    splitLines_join fun line hline => (hlines line hline).elim fun _ h => ⟨h.noBreak, h.ne_nil⟩
  have hlogical : logicalLines (Text.join ['\n'] lines) = lines.map (List.dropWhile isGap) := by
    rw [logicalLines, hsplit]
    exact joinLines_of_closed fun line hline =>
      (hlines line hline).elim fun _ h => ⟨h.kept, h.closed⟩
  have hentries : (lines.map (List.dropWhile isGap)).mapM entry = .ok pairs :=
    mapM_of_forall₂ (List.forall₂_map_left_iff.mpr (h.imp fun _ _ hline => hline.entry))
  rw [parse, hlogical, hentries]
  rfl

/-! ## Every text can be written -/

/-- Every code point has an escape: its number, if that has four digits, and itself otherwise. -/
theorem exists_escapes (c : CodePoint) : ∃ escape, Escapes c escape := by
  by_cases hsmall : c.toNat < 65536
  · have hdigit : ∀ d < 16, (CodePoint.scalar (Nat.digitChar d)).hexValue? = some d := by decide
    let digit (d : Nat) : CodePoint := Nat.digitChar (d % 16)
    have hvalue : ∀ d, (digit d).hexValue? = some (d % 16) := fun d =>
      hdigit _ (Nat.mod_lt d (by omega))
    have hdigits : HexDigits
        ([c.toNat / 4096, c.toNat / 256, c.toNat / 16, c.toNat].map digit)
        ([c.toNat / 4096, c.toNat / 256, c.toNat / 16, c.toNat].map (· % 16)) :=
      List.forall₂_map_left_iff.mpr (List.forall₂_map_right_iff.mpr
        (List.forall₂_same.mpr fun d _ => hvalue d))
    refine ⟨_, .number hdigits rfl ?_⟩
    simp only [hexNumber, List.map_cons, List.map_nil, List.foldl_cons, List.foldl_nil]
    omega
  · refine ⟨_, .itself ?_ fun hletter => ?_⟩
    · simp [CodePoint.isLineBreak]
      omega
    · have hsmall' : ∀ d ∈ Text.ofString "tnrfu", d.toNat < 65536 := by decide
      exact hsmall (hsmall' c hletter)

/-- Every text can be spelled by escapes alone. -/
theorem exists_spells (bare : CodePoint → Bool) (t : Text) :
    ∃ written, Spells bare t written ∧ ∀ c, written.head? = some c → c = '\\' := by
  induction t with
  | nil => exact ⟨[], .nil, nofun⟩
  | cons c rest ih =>
      rcases ih with ⟨written, hwritten, -⟩
      rcases exists_escapes c with ⟨escape, hescape⟩
      refine ⟨escape ++ written, .escaped hescape hwritten, ?_⟩
      rcases hescape.shape with ⟨mark, digits, rfl, -, -⟩
      intro d hd
      cases hd
      rfl

theorem exists_writes (pairs : List (Text × Text)) : ∃ t, Writes pairs t := by
  have hline : ∀ key value, ∃ line, WritesLine key value line := by
    intro key value
    rcases exists_spells standsInKey key with ⟨writtenKey, hkey, hkeyStart⟩
    rcases exists_spells standsInValue value with ⟨writtenValue, hvalue, hvalueStart⟩
    have hsign : isSign '=' = true := by decide
    have hempty : Padding [] := nofun
    refine ⟨_, .line hempty hkey (fun c hc => ?_) hempty hsign hempty hvalue fun c hc => ?_⟩
    · rw [hkeyStart c hc]
      decide
    · rw [hvalueStart c hc]
      decide
  have hlines : ∃ lines, List.Forall₂ (fun pair line => WritesLine pair.1 pair.2 line)
      pairs lines := by
    induction pairs with
    | nil => exact ⟨[], .nil⟩
    | cons pair rest ih =>
        rcases ih with ⟨lines, hlines⟩
        rcases hline pair.1 pair.2 with ⟨line, hpair⟩
        exact ⟨line :: lines, .cons hpair hlines⟩
  rcases hlines with ⟨lines, hlines⟩
  exact ⟨_, lines, hlines, rfl⟩

/-- Every list of keys and values can be written as a properties text.  However it is written,
the text is read as the mapping in which a key has the value of its last pair. -/
theorem parse_written :
    (∀ pairs, ∃ t, Writes pairs t) ∧
    ∀ pairs t, Writes pairs t → ∃ table, parse t = .ok table ∧ table.Ascending ∧
      ∀ key, table.get? key = pairs.reverse.lookup key := by
  refine ⟨exists_writes, fun pairs t ht => ?_⟩
  rcases ht with ⟨lines, hlines, rfl⟩
  have hholds : List.Forall₂ Holds lines pairs := (hlines.imp fun _ _ hline => hline.holds).flip
  exact ⟨_, parse_of_holds hholds, Entries.ascending_ofPairs pairs, Entries.get?_ofPairs pairs⟩

/-- A key that comes twice, once by its number, beside an empty key whose value ends with a
backslash. -/
theorem parse_written_repeated_key :
    let t : Text := "k=x\n : a\\\\\n\\u006B =\\ ="
    ∃ table, parse t = .ok table ∧ table.get? "k" = some (" =" : Text) ∧
      table.get? [] = some ("a\\" : Text) := by
  intro t
  have hempty : Padding [] := nofun
  have hspace : Padding " " := by
    intro c hc
    exact .inl (List.mem_singleton.mp hc)
  have hplain : WritesLine "k" "x" "k=x" :=
    .line hempty (.itself (by decide) .nil) (by decide) hempty (by decide) hempty
      (.itself (by decide) .nil) (by decide)
  have hbackslash : WritesLine [] "a\\" " : a\\\\" :=
    .line hspace .nil nofun hempty (by decide) hspace
      (.itself (by decide) (.escaped (.itself (by decide) (by decide)) .nil)) (by decide)
  have hnumber : Escapes 'k' "\\u006B" :=
    @Escapes.number _ "006B" [0, 0, 6, 11]
      (.cons rfl (.cons rfl (.cons rfl (.cons rfl .nil)))) rfl (by decide)
  have hescaped : WritesLine "k" " =" "\\u006B =\\ =" :=
    .line hempty (.escaped hnumber .nil) (by decide) hspace (by decide) hempty
      (.escaped (.itself (by decide) (by decide)) (.itself (by decide) .nil)) (by decide)
  have hwrites : Writes [("k", "x"), ([], "a\\"), ("k", " =")] t :=
    ⟨_, .cons hplain (.cons hbackslash (.cons hescaped .nil)), rfl⟩
  rcases parse_written.2 _ t hwrites with ⟨table, htable, -, hget⟩
  exact ⟨table, htable, (hget "k").trans rfl, (hget []).trans rfl⟩

end Properties

end ConfigReader
