import ConfigReader.Proofs.Concatenation

/-!
# Lines divided into key and value

A line that does not go on has one entry.  Its key ends at the first sign or space that is not
escaped, and its value begins behind the space and the sign that follow.  `Divides` says so without
a reader, and `divides_iff` that the reader divides a line in this way and in no other.

`Properties.parse_line` is about texts of one line: they are read as the entry that they spell.
More than a carriage return and a line feed ends a line.  The form feed does so too, though it is
space as well.  So a form feed in a text is never space within a line, and what stands behind it is
another line (`Properties.form_feed_ends_line`).
-/

namespace ConfigReader

namespace Properties

/-! ## Lines and their parts -/

/-- A sign or space, which ends a key. -/
def endsKey (c : CodePoint) : Bool := isSign c || isGap c

/-- The keys of lines, with their escapes.  No sign and no space is in them unless it is escaped. -/
inductive KeyText : Text → Prop
  /-- The empty key. -/
  | nil : KeyText []
  /-- A code point that is not escaped. -/
  | plain {c : CodePoint} {rest : Text} (hplain : c ≠ '\\') (hgoes : endsKey c = false)
      (hrest : KeyText rest) : KeyText (c :: rest)
  /-- An escaped code point. -/
  | escaped {c : CodePoint} {rest : Text} (hrest : KeyText rest) :
      KeyText (.scalar '\\' :: c :: rest)

/-- A line with its key and its value, both with their escapes. -/
inductive Divides (key value : Text) : Text → Prop
  /-- A key alone.  The value is empty. -/
  | bare {indent : Text} (hindent : Gaps indent) (hkey : KeyText key) (hvalue : value = []) :
      Divides key value (indent ++ key)
  /-- A key and a value with space between them. -/
  | spaced {indent space : Text} (hindent : Gaps indent) (hkey : KeyText key) (hsome : key ≠ [])
      (hspace : Gaps space) (hapart : space ≠ [])
      (hvalue : ∀ c, value.head? = some c → endsKey c = false) :
      Divides key value (indent ++ (key ++ (space ++ value)))
  /-- A key and a value with a sign between them, which may have space around it.  In front of an
  empty key all space is indent. -/
  | signed {indent before after : Text} {sign : CodePoint} (hindent : Gaps indent)
      (hkey : KeyText key) (hbefore : Gaps before) (hsome : key = [] → before = [])
      (hsign : isSign sign = true) (hafter : Gaps after)
      (hvalue : ∀ c, value.head? = some c → isGap c = false) :
      Divides key value (indent ++ (key ++ (before ++ sign :: (after ++ value))))

theorem endsKey_eq_false {c : CodePoint} :
    endsKey c = false ↔ isSign c = false ∧ isGap c = false := by
  rw [endsKey, Bool.or_eq_false_iff]

theorem ne_backslash_of_endsKey {c : CodePoint} (h : endsKey c = true) : c ≠ '\\' := by
  rintro rfl
  exact absurd h (by decide)

namespace Gaps

variable {t : Text}

theorem endsKey (h : Gaps t) : ∀ c ∈ t, endsKey c = true := fun c hc => by
  rw [Properties.endsKey, h c hc, Bool.or_true]

theorem closed (h : Gaps t) : continues t = false :=
  closed_of_plain (fun c hc => ne_backslash_of_endsKey (h.endsKey c hc)) [] rfl

end Gaps

/-! ## Keys -/

namespace KeyText

variable {key : Text}

theorem closed (h : KeyText key) : continues key = false := by
  induction h with
  | nil => rfl
  | plain hplain _ _ ih => exact (continues_append (continues_singleton hplain) _).trans ih
  | escaped _ ih => exact (continues_append (continues_escape _) _).trans ih

theorem isGap_head (h : KeyText key) : ∀ c, key.head? = some c → isGap c = false := by
  intro c hc
  cases h with
  | nil => cases hc
  | plain _ hgoes _ =>
      cases hc
      exact (endsKey_eq_false.mp hgoes).2
  | escaped _ =>
      cases hc
      decide

/-- A key ends where a sign or space that is not escaped follows. -/
theorem splitKey_append (h : KeyText key) {rest : Text}
    (hrest : ∀ c, rest.head? = some c → endsKey c = true) :
    splitKey (key ++ rest) = (key, rest) := by
  induction h with
  | nil =>
      cases rest with
      | nil => rfl
      | cons c more => exact splitKey_of_end (hrest c rfl) more
  | @plain c key hplain hgoes _ ih =>
      have hstep : splitKey (c :: (key ++ rest)) =
          (c :: (splitKey (key ++ rest)).1, (splitKey (key ++ rest)).2) := by
        rw [splitKey]
        · rw [if_neg (by simpa [endsKey] using hgoes)]
        · exact fun _ _ heq _ => hplain heq
      rw [List.cons_append, hstep, ih]
  | escaped _ ih => rw [List.cons_append, List.cons_append, splitKey, ih]

end KeyText

/-- A line that does not go on begins with a key, which ends at a sign or space or with the line. -/
theorem exists_key {t : Text} (h : continues t = false) :
    ∃ key rest, t = key ++ rest ∧ KeyText key ∧ ∀ c, rest.head? = some c → endsKey c = true := by
  induction t using splitKey.induct with
  | case1 => exact ⟨[], [], rfl, .nil, nofun⟩
  | case2 c t _ _ _ ih =>
      have hmore : continues t = false := (continues_append (continues_escape c) t).symm.trans h
      obtain ⟨key, rest, rfl, hkey, hrest⟩ := ih hmore
      exact ⟨_, rest, rfl, .escaped hkey, hrest⟩
  | case3 c t _ hends =>
      refine ⟨[], c :: t, rfl, .nil, ?_⟩
      rintro _ ⟨⟩
      exact hends
  | case4 c t hsingle hgoes _ _ _ ih =>
      have hplain : c ≠ '\\' := by
        rintro rfl
        cases t with
        | nil => cases h
        | cons d more => exact hsingle d more rfl rfl
      have hmore : continues t = false :=
        (continues_append (continues_singleton hplain) t).symm.trans h
      obtain ⟨key, rest, rfl, hkey, hrest⟩ := ih hmore
      exact ⟨_, rest, rfl, .plain hplain (Bool.not_eq_true _ ▸ hgoes) hkey, hrest⟩

/-- A text begins with space, which ends where other code points begin. -/
theorem exists_gaps (t : Text) :
    ∃ space rest, t = space ++ rest ∧ Gaps space ∧ ∀ c, rest.head? = some c → isGap c = false := by
  refine ⟨t.takeWhile isGap, t.dropWhile isGap, List.takeWhile_append_dropWhile.symm,
    fun c => List.mem_takeWhile_imp, fun c hc => ?_⟩
  have hhead := List.head?_dropWhile_not isGap t
  rw [hc] at hhead
  simpa using hhead

/-! ## Division -/

/-- A line that does not go on has a key and a value. -/
theorem exists_divides {t : Text} (h : continues t = false) : ∃ key value, Divides key value t := by
  obtain ⟨indent, body, rfl, hindent, hbody⟩ := exists_gaps t
  rw [continues_append hindent.closed] at h
  obtain ⟨key, rest, rfl, hkey, hrest⟩ := exists_key h
  obtain ⟨space, more, rfl, hspace, hmore⟩ := exists_gaps rest
  have hindented : key = [] → space = [] := by
    rintro rfl
    cases space with
    | nil => rfl
    | cons c space =>
        have hgap := hbody c rfl
        rw [hspace c List.mem_cons_self] at hgap
        cases hgap
  by_cases hsigned : ∃ sign tail, more = sign :: tail ∧ isSign sign = true
  · obtain ⟨sign, tail, rfl, hsign⟩ := hsigned
    obtain ⟨after, value, rfl, hafter, hvalue⟩ := exists_gaps tail
    exact ⟨key, value, .signed hindent hkey hspace hindented hsign hafter hvalue⟩
  · have hvalue : ∀ c, more.head? = some c → endsKey c = false := by
      intro c hc
      obtain ⟨tail, rfl⟩ := List.head?_eq_some_iff.mp hc
      have hsign : isSign c = false := by
        by_contra hsign
        exact hsigned ⟨c, tail, rfl, Bool.not_eq_false _ ▸ hsign⟩
      exact endsKey_eq_false.mpr ⟨hsign, hmore c rfl⟩
    by_cases hapart : space = []
    · -- the key goes on to the end of the line, as nothing behind it ends it
      subst hapart
      cases more with
      | nil =>
          rw [List.append_nil, List.append_nil]
          exact ⟨key, [], .bare hindent hkey rfl⟩
      | cons c tail =>
          have hgoes := hvalue c rfl
          rw [hrest c rfl] at hgoes
          cases hgoes
    · exact ⟨key, more, .spaced hindent hkey (mt hindented hapart) hspace hapart hvalue⟩

/-- What stands in a line behind each other: indent, a key, what ends the key, and a value. -/
structure Parted (indent key between value : Text) : Prop where
  /-- The indent is space. -/
  indented : Gaps indent
  /-- The key is one. -/
  keyed : KeyText key
  /-- The indent ends in front of the key, or of what stands in the place of an empty one. -/
  begins : ∀ c, (key ++ (between ++ value)).head? = some c → isGap c = false
  /-- The key ends where it does, or with the line. -/
  ends : ∀ c, (between ++ value).head? = some c → endsKey c = true
  /-- Signs and space are between key and value. -/
  separates : ∀ c ∈ between, endsKey c = true
  /-- The value begins where it does. -/
  skips : skipSeparator (between ++ value) = value

namespace Parted

variable {indent key space value : Text}

theorem bare (hindent : Gaps indent) (hkey : KeyText key) : Parted indent key [] [] where
  indented := hindent
  keyed := hkey
  begins := by simpa using hkey.isGap_head
  ends := nofun
  separates := nofun
  skips := rfl

theorem spaced (hindent : Gaps indent) (hkey : KeyText key) (hsome : key ≠ [])
    (hspace : Gaps space) (hapart : space ≠ [])
    (hvalue : ∀ c, value.head? = some c → endsKey c = false) : Parted indent key space value where
  indented := hindent
  keyed := hkey
  begins := by
    obtain ⟨first, more, rfl⟩ := List.exists_cons_of_ne_nil hsome
    exact hkey.isGap_head
  ends := by
    obtain ⟨first, more, rfl⟩ := List.exists_cons_of_ne_nil hapart
    rintro c ⟨⟩
    exact hspace.endsKey _ List.mem_cons_self
  separates := hspace.endsKey
  skips := by
    rw [skipSeparator, hspace.dropWhile fun c hc => (endsKey_eq_false.mp (hvalue c hc)).2]
    cases value with
    | nil => rfl
    | cons c value => simp [(endsKey_eq_false.mp (hvalue c rfl)).1]

theorem signed {before after : Text} {sign : CodePoint} (hindent : Gaps indent)
    (hkey : KeyText key) (hbefore : Gaps before) (hsome : key = [] → before = [])
    (hsign : isSign sign = true) (hafter : Gaps after)
    (hvalue : ∀ c, value.head? = some c → isGap c = false) :
    Parted indent key (before ++ sign :: after) value := by
  have hends : endsKey sign = true := by rw [endsKey, hsign, Bool.true_or]
  have hassoc : before ++ sign :: after ++ value = before ++ sign :: (after ++ value) := by simp
  refine ⟨hindent, hkey, ?_, ?_, ?_, ?_⟩
  · cases key with
    | nil =>
        rw [hsome rfl]
        rintro c ⟨⟩
        exact isGap_of_isSign hsign
    | cons first more => exact hkey.isGap_head
  · cases before with
    | nil =>
        rintro c ⟨⟩
        exact hends
    | cons first more =>
        rintro c ⟨⟩
        exact hbefore.endsKey _ List.mem_cons_self
  · exact List.forall_mem_append.mpr
      ⟨hbefore.endsKey, List.forall_mem_cons.mpr ⟨hends, hafter.endsKey⟩⟩
  · rw [hassoc]
    exact skipSeparator_sign hbefore hsign hafter hvalue

/-- No escape reaches from the key and what ends it into the value. -/
theorem closed {between : Text} (h : Parted indent key between value) :
    continues (key ++ between) = false := by
  rw [continues_append h.keyed.closed]
  exact closed_of_plain (fun c hc => ne_backslash_of_endsKey (h.separates c hc)) [] rfl

end Parted

/-- However a line is divided, its parts stand behind each other. -/
theorem Divides.parts {key value t : Text} (h : Divides key value t) :
    ∃ indent between, t = indent ++ (key ++ (between ++ value)) ∧
      Parted indent key between value := by
  cases h with
  | bare hindent hkey hvalue =>
      subst hvalue
      exact ⟨_, [], by simp, .bare hindent hkey⟩
  | spaced hindent hkey hsome hspace hapart hvalue =>
      exact ⟨_, _, rfl, .spaced hindent hkey hsome hspace hapart hvalue⟩
  | signed hindent hkey hbefore hsome hsign hafter hvalue =>
      exact ⟨_, _, by simp, .signed hindent hkey hbefore hsome hsign hafter hvalue⟩

/-- The reader divides a line as it is divided. -/
theorem Divides.splitEntry {key value t : Text} (h : Divides key value t) :
    splitEntry (t.dropWhile isGap) = (key, value) := by
  obtain ⟨indent, between, rfl, hparts⟩ := h.parts
  rw [hparts.indented.dropWhile hparts.begins, Properties.splitEntry,
    hparts.keyed.splitKey_append hparts.ends]
  simp only [hparts.skips]

/-- A line that does not go on has one division, and the reader finds it. -/
theorem divides_iff {t key value : Text} (h : continues t = false) :
    Divides key value t ↔ splitEntry (t.dropWhile isGap) = (key, value) := by
  refine ⟨Divides.splitEntry, fun hsplit => ?_⟩
  obtain ⟨key', value', hdivides⟩ := exists_divides h
  cases hdivides.splitEntry.symm.trans hsplit
  exact hdivides

/-! ## Escapes of the parts -/

/-- The escapes by number of a text have four hexadecimal digits. -/
abbrev WellNumbered (t : Text) : Prop := NumbersAre (fun written => ∃ ds, HexDigits written ds) t

/-- No digit of a number ends a key. -/
theorem endsKey_of_hexDigits {written : Text} {ds : List Nat} (h : HexDigits written ds)
    {c : CodePoint} (hc : c ∈ written) : endsKey c = false := by
  obtain ⟨d, hd⟩ := exists_hexValue? h c hc
  have hgoes := standsInKey_of_hexValue? hd
  simp only [standsInKey, Bool.and_eq_true, Bool.not_eq_true'] at hgoes
  exact endsKey_eq_false.mpr ⟨hgoes.1.2, hgoes.2⟩

/-- A number does not reach over a code point that is no hexadecimal digit. -/
theorem NumbersAre.of_append_left {accepts : Text → Prop} {part rest : Text}
    (h : NumbersAre accepts (part ++ rest))
    (hrest : ∀ c, rest.head? = some c → ∀ written, accepts written → c ∉ written) :
    NumbersAre accepts part := by
  rintro before after rfl heven
  have hassoc : before ++ .scalar '\\' :: .scalar 'u' :: after ++ rest =
      before ++ .scalar '\\' :: .scalar 'u' :: (after ++ rest) := by simp
  obtain ⟨written, more, hsplit, hlength, haccepts⟩ := h before _ hassoc heven
  obtain ⟨extra, rfl, hextra⟩ | ⟨left, rfl, -⟩ := List.append_eq_append_iff.mp hsplit
  · cases extra with
    | nil => exact ⟨after, [], by simp, by simpa using hlength, by simpa using haccepts⟩
    | cons c extra =>
        refine absurd ?_ (hrest c (by simp [hextra]) _ haccepts)
        exact List.mem_append_right after List.mem_cons_self
  · exact ⟨written, left, rfl, hlength, haccepts⟩

/-- A code point behind a backslash is an escape, unless a number is asked for. -/
theorem exists_escaped {c : CodePoint} (hbreak : c.isLineBreak = false) (hnumber : c ≠ 'u') :
    ∃ d, Escapes d [.scalar '\\', c] := by
  by_cases hletter : c ∈ Text.ofString "tnrf"
  · have hcases : c = 't' ∨ c = 'n' ∨ c = 'r' ∨ c = 'f' := by simpa [Text.ofString] using hletter
    rcases hcases with rfl | rfl | rfl | rfl
    · exact ⟨_, .tab⟩
    · exact ⟨_, .lineFeed⟩
    · exact ⟨_, .carriageReturn⟩
    · exact ⟨_, .formFeed⟩
  · refine ⟨c, .itself hbreak ?_⟩
    simpa [Text.ofString, hnumber] using hletter

/-- A part of a line spells a text, if its numbers are well formed. -/
theorem exists_spelled {part : Text} (hbreak : ∀ c ∈ part, c.isLineBreak = false)
    (hclosed : continues part = false) (hnumbers : WellNumbered part) :
    ∃ text, Spells standsInValue text part := by
  induction part using escapes_induction with
  | nil => exact ⟨[], .nil⟩
  | plain c rest hc ih =>
      obtain ⟨hfirst, hbreak⟩ := List.forall_mem_cons.mp hbreak
      have hplain := continues_singleton hc
      obtain ⟨text, htext⟩ := ih hbreak ((continues_append hplain rest).symm.trans hclosed)
        (hnumbers.of_append [c] hplain)
      exact ⟨c :: text, .itself (by simp [standsInValue, hc, hfirst]) htext⟩
  | single => cases hclosed
  | mark c rest hc ih =>
      obtain ⟨-, hfirst, hbreak⟩ := by simpa only [List.forall_mem_cons] using hbreak
      have hpair := continues_escape c
      obtain ⟨text, htext⟩ := ih hbreak ((continues_append hpair rest).symm.trans hclosed)
        (hnumbers.of_append [.scalar '\\', c] hpair)
      obtain ⟨d, hd⟩ := exists_escaped hfirst hc
      exact ⟨d :: text, .escaped hd htext⟩
  | number after ih =>
      obtain ⟨written, rest, rfl, hlength, ds, hds⟩ := hnumbers [] after rfl rfl
      obtain ⟨u, hu, hnames⟩ := exists_names_of_hex hds hlength
      have hnumber := continues_names ((hnames u).mpr rfl)
      have hsplit : Text.ofString "\\u" ++ written ++ rest =
          .scalar '\\' :: .scalar 'u' :: (written ++ rest) := rfl
      rw [← hsplit] at hbreak hclosed hnumbers ⊢
      obtain ⟨text, htext⟩ := ih written rest rfl hlength (List.forall_mem_append.mp hbreak).2
        ((continues_append hnumber rest).symm.trans hclosed) (hnumbers.of_append _ hnumber)
      exact ⟨u :: text, .escaped (.number hds hlength hu.symm) htext⟩

/-! ## Texts of one line -/

section Line

variable {t key value : Text}

/-- The key and the value of a line spell texts, if the numbers of the line are well formed. -/
theorem Divides.exists_spelled (h : Divides key value t) (hbreak : ∀ c ∈ t, c.isLineBreak = false)
    (hclosed : continues t = false) (hnumbers : WellNumbered t) :
    ∃ k v, Spells standsInValue k key ∧ Spells standsInValue v value := by
  obtain ⟨indent, between, rfl, hparts⟩ := h.parts
  rw [continues_append hparts.indented.closed] at hclosed
  have hnumbers := hnumbers.of_append indent hparts.indented.closed
  have hbreak := (List.forall_mem_append.mp hbreak).2
  obtain ⟨k, hk⟩ : ∃ k, Spells standsInValue k key := by
    refine Properties.exists_spelled (List.forall_mem_append.mp hbreak).1 hparts.keyed.closed
      (hnumbers.of_append_left ?_)
    rintro c hc written ⟨ds, hds⟩ hmem
    have hgoes := endsKey_of_hexDigits hds hmem
    rw [hparts.ends c hc] at hgoes
    cases hgoes
  rw [← List.append_assoc] at hclosed hnumbers hbreak
  rw [continues_append hparts.closed] at hclosed
  obtain ⟨v, hv⟩ := Properties.exists_spelled (List.forall_mem_append.mp hbreak).2 hclosed
    (hnumbers.of_append _ hparts.closed)
  exact ⟨k, v, hk, hv⟩

/-- A text of one line is read as the entry that it spells. -/
theorem Divides.parse {k v : Text} (h : Divides key value t) (hk : Spells standsInValue k key)
    (hv : Spells standsInValue v value) (hbreak : ∀ c ∈ t, c.isLineBreak = false)
    (hkept : isSkipped (t.dropWhile isGap) = false) (hclosed : continues t = false) :
    parse t = .ok [(k, v)] := by
  obtain ⟨indent, body, rfl, hindent, hbody⟩ := exists_gaps t
  have hdrop := hindent.dropWhile hbody
  have hentry : entry ((indent ++ body).dropWhile isGap) = .ok (k, v) := by
    simp only [entry, h.splitEntry, hk.unescape, hv.unescape]
    rfl
  have hne : indent ++ body ≠ [] := by
    intro hnil
    rw [hnil] at hkept
    cases hkept
  rw [continues_append hindent.closed, ← hdrop] at hclosed
  have hholds : List.Forall₂ Holds [indent ++ body] [(k, v)] :=
    .cons ⟨hbreak, hne, hkept, hclosed, hentry⟩ .nil
  exact parse_of_holds hholds

end Line

/-- A text of one line, which is neither blank nor a comment and ends in an even number of
backslashes, has one key and one value, and is read as the entry that these spell.  A text ends its
line at each of the line breaks, whichever it is: they all do what a line feed does. -/
theorem parse_line (t : Text) :
    ((∀ c ∈ t, c.isLineBreak = false) → isSkipped (t.dropWhile isGap) = false →
      trailingBackslashes t % 2 = 0 →
        ∃ key value, (∀ key' value', Divides key' value' t ↔ key' = key ∧ value' = value) ∧
          (WellNumbered t → ∃ k v, Spells standsInValue k key ∧ Spells standsInValue v value ∧
            parse t = .ok [(k, v)])) ∧
    ∀ c rest, Finished t → c.isLineBreak = true →
      (c = .scalar '\r' → rest.head? ≠ some (.scalar '\n')) →
        parse (t ++ c :: rest) = parse (t ++ .scalar '\n' :: rest) := by
  constructor
  · intro hbreak hkept heven
    have hclosed := continues_eq_false_iff.mpr heven
    obtain ⟨key, value, hdivides⟩ := exists_divides hclosed
    refine ⟨key, value, fun key' value' => ?_, fun hnumbers => ?_⟩
    · rw [divides_iff hclosed, hdivides.splitEntry, Prod.mk.injEq]
      exact and_congr eq_comm eq_comm
    · obtain ⟨k, v, hk, hv⟩ := hdivides.exists_spelled hbreak hclosed hnumbers
      exact ⟨k, v, hk, hv, hdivides.parse hk hv hbreak hkept hclosed⟩
  · intro c rest hfinished hc halone
    have hbreak : LineEnd [c] rest := .single hc halone
    have hlogical : logicalLines (t ++ c :: rest) = logicalLines (t ++ .scalar '\n' :: rest) := by
      rw [hfinished.logicalLines_append_lineFeed]
      exact hfinished.logicalLines_append hbreak
    rw [Properties.parse, hlogical, Properties.parse]

/-- A key with an escaped space and an escaped sign, and a value that begins with a sign and has a
number and a pair of backslashes in it.  Behind a form feed stands another line. -/
theorem parse_line_with_escapes :
    let t : Text := "\tk\\ e\\:y = :\\u0041\\\\"
    ((∀ c ∈ t, c.isLineBreak = false) ∧ isSkipped (t.dropWhile isGap) = false ∧
      trailingBackslashes t % 2 = 0 ∧ WellNumbered t ∧ Finished t) ∧
      (∃ key value k v, Divides key value t ∧ Spells standsInValue k key ∧
        Spells standsInValue v value ∧ parse t = .ok [(k, v)]) ∧
      parse (t ++ .scalar '\x0c' :: "j") = parse (t ++ .scalar '\n' :: "j") := by
  intro t
  have hbreak : ∀ c ∈ t, c.isLineBreak = false := by decide
  have hkept : isSkipped (t.dropWhile isGap) = false := by decide
  have heven : trailingBackslashes t % 2 = 0 := by decide
  have hnumbers : WellNumbered t := by
    intro before after heq _
    have hafter : after = "0041\\\\" := by
      simp [t, Text.ofString, List.cons_eq_append_iff] at heq
      obtain ⟨rfl, rfl⟩ := heq
      rfl
    subst hafter
    have hdigits : HexDigits "0041" [0, 0, 4, 1] :=
      .cons rfl (.cons rfl (.cons rfl (.cons rfl .nil)))
    exact ⟨"0041", "\\\\", rfl, rfl, _, hdigits⟩
  have hfinished : Finished t := by
    unfold Finished
    decide
  obtain ⟨hline, hend⟩ := parse_line t
  obtain ⟨key, value, hdivides, hread⟩ := hline hbreak hkept heven
  obtain ⟨k, v, hk, hv, hparse⟩ := hread hnumbers
  exact ⟨⟨hbreak, hkept, heven, hnumbers, hfinished⟩,
    ⟨key, value, k, v, (hdivides key value).mpr ⟨rfl, rfl⟩, hk, hv, hparse⟩,
    hend (.scalar '\x0c') "j" hfinished rfl fun heq => absurd heq (by decide)⟩

/-- A form feed in a line ends it, though it is space that could stand in a value. -/
theorem form_feed_ends_line :
    let t : Text := "k=a\x0cb"
    (∀ c ∈ t, c ≠ '\r' ∧ c ≠ '\n') ∧ isSkipped (t.dropWhile isGap) = false ∧
      trailingBackslashes t % 2 = 0 ∧ WellNumbered t ∧ Divides "k" "a\x0cb" t ∧
        ¬ ∃ k v, parse t = .ok [(k, v)] := by
  intro t
  have hnumbers : WellNumbered t := by
    intro before after heq
    have hmem : CodePoint.scalar '\\' ∈ t := by
      rw [heq]
      simp
    exact absurd hmem (by decide)
  have hnone : Gaps [] := nofun
  have hkey : KeyText "k" := .plain (by decide) rfl .nil
  have hvalue : ∀ c, List.head? ("a\x0cb" : Text) = some c → isGap c = false := by
    rintro c ⟨⟩
    decide
  have hdivides : Divides "k" "a\x0cb" t :=
    @Divides.signed "k" "a\x0cb" [] [] [] (.scalar '=') hnone hkey hnone nofun rfl hnone hvalue
  have hparse : parse t = .ok [("b", []), ("k", "a")] := rfl
  refine ⟨by decide, by decide, by decide, hnumbers, hdivides, ?_⟩
  rintro ⟨k, v, hone⟩
  cases hparse.symm.trans hone

end Properties

end ConfigReader
