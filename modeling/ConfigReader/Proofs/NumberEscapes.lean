import ConfigReader.Proofs.Writing
import Mathlib.Algebra.Group.Nat.Defs
import Mathlib.Data.List.TakeWhile

/-!
# Numbers in properties texts

A backslash and a `u` stand for the code point that the next four code points name by number.
The four are read as any integer literal in base sixteen is, and so may have space, a sign, the
letter of the base and underscores in them, and digits of other scripts than ASCII.

`Properties.parse_numbers` says which texts are read, and what their numbers stand for.  Four
hexadecimal digits are always a number, but not all numbers are such digits
(`Properties.parse_number_with_sign`).  No number has a backslash in it, and so the escapes of a
text can be told from its backslashes alone, in whatever way its numbers are written.
-/

namespace ConfigReader

namespace Text

/-- What is in a text is in it without a class that it does not belong to. -/
theorem mem_dropWhile {p : CodePoint → Bool} {t : Text} {c : CodePoint} (h : c ∈ t)
    (hc : p c = false) : c ∈ t.dropWhile p := by
  rw [← List.takeWhile_append_dropWhile (p := p) (l := t), List.mem_append] at h
  refine h.resolve_left fun hlead => ?_
  rw [List.mem_takeWhile_imp hlead] at hc
  cases hc

theorem mem_trim {p : CodePoint → Bool} {t : Text} {c : CodePoint} (h : c ∈ t)
    (hc : p c = false) : c ∈ t.trim p :=
  List.mem_reverse.mpr (mem_dropWhile (List.mem_reverse.mpr (mem_dropWhile h hc)) hc)

end Text

/-! ## Literals without backslashes -/

theorem HexRun.backslash_notMem {afterDigit : Bool} {t : Text} {ds : List Nat}
    (h : HexRun afterDigit t ds) : CodePoint.scalar '\\' ∉ t := by
  induction h with
  | nil => exact List.not_mem_nil
  | underscore _ ih => exact List.not_mem_cons_of_ne_of_not_mem (by decide) ih
  | digit hdigit _ ih =>
      refine List.not_mem_cons_of_ne_of_not_mem ?_ ih
      rintro rfl
      cases hdigit

theorem HexBody.backslash_notMem {t : Text} {ds : List Nat} (h : HexBody t ds) :
    CodePoint.scalar '\\' ∉ t := by
  cases h with
  | bare h => exact h.backslash_notMem
  | lettered hletter h => rcases hletter with rfl | rfl <;> simp [h.backslash_notMem]
  | apart hletter h => rcases hletter with rfl | rfl <;> simp [h.backslash_notMem]

theorem HexLiteral.backslash_notMem {t : Text} {n : Int} (h : HexLiteral t n) :
    CodePoint.scalar '\\' ∉ t := by
  cases h with
  | unsigned h => exact h.backslash_notMem
  | plus h => simp [h.backslash_notMem]
  | minus h => simp [h.backslash_notMem]

namespace Properties

/-! ## Backslashes that are not escaped -/

theorem continues_append {s : Text} (h : continues s = false) (t : Text) :
    continues (s ++ t) = continues t := by
  induction t using List.reverseRecOn with
  | nil => rw [List.append_nil, h]; rfl
  | append_singleton t c ih => rw [← List.append_assoc, continues_concat, continues_concat, ih]

theorem continues_singleton {c : CodePoint} (h : c ≠ '\\') : continues [c] = false :=
  closed_singleton h [] rfl

theorem continues_escape (mark : CodePoint) : continues [.scalar '\\', mark] = false :=
  closed_escape mark [] rfl

/-! ## Numbers -/

/-- Code points that are read as the number of a code point. -/
def Names (written : Text) (u : CodePoint) : Prop :=
  HexLiteral (written.trim CodePoint.isLiteralBlank).asciiDigits u.toNat

theorem unit?_eq_some_iff {written : Text} {u : CodePoint} :
    unit? written = some u ↔ Names written u := by
  rw [Names, ← integerLiteral_sixteen_iff, unit?]
  constructor
  · intro h
    split at h
    · next n hn => rw [hn, CodePoint.ofNat?_eq_some_iff.mp h]; rfl
    · cases h
  · intro h
    rw [h]
    exact u.ofNat?_toNat

/-- No backslash stands in a number. -/
theorem Names.backslash_notMem {written : Text} {u : CodePoint} (h : Names written u) :
    CodePoint.scalar '\\' ∉ written := by
  intro hmem
  have htrim := Text.mem_trim hmem (show CodePoint.isLiteralBlank '\\' = false by decide)
  exact HexLiteral.backslash_notMem h (List.mem_map.mpr ⟨_, htrim, by decide⟩)

/-! ## Numbers in a text -/

/-- Every backslash that is not escaped and has a `u` behind it has four code points behind these
that are accepted. -/
def NumbersAre (accepts : Text → Prop) (part : Text) : Prop :=
  ∀ before after, part = before ++ .scalar '\\' :: .scalar 'u' :: after →
    trailingBackslashes before % 2 = 0 →
      ∃ written rest, after = written ++ rest ∧ written.length = 4 ∧ accepts written

theorem continues_eq_false_iff {line : Text} :
    continues line = false ↔ trailingBackslashes line % 2 = 0 := by
  simp [continues]

namespace NumbersAre

variable {accepts : Text → Prop} {part : Text}

/-- What stands behind a part that ends in no unpaired backslash is asked for the same. -/
theorem of_append (first : Text) (h : NumbersAre accepts (first ++ part))
    (hfirst : continues first = false) : NumbersAre accepts part := by
  rintro before after rfl heven
  refine h (first ++ before) after (List.append_assoc _ _ _).symm ?_
  rw [← continues_eq_false_iff] at heven ⊢
  rw [continues_append hfirst, heven]

end NumbersAre

/-! ## Escapes one by one -/

/-- A text is empty or begins with a code point that is no backslash, with a backslash and a mark,
or with a backslash and a `u`, behind which a number may stand.  Otherwise it is a backslash. -/
@[elab_as_elim]
theorem escapes_induction {motive : Text → Prop} (nil : motive [])
    (plain : ∀ c rest, c ≠ .scalar '\\' → motive rest → motive (c :: rest))
    (single : motive [.scalar '\\'])
    (mark : ∀ c rest, c ≠ .scalar 'u' → motive rest → motive (.scalar '\\' :: c :: rest))
    (number : ∀ after, (∀ written rest, after = written ++ rest → written.length = 4 →
      motive rest) → motive (.scalar '\\' :: .scalar 'u' :: after)) (t : Text) : motive t := by
  induction hn : t.length using Nat.strong_induction_on generalizing t with
  | _ n ih =>
      subst hn
      match t with
      | [] => exact nil
      | c :: rest =>
          by_cases hc : c = .scalar '\\'
          · subst hc
            match rest with
            | [] => exact single
            | c :: rest =>
                by_cases hu : c = .scalar 'u'
                · subst hu
                  refine number rest fun written last hrest _ => ih _ ?_ last rfl
                  simp [hrest]
                  omega
                · exact mark c rest hu (ih _ (by simp only [List.length_cons]; omega) rest rfl)
          · exact plain c rest hc (ih _ (by simp) rest rfl)

theorem unescape_mark {c : CodePoint} (h : c ≠ 'u') (rest : Text) :
    unescape (.scalar '\\' :: c :: rest) = (unescape rest).map (escaped c :: ·) := by
  rw [unescape]
  · exact fun _ _ _ _ _ heq _ => h heq
  · exact h

/-- An escape by number stands for its code point. -/
theorem unescape_names {written : Text} {u : CodePoint} (hlength : written.length = 4)
    (h : Names written u) (rest : Text) :
    unescape (.scalar '\\' :: .scalar 'u' :: (written ++ rest)) =
      (unescape rest).map (u :: ·) := by
  match written, hlength with
  | [a, b, c, d], _ =>
      change unescape (.scalar '\\' :: .scalar 'u' :: a :: b :: c :: d :: rest) = _
      rw [unescape, unit?_eq_some_iff.mpr h]

/-- A backslash and a `u` are an escape by number or in error. -/
theorem names_or_error (after : Text) :
    (∃ written rest u, after = written ++ rest ∧ written.length = 4 ∧ Names written u) ∨
      ∃ written, unescape (.scalar '\\' :: .scalar 'u' :: after) = .error (.escape written) := by
  match after with
  | [] | [_] | [_, _] | [_, _, _] => exact .inr ⟨_, rfl⟩
  | a :: b :: c :: d :: rest =>
      cases hunit : unit? [a, b, c, d] with
      | none => exact .inr ⟨_, by rw [unescape, hunit]⟩
      | some u => exact .inl ⟨[a, b, c, d], rest, u, rfl, rfl, unit?_eq_some_iff.mp hunit⟩

theorem exists_names {after text : Text}
    (h : unescape (.scalar '\\' :: .scalar 'u' :: after) = .ok text) :
    ∃ written rest u, after = written ++ rest ∧ written.length = 4 ∧ Names written u :=
  (names_or_error after).resolve_right fun ⟨written, herror⟩ => by
    rw [herror] at h
    cases h

/-- No unpaired backslash stands at the end of an escape by number. -/
theorem continues_names {written : Text} {u : CodePoint} (h : Names written u) :
    continues (.scalar '\\' :: .scalar 'u' :: written) = false := by
  have hclosed : Closed written := closed_of_plain fun c hc heq => h.backslash_notMem (heq ▸ hc)
  exact hclosed _ (continues_escape 'u')

theorem exists_of_map {f : Text → Text} {x : Except Failure Text} {text : Text}
    (h : x.map f = .ok text) : ∃ t, x = .ok t ∧ text = f t := by
  cases x with
  | error e => cases h
  | ok t =>
      cases h
      exact ⟨t, rfl, rfl⟩

theorem error_of_map {f : Text → Text} {x : Except Failure Text} {e : Failure}
    (h : x.map f = .error e) : x = .error e := by
  cases x with
  | error e => exact congrArg Except.error (Except.error.inj h)
  | ok t => cases h

/-- What is freed of escapes has a number behind each backslash that is not escaped and has a `u`
behind it, and has the code point in the place of them. -/
theorem unescape_at {before after text : Text}
    (h : unescape (before ++ .scalar '\\' :: .scalar 'u' :: after) = .ok text)
    (hbefore : continues before = false) :
    ∃ written rest u first last, after = written ++ rest ∧ written.length = 4 ∧
      Names written u ∧ unescape before = .ok first ∧ unescape rest = .ok last ∧
      text = first ++ u :: last := by
  induction before using escapes_induction generalizing text with
  | nil =>
      obtain ⟨written, rest, u, rfl, hlength, hnames⟩ := exists_names h
      rw [List.nil_append, unescape_names hlength hnames] at h
      obtain ⟨last, hlast, rfl⟩ := exists_of_map h
      exact ⟨written, rest, u, [], last, rfl, hlength, hnames, rfl, hlast, rfl⟩
  | plain c before hc ih =>
      rw [List.cons_append, unescape_cons hc] at h
      obtain ⟨t, ht, rfl⟩ := exists_of_map h
      rw [← List.singleton_append, continues_append (continues_singleton hc)] at hbefore
      obtain ⟨written, rest, u, first, last, hafter, hlength, hnames, hfirst, hlast, rfl⟩ :=
        ih ht hbefore
      refine ⟨written, rest, u, c :: first, last, hafter, hlength, hnames, ?_, hlast, rfl⟩
      rw [unescape_cons hc, hfirst]
      rfl
  | single => cases hbefore
  | mark c before hc ih =>
      rw [List.cons_append, List.cons_append, unescape_mark hc] at h
      obtain ⟨t, ht, rfl⟩ := exists_of_map h
      have hbefore := (continues_append (continues_escape c) before).symm.trans hbefore
      obtain ⟨written, rest, u, first, last, hafter, hlength, hnames, hfirst, hlast, rfl⟩ :=
        ih ht hbefore
      refine ⟨written, rest, u, escaped c :: first, last, hafter, hlength, hnames, ?_, hlast, rfl⟩
      rw [unescape_mark hc, hfirst]
      rfl
  | number before ih =>
      obtain ⟨number, rest, u, hsplit, hlength, hnames⟩ := exists_names h
      -- the number ends before the backslash, as none stands in it
      obtain ⟨before, rfl⟩ : ∃ more, before = number ++ more := by
        obtain ⟨more, hmore, hrest⟩ | ⟨more, hmore, -⟩ := List.append_eq_append_iff.mp hsplit
        · cases more with
          | nil => exact ⟨[], by rw [hmore, List.append_nil, List.append_nil]⟩
          | cons c more =>
              have hbackslash : .scalar '\\' = c := (List.cons.inj hrest).1
              exact absurd (hmore ▸ List.mem_append_right before (hbackslash ▸ List.mem_cons_self))
                hnames.backslash_notMem
        · exact ⟨more, hmore⟩
      rw [List.cons_append, List.cons_append, List.append_assoc,
        unescape_names hlength hnames] at h
      obtain ⟨t, ht, rfl⟩ := exists_of_map h
      have hbefore := (continues_append (continues_names hnames) before).symm.trans hbefore
      obtain ⟨written, rest, v, first, last, hafter, hlength', hnames', hfirst, hlast, rfl⟩ :=
        ih number before rfl hlength ht hbefore
      refine ⟨written, rest, v, u :: first, last, hafter, hlength', hnames', ?_, hlast, rfl⟩
      rw [unescape_names hlength hnames, hfirst]
      rfl

/-- A text with numbers behind all backslashes that ask for one is freed of its escapes. -/
theorem unescape_returns {part : Text}
    (h : NumbersAre (fun written => ∃ u, Names written u) part) :
    ∃ text, unescape part = .ok text := by
  induction part using escapes_induction with
  | nil => exact ⟨[], rfl⟩
  | plain c rest hc ih =>
      obtain ⟨text, htext⟩ := ih (h.of_append [c] (continues_singleton hc))
      exact ⟨c :: text, by rw [unescape_cons hc, htext]; rfl⟩
  | single => exact ⟨[.scalar '\\'], rfl⟩
  | mark c rest hc ih =>
      obtain ⟨text, htext⟩ := ih (h.of_append [.scalar '\\', c] (continues_escape c))
      exact ⟨escaped c :: text, by rw [unescape_mark hc, htext]; rfl⟩
  | number after ih =>
      obtain ⟨written, rest, rfl, hlength, u, hnames⟩ := h [] after rfl rfl
      obtain ⟨text, htext⟩ := ih written rest rfl hlength
        (h.of_append (.scalar '\\' :: .scalar 'u' :: written) (continues_names hnames))
      exact ⟨u :: text, by rw [unescape_names hlength hnames, htext]; rfl⟩

/-- What is freed of its escapes are the texts with numbers behind all backslashes that ask for
one. -/
theorem unescape_returns_iff {part : Text} :
    (∃ text, unescape part = .ok text) ↔
      NumbersAre (fun written => ∃ u, Names written u) part := by
  refine ⟨?_, unescape_returns⟩
  rintro ⟨text, h⟩ before after rfl heven
  obtain ⟨written, rest, u, -, -, hafter, hlength, hnames, -⟩ :=
    unescape_at h (continues_eq_false_iff.mpr heven)
  exact ⟨written, rest, hafter, hlength, u, hnames⟩

/-- Nothing but an escape stops a text from being freed of its escapes. -/
theorem unescape_error {part : Text} {f : Failure} (h : unescape part = .error f) :
    ∃ written, f = .escape written := by
  induction part using escapes_induction with
  | nil => cases h
  | plain c rest hc ih =>
      rw [unescape_cons hc] at h
      exact ih (error_of_map h)
  | single => cases h
  | mark c rest hc ih =>
      rw [unescape_mark hc] at h
      exact ih (error_of_map h)
  | number after ih =>
      obtain ⟨written, rest, u, rfl, hlength, hnames⟩ | ⟨written, herror⟩ := names_or_error after
      · rw [unescape_names hlength hnames] at h
        exact ih written rest rfl hlength (error_of_map h)
      · exact ⟨written, Except.error.inj (h.symm.trans herror)⟩

/-! ## Numbers in a properties text -/

/-- The keys and the values of a text, escapes included. -/
def parts (t : Text) : List Text :=
  (logicalLines t).flatMap fun line => [(splitEntry line).1, (splitEntry line).2]

/-- The pair of a line: its key and its value, freed of their escapes. -/
def Frees (line : Text) (pair : Text × Text) : Prop :=
  unescape (splitEntry line).1 = .ok pair.1 ∧ unescape (splitEntry line).2 = .ok pair.2

/-- The entry of a line is its pair, or is in error as its key or its value. -/
theorem entry_cases (line : Text) :
    (∃ pair, Frees line pair ∧ entry line = .ok pair) ∨
      ∃ part ∈ [(splitEntry line).1, (splitEntry line).2], ∃ f, unescape part = .error f ∧
        entry line = .error f := by
  have hentry : entry line = (unescape (splitEntry line).2).bind fun value =>
      (unescape (splitEntry line).1).bind fun key => .ok (key, value) := rfl
  rw [hentry]
  cases hvalue : unescape (splitEntry line).2 with
  | error f => exact .inr ⟨_, List.mem_cons_of_mem _ List.mem_cons_self, f, hvalue, rfl⟩
  | ok value =>
      cases hkey : unescape (splitEntry line).1 with
      | error f => exact .inr ⟨_, List.mem_cons_self, f, hkey, rfl⟩
      | ok key => exact .inl ⟨(key, value), ⟨hkey, hvalue⟩, rfl⟩

theorem frees_of_entry {line : Text} {pair : Text × Text} (h : entry line = .ok pair) :
    Frees line pair := by
  obtain ⟨pair', hpair, hentry⟩ | ⟨_, _, f, -, herror⟩ := entry_cases line
  · cases h.symm.trans hentry
    exact hpair
  · cases h.symm.trans herror

/-- A text is read as the pairs of its lines, or is in error as a key or a value. -/
theorem parse_cases (t : Text) :
    (∃ pairs, List.Forall₂ Frees (logicalLines t) pairs ∧ parse t = .ok (Entries.ofPairs pairs)) ∨
      ∃ part ∈ parts t, ∃ f, unescape part = .error f ∧ parse t = .error f := by
  obtain ⟨pairs, hpairs, hall⟩ | ⟨line, hline, f, hf, herror⟩ :=
    mapM_returns_or_stops entry (logicalLines t)
  · exact .inl ⟨pairs, hall.imp fun _ _ => frees_of_entry, by rw [parse, hpairs]; rfl⟩
  · obtain ⟨pair, -, hpair⟩ | ⟨part, hpart, f', hf', herror'⟩ := entry_cases line
    · cases hf.symm.trans hpair
    · cases hf.symm.trans herror'
      exact .inr ⟨part, List.mem_flatMap.mpr ⟨line, hline, hpart⟩, f, hf', by rw [parse, herror]; rfl⟩

/-- The keys and the values of lines with pairs are all freed of their escapes. -/
theorem exists_of_frees {lines : List Text} {pairs : List (Text × Text)}
    (h : List.Forall₂ Frees lines pairs) :
    ∀ part ∈ lines.flatMap fun line => [(splitEntry line).1, (splitEntry line).2],
      ∃ text, unescape part = .ok text := by
  induction h with
  | nil => exact nofun
  | cons hpair _ ih =>
      rw [List.flatMap_cons, List.forall_mem_append]
      refine ⟨?_, ih⟩
      simp only [List.mem_cons, List.not_mem_nil, or_false, forall_eq_or_imp, forall_eq]
      exact ⟨⟨_, hpair.1⟩, ⟨_, hpair.2⟩⟩

/-- Digits in base sixteen spell a number with no more digits. -/
theorem foldl_hex_lt {written : Text} {ds : List Nat} (h : HexDigits written ds) (n : Nat) :
    ds.foldl (fun n d => 16 * n + d) n < (n + 1) * 16 ^ written.length := by
  induction h generalizing n with
  | nil => simp
  | @cons c d written ds hdigit _ ih =>
      have hd := CodePoint.hexValue?_lt hdigit
      calc (d :: ds).foldl (fun n d => 16 * n + d) n
          < (16 * n + d + 1) * 16 ^ written.length := ih (16 * n + d)
        _ ≤ (n + 1) * 16 * 16 ^ written.length := Nat.mul_le_mul_right _ (by omega)
        _ = (n + 1) * 16 ^ (c :: written).length := by
            rw [List.length_cons, Nat.pow_succ', Nat.mul_assoc]

/-- Four hexadecimal digits are the number of one code point. -/
theorem exists_names_of_hex {written : Text} {ds : List Nat} (h : HexDigits written ds)
    (hlength : written.length = 4) :
    ∃ u : CodePoint, u.toNat = hexNumber ds ∧ ∀ v, Names written v ↔ v = u := by
  have hlt : hexNumber ds < 65536 := by
    have hlt := foldl_hex_lt h 0
    rwa [hlength] at hlt
  obtain ⟨u, hu⟩ := CodePoint.exists_toNat (n := hexNumber ds) (by omega)
  have hne : written ≠ [] := by
    rintro rfl
    cases hlength
  refine ⟨u, hu, fun v => ?_⟩
  rw [← unit?_eq_some_iff, unit?_of_hex h hne hu.symm, Option.some.injEq]
  exact eq_comm

/-- A properties text is read exactly if behind each `u` with a backslash that is not escaped, in
every key and value, stand four code points that are read as the number of a code point.  Otherwise
the error is one of a wrong value.  A text that is read has the entries of its lines freed of
escapes, and an escape by number gives the code point of its number.  Four hexadecimal digits are
such a number, but so are other texts. -/
theorem parse_numbers (t : Text) :
    ((∃ table, parse t = .ok table) ↔
        ∀ part ∈ parts t, NumbersAre (fun written => ∃ u, Names written u) part) ∧
      ((∃ part ∈ parts t, ¬ NumbersAre (fun written => ∃ u, Names written u) part) →
        ∃ f, parse t = .error f ∧ f.className = "ValueError") ∧
      (∀ table, parse t = .ok table → ∃ pairs, List.Forall₂ Frees (logicalLines t) pairs ∧
        table = Entries.ofPairs pairs) ∧
      (∀ text before after, unescape (before ++ .scalar '\\' :: .scalar 'u' :: after) = .ok text →
        trailingBackslashes before % 2 = 0 →
          ∃ written rest u first last, after = written ++ rest ∧ written.length = 4 ∧
            Names written u ∧ unescape before = .ok first ∧ unescape rest = .ok last ∧
            text = first ++ u :: last) ∧
      ∀ written ds, HexDigits written ds → written.length = 4 →
        ∃ u : CodePoint, u.toNat = hexNumber ds ∧ ∀ v, Names written v ↔ v = u := by
  have hread : (∀ part ∈ parts t, ∃ text, unescape part = .ok text) ↔
      ∀ part ∈ parts t, NumbersAre (fun written => ∃ u, Names written u) part :=
    forall₂_congr fun _ _ => unescape_returns_iff
  refine ⟨?_, ?_, ?_, ?_, fun _ _ => exists_names_of_hex⟩
  · rw [← hread]
    obtain ⟨pairs, hpairs, hparse⟩ | ⟨part, hpart, f, hf, herror⟩ := parse_cases t
    · exact iff_of_true ⟨_, hparse⟩ (exists_of_frees hpairs)
    · refine iff_of_false ?_ ?_
      · rintro ⟨table, htable⟩
        cases htable.symm.trans herror
      · intro hall
        obtain ⟨text, htext⟩ := hall part hpart
        cases htext.symm.trans hf
  · rintro ⟨part, hpart, hnumbers⟩
    obtain ⟨pairs, hpairs, -⟩ | ⟨part, -, f, hf, herror⟩ := parse_cases t
    · exact absurd (hread.mp (exists_of_frees hpairs) part hpart) hnumbers
    · obtain ⟨written, rfl⟩ := unescape_error hf
      exact ⟨_, herror, rfl⟩
  · intro table htable
    obtain ⟨pairs, hpairs, hparse⟩ | ⟨_, _, f, -, herror⟩ := parse_cases t
    · exact ⟨pairs, hpairs, Except.ok.inj (htable.symm.trans hparse)⟩
    · cases htable.symm.trans herror
  · intro text before after h heven
    exact unescape_at h (continues_eq_false_iff.mpr heven)

/-- A number with a sign in a value that is read, and one with a wrong letter in a key that is
not. -/
theorem parse_numbers_with_letter :
    let t : Text := "k=\\\\\\u0042\\u+041"
    let t' : Text := "k\\u00g1"
    (∀ part ∈ parts t, NumbersAre (fun written => ∃ u, Names written u) part) ∧
      (∃ written rest u first last, ("+041" : Text) = written ++ rest ∧ written.length = 4 ∧
        Names written u ∧ unescape "\\\\\\u0042" = .ok first ∧ unescape rest = .ok last ∧
        ("\\BA" : Text) = first ++ u :: last) ∧
      ∃ f, parse t' = .error f ∧ f.className = "ValueError" := by
  intro t t'
  have hpart : Text.ofString "k\\u00g1" ∈ parts t' := by decide
  obtain ⟨hread, -, -, hnumber, -⟩ := parse_numbers t
  refine ⟨hread.mp ⟨_, rfl⟩, hnumber "\\BA" "\\\\\\u0042" "+041" rfl rfl, ?_⟩
  refine (parse_numbers t').2.1 ⟨_, hpart, fun h => ?_⟩
  obtain ⟨text, htext⟩ := unescape_returns h
  cases htext

/-- A sign and three digits are read as the number of a letter, though they are not four
hexadecimal digits. -/
theorem parse_number_with_sign :
    let t : Text := "k=\\u+041"
    ¬ ((∃ table, parse t = .ok table) ↔
      ∀ part ∈ parts t, NumbersAre (fun written => ∃ ds, HexDigits written ds) part) := by
  intro t h
  have hpart : Text.ofString "\\u+041" ∈ parts t := by decide
  obtain ⟨written, rest, hafter, hlength, ds, hdigits⟩ :=
    h.mp ⟨_, rfl⟩ _ hpart [] "+041" rfl rfl
  cases hdigits with
  | nil => cases hlength
  | cons hdigit _ =>
      obtain rfl : CodePoint.scalar '+' = _ := (List.cons.inj hafter).1
      cases hdigit

end Properties

end ConfigReader
