import ConfigReader.Proofs.Division

/-!
# Scans that stay inside their lines

A logical line ends in an even number of backslashes: a line that ends in an odd number goes on, and
what is open at the end of a text has lost the last one (`continues_of_mem_logicalLines`).  The
passes behind rely on it, for they jump.  The scan of a key passes a backslash and what stands
behind it at once, and the reader of escapes passes two code points or six.

`Properties.logicalLines_scanned` says that no jump leads out of a line.  The scan is given by the
positions it comes to (`keyEnd`, `gapEnd`, `valueStart`), and the reader of escapes by its turns
(`turns`).  Both are the functions that the reader of texts uses (`splitEntry_eq`,
`unescape_eq_turns`).
-/

namespace ConfigReader

namespace Properties

/-! ## Ends of logical lines -/

theorem continues_of_mem_closeLine {raw line : Text} (h : line ∈ (closeLine raw).1) :
    continues line = false := by
  unfold closeLine at h
  split at h
  · cases h
  · next hclosed =>
      rw [List.mem_singleton.mp h]
      exact Bool.not_eq_true _ ▸ hclosed

/-- The logical line that ends with a line does not go on. -/
theorem continues_of_mem_takeLine {pending : Option Text} {raw line : Text}
    (h : line ∈ (takeLine pending raw).1) : continues line = false := by
  cases pending with
  | none =>
      rw [takeLine] at h
      split at h
      · cases h
      · exact continues_of_mem_closeLine h
  | some pending => exact continues_of_mem_closeLine h

/-- Lines joined to an open part without an unpaired backslash make logical lines that do not go
on. -/
theorem continues_of_mem_joinLines {pending : Option Text} (hpending : Paired pending)
    {lines : List Text} {line : Text} (h : line ∈ joinLines pending lines) :
    continues line = false := by
  induction lines generalizing pending with
  | nil =>
      cases pending with
      | none => cases h
      | some t =>
          rw [List.mem_singleton.mp h]
          exact hpending t rfl
  | cons raw rest ih =>
      rw [joinLines_cons, List.mem_append] at h
      obtain h | h := h
      · exact continues_of_mem_takeLine h
      · exact ih (paired_takeLine pending raw) h

theorem continues_of_mem_logicalLines {t line : Text} (h : line ∈ logicalLines t) :
    continues line = false :=
  continues_of_mem_joinLines paired_none h

/-! ## Positions in a line -/

/-- The position where a key ends, from a position in it on.  A backslash is passed together with
what stands behind it. -/
def keyEnd (t : Text) (index : Nat) : Nat :=
  if h : index < t.length then
    if t[index] = .scalar '\\' then keyEnd t (index + 2)
    else if endsKey t[index] then index
    else keyEnd t (index + 1)
  else index
termination_by t.length - index

/-- The position where space ends. -/
def gapEnd (t : Text) (index : Nat) : Nat :=
  if h : index < t.length then
    if isGap t[index] then gapEnd t (index + 1) else index
  else index
termination_by t.length - index

/-- The position where the value of a line begins. -/
def valueStart (t : Text) : Nat :=
  let index := gapEnd t (keyEnd t 0)
  if h : index < t.length then
    if isSign t[index] then gapEnd t (index + 1) else index
  else index

theorem keyEnd_outside {t : Text} {index : Nat} (h : ¬ index < t.length) :
    keyEnd t index = index := by
  rw [keyEnd, dif_neg h]

theorem keyEnd_jump {t : Text} {index : Nat} (h : index < t.length)
    (hescape : t[index] = .scalar '\\') : keyEnd t index = keyEnd t (index + 2) := by
  rw [keyEnd, dif_pos h, if_pos hescape]

theorem keyEnd_stop {t : Text} {index : Nat} (h : index < t.length)
    (hends : endsKey t[index] = true) : keyEnd t index = index := by
  rw [keyEnd, dif_pos h, if_neg (ne_backslash_of_endsKey hends), if_pos hends]

theorem keyEnd_step {t : Text} {index : Nat} (h : index < t.length)
    (hescape : t[index] ≠ .scalar '\\') (hends : ¬ endsKey t[index] = true) :
    keyEnd t index = keyEnd t (index + 1) := by
  rw [keyEnd, dif_pos h, if_neg hescape, if_neg hends]

theorem keyEnd_nil (index : Nat) : keyEnd [] index = index :=
  keyEnd_outside (Nat.not_lt_zero index)

/-- A scan is the same behind a first code point. -/
theorem keyEnd_cons (c : CodePoint) (t : Text) (index : Nat) :
    keyEnd (c :: t) (index + 1) = keyEnd t index + 1 := by
  induction index using keyEnd.induct t with
  | case1 index h hescape ih =>
      rw [keyEnd_jump h hescape, ← ih]
      exact keyEnd_jump (Nat.succ_lt_succ h) hescape
  | case2 index h hescape hends =>
      rw [keyEnd_stop h hends]
      exact keyEnd_stop (Nat.succ_lt_succ h) hends
  | case3 index h hescape hgoes ih =>
      rw [keyEnd_step h hescape hgoes, ← ih]
      exact keyEnd_step (Nat.succ_lt_succ h) hescape hgoes
  | case4 index h =>
      rw [keyEnd_outside h]
      exact keyEnd_outside (mt Nat.lt_of_succ_lt_succ h)

theorem keyEnd_escape (c : CodePoint) (rest : Text) :
    keyEnd (.scalar '\\' :: c :: rest) 0 = keyEnd rest 0 + 2 := by
  rw [keyEnd_jump (Nat.succ_pos _) rfl, keyEnd_cons, keyEnd_cons]

theorem keyEnd_of_end {c : CodePoint} (h : endsKey c = true) (rest : Text) :
    keyEnd (c :: rest) 0 = 0 :=
  keyEnd_stop (Nat.succ_pos _) h

theorem keyEnd_plain {c : CodePoint} (hc : c ≠ .scalar '\\') (h : ¬ endsKey c = true)
    (rest : Text) : keyEnd (c :: rest) 0 = keyEnd rest 0 + 1 := by
  have hlength : 0 < (c :: rest).length := Nat.succ_pos _
  rw [keyEnd_step hlength hc h, keyEnd_cons]

/-- A backslash at the end of a line sends the scan beyond it. -/
theorem keyEnd_single : keyEnd [.scalar '\\'] 0 = 2 := by
  rw [keyEnd_jump Nat.one_pos rfl, keyEnd_outside (by decide)]

/-- The key of a line and what follows it are the parts in front of and behind a position. -/
theorem splitKey_eq (line : Text) :
    splitKey line = (line.take (keyEnd line 0), line.drop (keyEnd line 0)) := by
  induction line using splitKey.induct with
  | case1 => rw [splitKey, List.take_nil, List.drop_nil]
  | case2 c rest _ _ _ ih =>
      rw [splitKey, keyEnd_escape, ih]
      rfl
  | case3 c rest _ hends =>
      rw [splitKey_of_end hends, keyEnd_of_end hends]
      rfl
  | case4 c rest hsingle hgoes _ _ _ ih =>
      by_cases hc : c = '\\'
      · subst hc
        cases rest with
        | nil => rw [keyEnd_single]; rfl
        | cons d more => exact absurd rfl (hsingle d more rfl)
      · rw [splitKey, if_neg hgoes, keyEnd_plain hc hgoes, ih]
        · rfl
        · exact fun _ _ heq _ => hc heq

/-- The scan of a key ends in the line or with it, if the line does not go on. -/
theorem keyEnd_le {line : Text} (h : continues line = false) : keyEnd line 0 ≤ line.length := by
  obtain ⟨key, rest, rfl, hkey, hrest⟩ := exists_key h
  have hend : keyEnd (key ++ rest) 0 = key.length := by
    clear h
    induction hkey with
    | nil =>
        cases rest with
        | nil => exact keyEnd_nil 0
        | cons c more => exact keyEnd_of_end (hrest c rfl) more
    | plain hplain hgoes _ ih =>
        rw [List.cons_append, keyEnd_plain hplain (Bool.eq_false_iff.mp hgoes), ih,
          List.length_cons]
    | escaped _ ih =>
        rw [List.cons_append, List.cons_append, keyEnd_escape, ih, List.length_cons,
          List.length_cons]
  rw [hend, List.length_append]
  exact Nat.le_add_right _ _

theorem le_gapEnd (t : Text) (index : Nat) : index ≤ gapEnd t index := by
  induction index using gapEnd.induct t with
  | case1 index h hgap ih =>
      rw [gapEnd, dif_pos h, if_pos hgap]
      exact (Nat.le_succ index).trans ih
  | case2 index h hgap => rw [gapEnd, dif_pos h, if_neg hgap]
  | case3 index h => rw [gapEnd, dif_neg h]

theorem gapEnd_le {t : Text} {index : Nat} (hindex : index ≤ t.length) :
    gapEnd t index ≤ t.length := by
  induction index using gapEnd.induct t with
  | case1 index h hgap ih =>
      rw [gapEnd, dif_pos h, if_pos hgap]
      exact ih h
  | case2 index h hgap => rwa [gapEnd, dif_pos h, if_neg hgap]
  | case3 index h => rwa [gapEnd, dif_neg h]

/-- Behind the position where space ends stands what space does not begin. -/
theorem drop_gapEnd (t : Text) (index : Nat) :
    t.drop (gapEnd t index) = (t.drop index).dropWhile isGap := by
  induction index using gapEnd.induct t with
  | case1 index h hgap ih =>
      rw [gapEnd, dif_pos h, if_pos hgap, ih, List.drop_eq_getElem_cons h,
        List.dropWhile_cons_of_pos hgap]
  | case2 index h hgap =>
      rw [gapEnd, dif_pos h, if_neg hgap, List.drop_eq_getElem_cons h,
        List.dropWhile_cons_of_neg hgap]
  | case3 index h =>
      rw [gapEnd, dif_neg h, List.drop_of_length_le (Nat.le_of_not_lt h), List.dropWhile_nil]

/-- Behind the position where the value begins stands what a separator does not begin. -/
theorem drop_valueStart (t : Text) :
    t.drop (valueStart t) = skipSeparator (t.drop (keyEnd t 0)) := by
  have hgap := drop_gapEnd t (keyEnd t 0)
  rw [valueStart, skipSeparator, ← hgap]
  generalize gapEnd t (keyEnd t 0) = index
  split
  · next h =>
      rw [List.drop_eq_getElem_cons h]
      simp only
      split
      · exact drop_gapEnd t (index + 1)
      · exact List.drop_eq_getElem_cons h
  · next h => rw [List.drop_of_length_le (Nat.le_of_not_lt h)]

/-- The key and the value of a line are its parts in front of and behind two positions. -/
theorem splitEntry_eq (line : Text) :
    splitEntry line = (line.take (keyEnd line 0), line.drop (valueStart line)) := by
  rw [splitEntry, splitKey_eq, drop_valueStart]

theorem keyEnd_le_valueStart (line : Text) : keyEnd line 0 ≤ valueStart line := by
  refine (le_gapEnd line (keyEnd line 0)).trans ?_
  rw [valueStart]
  generalize gapEnd line (keyEnd line 0) = index
  split
  · split
    · exact (Nat.le_succ index).trans (le_gapEnd line (index + 1))
    · exact Nat.le_refl index
  · exact Nat.le_refl index

theorem valueStart_le {line : Text} (h : keyEnd line 0 ≤ line.length) :
    valueStart line ≤ line.length := by
  have hgap := gapEnd_le h
  rw [valueStart]
  generalize gapEnd line (keyEnd line 0) = index at hgap
  split
  · next hindex =>
      split
      · exact gapEnd_le hindex
      · exact hgap
  · exact hgap

/-! ## Separators -/

/-- What stands in a line between a key and a value: space, and at most one sign, which is not
escaped. -/
inductive Separates (key : Text) : Text → Prop
  /-- Space alone, or nothing. -/
  | space {space : Text} (hspace : Gaps space) : Separates key space
  /-- A sign, which may have space around it. -/
  | signed {before after : Text} {sign : CodePoint} (hbefore : Gaps before)
      (hsign : isSign sign = true) (hfree : trailingBackslashes (key ++ before) % 2 = 0)
      (hafter : Gaps after) : Separates key (before ++ sign :: after)

theorem Separates.closed {key between : Text} (h : Separates key between) :
    continues between = false := by
  cases h with
  | space hspace => exact hspace.closed
  | @signed before after sign hbefore hsign _ hafter =>
      have hplain : continues [sign] = false :=
        continues_singleton (ne_backslash_of_endsKey (by rw [endsKey, hsign, Bool.true_or]))
      rw [continues_append hbefore.closed]
      exact (continues_append hplain after).trans hafter.closed

/-- Space in front of what is neither space nor a sign is all that separates. -/
theorem skipSeparator_gaps {space value : Text} (hspace : Gaps space)
    (hvalue : ∀ c, value.head? = some c → endsKey c = false) :
    skipSeparator (space ++ value) = value := by
  rw [skipSeparator, hspace.dropWhile fun c hc => (endsKey_eq_false.mp (hvalue c hc)).2]
  cases value with
  | nil => rfl
  | cons c value =>
      simp only
      rw [if_neg (Bool.eq_false_iff.mp (endsKey_eq_false.mp (hvalue c rfl)).1)]

/-- A line that does not go on is its key, what separates, and its value.  Neither the key nor the
value ends in an unpaired backslash. -/
theorem exists_separates {line : Text} (h : continues line = false) :
    ∃ between, line = (splitEntry line).1 ++ (between ++ (splitEntry line).2) ∧
      Separates (splitEntry line).1 between ∧ continues (splitEntry line).1 = false ∧
      continues (splitEntry line).2 = false := by
  obtain ⟨key, rest, rfl, hkey, hrest⟩ := exists_key h
  suffices hbetween : ∃ between value, rest = between ++ value ∧ Separates key between ∧
      skipSeparator (between ++ value) = value by
    obtain ⟨between, value, rfl, hseparates, hskips⟩ := hbetween
    rw [continues_append hkey.closed, continues_append hseparates.closed] at h
    rw [splitEntry, hkey.splitKey_append hrest]
    simp only [hskips]
    exact ⟨between, rfl, hseparates, hkey.closed, h⟩
  obtain ⟨space, more, rfl, hspace, hmore⟩ := exists_gaps rest
  by_cases hsigned : ∃ sign tail, more = sign :: tail ∧ isSign sign = true
  · obtain ⟨sign, tail, rfl, hsign⟩ := hsigned
    obtain ⟨after, value, rfl, hafter, hvalue⟩ := exists_gaps tail
    have hfree : continues (key ++ space) = false :=
      (continues_append hkey.closed space).trans hspace.closed
    have hassoc : (space ++ sign :: after) ++ value = space ++ sign :: (after ++ value) := by
      rw [List.append_assoc, List.cons_append]
    refine ⟨space ++ sign :: after, value, hassoc.symm,
      .signed hspace hsign (continues_eq_false_iff.mp hfree) hafter, ?_⟩
    rw [hassoc]
    exact skipSeparator_sign hspace hsign hafter hvalue
  · refine ⟨space, more, rfl, .space hspace, skipSeparator_gaps hspace fun c hc => ?_⟩
    obtain ⟨tail, rfl⟩ := List.head?_eq_some_iff.mp hc
    have hsign : isSign c = false := by
      by_contra hsign
      exact hsigned ⟨c, tail, rfl, Bool.not_eq_false _ ▸ hsign⟩
    exact endsKey_eq_false.mpr ⟨hsign, hmore c rfl⟩

/-! ## Turns of the reader of escapes -/

/-- What the reader of escapes takes in one turn. -/
inductive Turn where
  /-- A code point that is no backslash. -/
  | plain (c : CodePoint)
  /-- A backslash with nothing behind it. -/
  | dangling
  /-- A backslash and a mark. -/
  | marked (c : CodePoint)
  /-- A backslash and a `u`, with up to four code points behind them. -/
  | numbered (written : Text)

/-- What a turn leaves in the text. -/
def Turn.read : Turn → Except Failure CodePoint
  | .plain c => .ok c
  | .dangling => .ok '\\'
  | .marked c => .ok (escaped c)
  | .numbered written =>
      if written.length = 4 then
        match unit? written with
        | some u => .ok u
        | none => .error (.escape ("\\u" ++ written))
      else .error (.escape (Text.quoted ("\\u" ++ written)))

/-- The turns that the reader of escapes takes.  It takes none behind a number in error. -/
def turns : Text → List Turn
  | [] => []
  | [.scalar '\\'] => [.dangling]
  | .scalar '\\' :: .scalar 'u' :: a :: b :: c :: d :: rest =>
      match unit? [a, b, c, d] with
      | some _ => .numbered [a, b, c, d] :: turns rest
      | none => [.numbered [a, b, c, d]]
  | .scalar '\\' :: .scalar 'u' :: rest => [.numbered rest]
  | .scalar '\\' :: c :: rest => .marked c :: turns rest
  | c :: rest => .plain c :: turns rest

theorem turns_plain {c : CodePoint} (hc : c ≠ .scalar '\\') (rest : Text) :
    turns (c :: rest) = .plain c :: turns rest := by
  rw [turns]
  · exact fun heq _ => hc heq
  · exact fun _ _ _ _ _ heq _ => hc heq
  · exact fun _ heq _ => hc heq
  · exact fun _ _ heq _ => hc heq

theorem turns_mark {c : CodePoint} (hc : c ≠ .scalar 'u') (rest : Text) :
    turns (.scalar '\\' :: c :: rest) = .marked c :: turns rest := by
  rw [turns]
  · exact fun _ _ _ _ _ heq _ => hc heq
  · exact hc

/-- A backslash and a `u` take one turn.  With a number behind them the reader goes on behind it,
and otherwise it stops with the error of that turn. -/
theorem turns_number (after : Text) :
    (∃ written rest u, after = written ++ rest ∧ written.length = 4 ∧ Names written u ∧
        (Turn.numbered written).read = .ok u ∧
        turns (.scalar '\\' :: .scalar 'u' :: after) = .numbered written :: turns rest) ∨
      ∃ written f, (Turn.numbered written).read = .error f ∧
        turns (.scalar '\\' :: .scalar 'u' :: after) = [.numbered written] ∧
        unescape (.scalar '\\' :: .scalar 'u' :: after) = .error f := by
  match after with
  | [] | [_] | [_, _] | [_, _, _] => exact .inr ⟨_, _, rfl, rfl, rfl⟩
  | a :: b :: c :: d :: rest =>
      have hlength : [a, b, c, d].length = 4 := rfl
      cases hunit : unit? [a, b, c, d] with
      | none =>
          refine .inr ⟨[a, b, c, d], .escape ("\\u" ++ ([a, b, c, d] : Text)), ?_, ?_, ?_⟩
          · rw [Turn.read, if_pos hlength, hunit]
          · rw [turns, hunit]
          · rw [unescape, hunit]
      | some u =>
          refine .inl ⟨[a, b, c, d], rest, u, rfl, rfl, unit?_eq_some_iff.mp hunit, ?_, ?_⟩
          · rw [Turn.read, if_pos hlength, hunit]
          · rw [turns, hunit]

theorem mapM_read_cons {turn : Turn} {c : CodePoint} (h : turn.read = .ok c) (rest : List Turn) :
    (turn :: rest).mapM Turn.read = (rest.mapM Turn.read).map (c :: ·) := by
  rw [List.mapM_cons, h]
  rfl

/-- A text is freed of its escapes by the turns that the reader takes. -/
theorem unescape_eq_turns (t : Text) : unescape t = (turns t).mapM Turn.read := by
  induction t using escapes_induction with
  | nil => rfl
  | plain c rest hc ih => rw [unescape_cons hc, turns_plain hc, mapM_read_cons rfl, ih]
  | single => rfl
  | mark c rest hc ih => rw [unescape_mark hc, turns_mark hc, mapM_read_cons rfl, ih]
  | number after ih =>
      obtain ⟨written, rest, u, rfl, hlength, hnames, hread, hturns⟩ |
        ⟨written, f, hread, hturns, herror⟩ := turns_number after
      · rw [unescape_names hlength hnames, hturns, mapM_read_cons hread,
          ih written rest rfl hlength]
      · rw [herror, hturns, List.mapM_cons, hread]
        rfl

/-- A text that does not end in an unpaired backslash has no turn on a backslash alone. -/
theorem dangling_notMem_turns {part : Text} (h : continues part = false) :
    Turn.dangling ∉ turns part := by
  induction part using escapes_induction with
  | nil => exact List.not_mem_nil
  | plain c rest hc ih =>
      rw [turns_plain hc]
      have hrest := (continues_append (continues_singleton hc) rest).symm.trans h
      exact List.not_mem_cons_of_ne_of_not_mem nofun (ih hrest)
  | single => cases h
  | mark c rest hc ih =>
      rw [turns_mark hc]
      have hrest := (continues_append (continues_escape c) rest).symm.trans h
      exact List.not_mem_cons_of_ne_of_not_mem nofun (ih hrest)
  | number after ih =>
      obtain ⟨written, rest, u, rfl, hlength, hnames, -, hturns⟩ | ⟨written, -, -, hturns, -⟩ :=
        turns_number after
      · rw [hturns]
        have hrest := (continues_append (continues_names hnames) rest).symm.trans h
        exact List.not_mem_cons_of_ne_of_not_mem nofun (ih written rest rfl hlength hrest)
      · rw [hturns, List.mem_singleton]
        exact nofun

/-! ## Scans of logical lines -/

/-- Every logical line of a text ends in an even number of backslashes.  The scan of its key and the
scan of what separates end in the line, and the key and the value are the parts of the line in front
of the first end and behind the second.  The line is its key, space with at most one sign that is
not escaped, and its value, and neither the key nor the value ends in an odd number of backslashes.
The reader of escapes reads them turn by turn, and in none of its turns does it stand at a backslash
that is the last code point. -/
theorem logicalLines_scanned (t : Text) :
    (∀ line ∈ logicalLines t,
        trailingBackslashes line % 2 = 0 ∧
        (keyEnd line 0 ≤ valueStart line ∧ valueStart line ≤ line.length) ∧
        splitEntry line = (line.take (keyEnd line 0), line.drop (valueStart line)) ∧
        (∃ between, line = (splitEntry line).1 ++ (between ++ (splitEntry line).2) ∧
          Separates (splitEntry line).1 between) ∧
        trailingBackslashes (splitEntry line).1 % 2 = 0 ∧
        trailingBackslashes (splitEntry line).2 % 2 = 0) ∧
      ∀ part ∈ parts t, unescape part = (turns part).mapM Turn.read ∧
        Turn.dangling ∉ turns part := by
  constructor
  · intro line hline
    have hclosed := continues_of_mem_logicalLines hline
    obtain ⟨between, hparts, hseparates, hkey, hvalue⟩ := exists_separates hclosed
    exact ⟨continues_eq_false_iff.mp hclosed,
      ⟨keyEnd_le_valueStart line, valueStart_le (keyEnd_le hclosed)⟩, splitEntry_eq line,
      ⟨between, hparts, hseparates⟩, continues_eq_false_iff.mp hkey,
      continues_eq_false_iff.mp hvalue⟩
  · intro part hpart
    obtain ⟨line, hline, hpart⟩ := List.mem_flatMap.mp hpart
    obtain ⟨between, -, -, hkey, hvalue⟩ := exists_separates (continues_of_mem_logicalLines hline)
    refine ⟨unescape_eq_turns part, dangling_notMem_turns ?_⟩
    rcases List.mem_pair.mp hpart with rfl | rfl
    · exact hkey
    · exact hvalue

/-- A logical line that was joined from two, with an escaped sign in its key. -/
theorem logicalLines_scanned_of_joined_line :
    let t : Text := "a\\\n  \\= : v\\\\\n"
    let line : Text := "a\\= : v\\\\"
    let key : Text := "a\\="
    let value : Text := "v\\\\"
    line ∈ logicalLines t ∧ trailingBackslashes line % 2 = 0 ∧
      (∃ between, line = key ++ (between ++ value) ∧ Separates key between) ∧
      unescape value = (turns value).mapM Turn.read ∧ Turn.dangling ∉ turns value := by
  intro t line key value
  have hline : line ∈ logicalLines t := by decide
  have hsplit : splitEntry line = (key, value) := by decide
  obtain ⟨hlines, hparts⟩ := logicalLines_scanned t
  obtain ⟨heven, -, -, hseparates, -⟩ := hlines line hline
  rw [hsplit] at hseparates
  exact ⟨hline, heven, hseparates, hparts value (by decide)⟩

end Properties

end ConfigReader
