import ConfigReader.Proofs.Writing

/-!
# Lines that go on

A line that ends in an unpaired backslash goes on in the next one, whose leading space is
passed over.  So a logical line may be broken wherever a backslash at the end is not taken for
the other half of a pair, and what follows does not begin with space.
`Properties.parse_break` says that such a break is not seen, wherever it stands: inside a key,
a separator or an escape, in a line that goes on already, at the start or the end of a line.

Lines are read one by one.  `takeLine` is what one of them does to the part of a logical line
that is still open.  That part never ends in an unpaired backslash (`paired_takeLine`), so
whether a line goes on depends on its own end, however many lines it was joined from.
-/

namespace ConfigReader

/-! ## Lines of a text -/

/-- What ends a line in front of a text: a line break, and with a carriage return the line feed
behind it. -/
inductive LineEnd : Text → Text → Prop
  /-- A carriage return and a line feed. -/
  | pair (rest : Text) : LineEnd [.scalar '\r', .scalar '\n'] rest
  /-- A line break on its own. -/
  | single {c : CodePoint} {rest : Text} (hbreak : c.isLineBreak = true)
      (halone : c = '\r' → rest.head? ≠ some (.scalar '\n')) : LineEnd [c] rest

/-- A line of a text, between what stands before and after it.  Whole lines with their ends stand
before it, and its own end or nothing after it.  What follows the last end counts as a line,
though it may be empty. -/
inductive LineIn : Text → Text → Text → Prop
  /-- The first line. -/
  | first {line after : Text} (hline : ∀ c ∈ line, c.isLineBreak = false)
      (hafter : after = [] ∨ ∃ lineEnd rest, after = lineEnd ++ rest ∧ LineEnd lineEnd rest) :
      LineIn [] line after
  /-- A line behind another one. -/
  | later {earlier lineEnd before line after : Text}
      (hearlier : ∀ c ∈ earlier, c.isLineBreak = false)
      (hend : LineEnd lineEnd (before ++ (line ++ after))) (h : LineIn before line after) :
      LineIn (earlier ++ (lineEnd ++ before)) line after

theorem LineEnd.congr {lineEnd rest rest' : Text} (h : LineEnd lineEnd rest)
    (hrest : rest'.head? = some (.scalar '\n') → rest.head? = some (.scalar '\n')) :
    LineEnd lineEnd rest' := by
  cases h with
  | pair => exact .pair rest'
  | single hbreak halone => exact .single hbreak fun hreturn hfeed => halone hreturn (hrest hfeed)

/-- A line end in front of a text is one in front of its beginnings. -/
theorem LineEnd.of_append {lineEnd s t : Text} (h : LineEnd lineEnd (s ++ t)) :
    LineEnd lineEnd s :=
  h.congr fun hs => by
    rw [List.head?_append, hs]
    rfl

theorem LineIn.noBreak {before line after : Text} (h : LineIn before line after) :
    ∀ c ∈ line, c.isLineBreak = false := by
  induction h with
  | first hline _ => exact hline
  | later _ _ _ ih => exact ih

namespace Text

/-- A line with its end is cut off. -/
theorem splitLines_of_lineEnd {line lineEnd rest : Text}
    (hline : ∀ c ∈ line, c.isLineBreak = false) (hend : LineEnd lineEnd rest) :
    splitLines (line ++ (lineEnd ++ rest)) = line :: splitLines rest := by
  induction line with
  | nil =>
      cases hend with
      | pair => rfl
      | @single c _ hbreak halone =>
          rw [List.nil_append, List.singleton_append, splitLines.eq_def]
          split
          · next h => cases h
          · next h =>
              cases h
              exact absurd rfl (halone rfl)
          · next h =>
              cases h
              rw [if_pos hbreak]
  | cons c line ih =>
      obtain ⟨hc, hline⟩ := List.forall_mem_cons.mp hline
      have hrest := ih hline
      cases hmore : line ++ (lineEnd ++ rest) with
      | nil =>
          rw [hmore] at hrest
          cases hrest
      | cons d more =>
          rw [hmore] at hrest
          rw [List.cons_append, hmore]
          exact Properties.splitLines_cons hc hrest

end Text

namespace LineIn

variable {before line after : Text}

/-- What stands behind a line is nothing, or begins with its end. -/
theorem ends (h : LineIn before line after) :
    after = [] ∨ ∃ lineEnd rest, after = lineEnd ++ rest ∧ LineEnd lineEnd rest := by
  induction h with
  | first _ hafter => exact hafter
  | later _ _ _ ih => exact ih

/-- The lines before a line are those of the text before it, whatever stands in its place, unless
a line feed there would belong to the end of the line before. -/
theorem splitLines (h : LineIn before line after) {text : Text}
    (htext : text.head? = some (.scalar '\n') → (line ++ after).head? = some (.scalar '\n')) :
    (before ++ text).splitLines = before.splitLines ++ text.splitLines := by
  induction h with
  | first _ _ => rfl
  | @later earlier lineEnd before line after hearlier hend _ ih =>
      have hbefore : LineEnd lineEnd before := hend.of_append
      have htext' : LineEnd lineEnd (before ++ text) := hend.congr fun h => by
        rw [List.head?_append] at h ⊢
        cases before with
        | nil => exact htext h
        | cons c before => exact h
      have hassoc : earlier ++ (lineEnd ++ before) ++ text =
          earlier ++ (lineEnd ++ (before ++ text)) := by
        rw [List.append_assoc, List.append_assoc]
      rw [hassoc, Text.splitLines_of_lineEnd hearlier htext', ih htext,
        Text.splitLines_of_lineEnd hearlier hbefore, List.cons_append]

end LineIn

namespace Text

/-- A text begins with a line, which is followed by its end or by nothing. -/
theorem exists_first_line (t : Text) : ∃ line after, t = line ++ after ∧
    (∀ c ∈ line, c.isLineBreak = false) ∧
    (after = [] ∨ ∃ lineEnd rest, after = lineEnd ++ rest ∧ LineEnd lineEnd rest) := by
  induction t with
  | nil => exact ⟨[], [], rfl, nofun, .inl rfl⟩
  | cons c t ih =>
      by_cases hc : c.isLineBreak = true
      · refine ⟨[], c :: t, rfl, nofun, .inr ?_⟩
        by_cases hpair : c = '\r' ∧ t.head? = some (.scalar '\n')
        · obtain ⟨rfl, hfeed⟩ := hpair
          obtain ⟨rest, rfl⟩ := List.head?_eq_some_iff.mp hfeed
          exact ⟨_, rest, rfl, .pair rest⟩
        · exact ⟨[c], t, rfl, .single hc fun hreturn hfeed => hpair ⟨hreturn, hfeed⟩⟩
      · obtain ⟨line, after, rfl, hline, hafter⟩ := ih
        refine ⟨c :: line, after, rfl, ?_, hafter⟩
        exact List.forall_mem_cons.mpr ⟨Bool.not_eq_true _ ▸ hc, hline⟩

/-- Each of the lines of a text is a line in it, and the lines before it are those of the text
before it. -/
theorem exists_lineIn {t line : Text} {earlier later : List Text}
    (h : t.splitLines = earlier ++ line :: later) : ∃ before after, t = before ++ (line ++ after) ∧
      LineIn before line after ∧ before.splitLines = earlier := by
  obtain ⟨first, after, ht, hfirst, rfl | ⟨lineEnd, rest, rfl, hend⟩⟩ := exists_first_line t
  · rw [List.append_nil] at ht
    subst ht
    by_cases hempty : t = []
    · rw [hempty] at h
      cases earlier <;> cases h
    · rw [Properties.splitLines_of_noBreak hfirst hempty, List.singleton_eq_append_iff] at h
      obtain ⟨rfl, h⟩ | ⟨-, h⟩ := h
      · obtain ⟨rfl, -⟩ := List.cons.inj h
        exact ⟨[], [], (List.append_nil _).symm, .first hfirst (.inl rfl), rfl⟩
      · cases h
  · rw [ht, splitLines_of_lineEnd hfirst hend] at h
    cases earlier with
    | nil =>
        obtain ⟨rfl, -⟩ := List.cons.inj h
        exact ⟨[], _, ht, .first hfirst (.inr ⟨lineEnd, rest, rfl, hend⟩), rfl⟩
    | cons next earlier =>
        obtain ⟨rfl, hrest⟩ := List.cons.inj h
        have hshorter : rest.length < t.length := by
          have hnonempty : 0 < lineEnd.length := by cases hend <;> simp
          rw [ht, List.length_append, List.length_append]
          omega
        obtain ⟨before, after, rfl, hline, hbefore⟩ := exists_lineIn hrest
        refine ⟨first ++ (lineEnd ++ before), after, ?_, .later hfirst hend hline, ?_⟩
        · simp [ht]
        · rw [splitLines_of_lineEnd hfirst hend.of_append, hbefore]
termination_by t.length

end Text

namespace Properties

/-! ## Lines taken one by one -/

/-- A line that is taken as a whole, or stays open without its last backslash. -/
def closeLine (line : Text) : List Text × Option Text :=
  if continues line then ([], some line.dropLast) else ([line], none)

/-- What a line does to the part of a logical line that is open: the logical line that ends
with it, and the part that is open behind it. -/
def takeLine : Option Text → Text → List Text × Option Text
  | none, raw =>
      if isSkipped (raw.dropWhile isGap) then ([], none) else closeLine (raw.dropWhile isGap)
  | some pending, raw => closeLine (pending ++ (raw.dropWhile isGap : Text))

/-- The part of a logical line that is open behind lines. -/
def openPart (pending : Option Text) (lines : List Text) : Option Text :=
  lines.foldl (fun pending raw => (takeLine pending raw).2) pending

/-- The logical lines that end within lines. -/
def closedLines : Option Text → List Text → List Text
  | _, [] => []
  | pending, raw :: rest =>
      (takeLine pending raw).1 ++ closedLines (takeLine pending raw).2 rest

theorem joinLines_cons (pending : Option Text) (raw : Text) (rest : List Text) :
    joinLines pending (raw :: rest) =
      (takeLine pending raw).1 ++ joinLines (takeLine pending raw).2 rest := by
  cases pending with
  | none =>
      simp only [joinLines, takeLine, closeLine]
      split
      · rfl
      · split <;> rfl
  | some pending =>
      simp only [joinLines, takeLine, closeLine]
      split <;> rfl

/-- Lines behind others are joined to the part that is open. -/
theorem joinLines_append (pending : Option Text) (lines rest : List Text) :
    joinLines pending (lines ++ rest) =
      closedLines pending lines ++ joinLines (openPart pending lines) rest := by
  induction lines generalizing pending with
  | nil => rfl
  | cons raw lines ih =>
      rw [List.cons_append, joinLines_cons, ih, closedLines, List.append_assoc]
      rfl

/-! ## The open part -/

/-- No backslash at the end of an open part is unpaired. -/
def Paired (pending : Option Text) : Prop := ∀ t, pending = some t → continues t = false

theorem paired_none : Paired none := fun _ h => nomatch h

theorem continues_dropLast {line : Text} (h : continues line = true) :
    continues line.dropLast = false := by
  obtain rfl | ⟨t, c, rfl⟩ := List.eq_nil_or_concat line
  · cases h
  · rw [List.concat_eq_append, continues_concat, Bool.and_eq_true, Bool.not_eq_true'] at h
    rw [List.concat_eq_append, List.dropLast_concat]
    exact h.2

theorem paired_closeLine (line : Text) : Paired (closeLine line).2 := by
  intro t ht
  unfold closeLine at ht
  split at ht
  · next h =>
      cases ht
      exact continues_dropLast h
  · cases ht

/-- Whatever was open before a line, what is open behind it ends in no unpaired backslash. -/
theorem paired_takeLine (pending : Option Text) (raw : Text) :
    Paired (takeLine pending raw).2 := by
  cases pending with
  | none =>
      rw [takeLine]
      split
      · exact fun t ht => nomatch ht
      · exact paired_closeLine _
  | some pending => exact paired_closeLine _

theorem paired_openPart {pending : Option Text} (h : Paired pending) (lines : List Text) :
    Paired (openPart pending lines) := by
  induction lines generalizing pending with
  | nil => exact h
  | cons raw rest ih => exact ih (paired_takeLine pending raw)

/-! ## A break in a line -/

section Break

variable {left right w : Text}

theorem isSkipped_append {s t : Text} (h : s ≠ []) : isSkipped (s ++ t) = isSkipped s := by
  cases s with
  | nil => exact absurd rfl h
  | cons c rest => rfl

/-- The leading space of a line is that of its first part, if the other part has none. -/
theorem dropWhile_isGap_append (left : Text) (hright : ∀ c, right.head? = some c → isGap c = false) :
    (left ++ right).dropWhile isGap = left.dropWhile isGap ++ right := by
  induction left with
  | nil => cases right with
    | nil => rfl
    | cons c more => simp [hright c rfl]
  | cons c left ih =>
      by_cases hc : isGap c = true
      · simpa [hc] using ih
      · simp [hc]

theorem takeLine_of_kept {pending : Option Text} {raw : Text}
    (h : pending = none → isSkipped (raw.dropWhile isGap) = false) :
    takeLine pending raw = closeLine (pending.getD [] ++ (raw.dropWhile isGap : Text)) := by
  cases pending with
  | none => simp [takeLine, h rfl]
  | some pending => rfl

/-- A line that is broken with a backslash and goes on behind some space is the same line. -/
theorem joinLines_break {pending : Option Text} (rest : List Text)
    (hkept : pending = none → isSkipped ((left ++ right).dropWhile isGap) = false)
    (hpaired : continues (pending.getD [] ++ (left.dropWhile isGap : Text)) = false)
    (hright : ∀ c, right.head? = some c → isGap c = false) (hw : Padding w) :
    joinLines pending ((left ++ [.scalar '\\']) :: (w ++ right) :: rest) =
      joinLines pending ((left ++ right) :: rest) := by
  have hbackslash : ∀ c, ([.scalar '\\'] : Text).head? = some c → isGap c = false := by
    rintro c ⟨⟩
    decide
  have hbroken : takeLine pending (left ++ [.scalar '\\']) =
      ([], some (pending.getD [] ++ (left.dropWhile isGap : Text))) := by
    rw [takeLine_of_kept, dropWhile_isGap_append left hbackslash, ← List.append_assoc, closeLine,
      continues_concat, hpaired, List.dropLast_concat]
    · rfl
    · intro hnone
      rw [dropWhile_isGap_append left hbackslash]
      by_cases hleft : left.dropWhile isGap = []
      · rw [hleft]
        rfl
      · have hkept := hkept hnone
        rw [dropWhile_isGap_append left hright, isSkipped_append hleft] at hkept
        rw [isSkipped_append hleft, hkept]
  have hwhole : takeLine pending (left ++ right) =
      takeLine (some (pending.getD [] ++ (left.dropWhile isGap : Text))) (w ++ right) := by
    rw [takeLine_of_kept hkept, dropWhile_isGap_append left hright, takeLine, hw.gaps.dropWhile hright,
      List.append_assoc]
  rw [joinLines_cons, hbroken, joinLines_cons, joinLines_cons, hwhole]
  rfl

end Break

/-! ## A break in a text -/

/-- An empty line at the end of a text changes nothing. -/
theorem joinLines_nil {pending : Option Text} (h : Paired pending) :
    joinLines pending [[]] = joinLines pending [] := by
  cases pending with
  | none => rfl
  | some t =>
      have ht : continues t = false := h t rfl
      simp [joinLines, ht]

/-- A line in front of what may follow a line is the first of the lines. -/
theorem exists_lines {after : Text}
    (hafter : after = [] ∨ ∃ lineEnd rest, after = lineEnd ++ rest ∧ LineEnd lineEnd rest) :
    ∃ rest, ∀ line : Text, (∀ c ∈ line, c.isLineBreak = false) → ∀ pending, Paired pending →
      joinLines pending (Text.splitLines (line ++ after)) = joinLines pending (line :: rest) := by
  obtain rfl | ⟨lineEnd, rest, rfl, hend⟩ := hafter
  · refine ⟨[], fun line hline pending hpaired => ?_⟩
    rw [List.append_nil]
    by_cases hempty : line = []
    · rw [hempty]
      exact (joinLines_nil hpaired).symm
    · rw [splitLines_of_noBreak hline hempty]
  · exact ⟨rest.splitLines, fun line hline _ _ => by rw [Text.splitLines_of_lineEnd hline hend]⟩

/-- A line of a text may be broken behind any part that does not end, joined to the part of a
logical line that is open before it, in an unpaired backslash. -/
theorem logicalLines_break {before left right after w : Text}
    (hline : LineIn before (left ++ right) after)
    (hkept : openPart none before.splitLines = none →
      isSkipped ((left ++ right).dropWhile isGap) = false)
    (hpaired : continues ((openPart none before.splitLines).getD [] ++
      (left.dropWhile isGap : Text)) = false)
    (hright : ∀ c, right.head? = some c → isGap c = false) (hw : Padding w) :
    logicalLines (before ++ (left ++ .scalar '\\' :: .scalar '\n' :: (w ++ (right ++ after)))) =
      logicalLines (before ++ (left ++ right ++ after)) := by
  have hbreak := List.forall_mem_append.mp hline.noBreak
  have hhead : (left ++ .scalar '\\' :: .scalar '\n' :: (w ++ (right ++ after)) : Text).head? ≠
      some (.scalar '\n') := by
    cases left with
    | nil => exact fun h => absurd (Option.some.inj h) (by decide)
    | cons c left =>
        intro h
        cases h
        exact absurd (hbreak.1 _ List.mem_cons_self) (by decide)
  obtain ⟨rest, hrest⟩ := exists_lines hline.ends
  have hopen : Paired (openPart none before.splitLines) := paired_openPart paired_none _
  have hleft : ∀ c ∈ left ++ [.scalar '\\'], c.isLineBreak = false := by
    rw [List.forall_mem_append]
    exact ⟨hbreak.1, by decide⟩
  have hright' : ∀ c ∈ w ++ right, c.isLineBreak = false := by
    rw [List.forall_mem_append]
    refine ⟨fun c hc => ?_, hbreak.2⟩
    rcases hw c hc with rfl | rfl <;> decide
  have hbroken : Text.splitLines (left ++ .scalar '\\' :: .scalar '\n' :: (w ++ (right ++ after))) =
      (left ++ [.scalar '\\']) :: Text.splitLines (w ++ right ++ after) := by
    rw [← splitLines_append hleft, List.append_assoc, List.append_assoc]
    rfl
  rw [logicalLines, logicalLines, hline.splitLines fun h => absurd h hhead,
    hline.splitLines fun h => h, joinLines_append, joinLines_append, hbroken, joinLines_cons,
    hrest _ hright' _ (paired_takeLine _ _), ← joinLines_cons,
    joinLines_break rest hkept hpaired hright hw, hrest _ hline.noBreak _ hopen]

/-- A break in a line is not seen.  Each line of a text stands in it somewhere.  It may be broken
by a backslash and a line feed, unless it is a comment or blank at the start of a logical line,
and may go on behind any padding.  The part in front of the break, joined to what is open before
the line, ends in an even number of backslashes, and the part behind it does not begin with
space. -/
theorem parse_break (t : Text) :
    (∀ earlier line later, t.splitLines = earlier ++ line :: later →
      ∃ before after, t = before ++ (line ++ after) ∧ LineIn before line after ∧
        before.splitLines = earlier) ∧
    ∀ before left right after w, t = before ++ (left ++ right ++ after) →
      LineIn before (left ++ right) after →
      (openPart none before.splitLines = none →
        isSkipped ((left ++ right).dropWhile isGap) = false) →
      trailingBackslashes ((openPart none before.splitLines).getD [] ++
        (left.dropWhile isGap : Text)) % 2 = 0 →
      (∀ c, right.head? = some c → isGap c = false) → Padding w →
        parse (before ++ (left ++ .scalar '\\' :: .scalar '\n' :: (w ++ (right ++ after)))) =
          parse t := by
  refine ⟨fun earlier line later => Text.exists_lineIn, ?_⟩
  rintro before left right after w rfl hline hkept heven hright hw
  have hpaired : continues ((openPart none before.splitLines).getD [] ++
      (left.dropWhile isGap : Text)) = false := by
    rw [continues, heven]
    rfl
  rw [parse, parse, logicalLines_break hline hkept hpaired hright hw]

/-- A break inside a number, in a line that goes on already. -/
theorem parse_break_in_number :
    let before : Text := "k = a\\\n"
    let t : Text := "k = a\\\n\\u0041\n"
    (LineIn before ("\\u0" ++ "041") "\n" ∧ openPart none before.splitLines = some ("k = a" : Text)) ∧
      parse "k = a\\\n\\u0\\\n \t041\n" = parse t ∧ parse t = .ok [("k", "aA")] := by
  intro before t
  have hline : LineIn before ("\\u0" ++ "041") "\n" := by
    have hfeed : ∀ rest, LineEnd [.scalar '\n'] rest := fun rest => .single rfl nofun
    have hfirst : LineIn [] ("\\u0" ++ "041") "\n" :=
      .first (by decide) (.inr ⟨_, [], rfl, hfeed _⟩)
    exact @LineIn.later "k = a\\" _ [] _ _ (by decide) (hfeed _) hfirst
  have hw : Padding " \t" := by
    unfold Padding
    decide
  refine ⟨⟨hline, rfl⟩, ?_, rfl⟩
  exact (parse_break t).2 before "\\u0" "041" "\n" " \t" rfl hline nofun rfl (by decide) hw

end Properties

end ConfigReader
