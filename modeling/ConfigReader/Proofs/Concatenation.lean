import ConfigReader.Proofs.Continuation
import ConfigReader.Proofs.NumberEscapes

/-!
# Properties texts one behind another

Two properties texts with a line feed between them are read like each of them on its own, and the
entries of the second one are put over those of the first (`Properties.parse_append`).  The first
text must not end inside a logical line that goes on, as the second one would then be joined to it.

A line end behind a text may bring an empty line of its own, or it may be one line end with a
carriage return at the end of the text (`Text.splitLines_append_lineEnd`).  Neither matters, since
an empty line is passed over where a logical line would start.
-/

namespace ConfigReader

/-! ## Lines of two texts -/

/-- A line end stays one when more text follows, unless it is a carriage return at the end and the
text begins with a line feed. -/
theorem LineEnd.append_or {lineEnd rest : Text} (h : LineEnd lineEnd rest) (text : Text) :
    LineEnd lineEnd (rest ++ text) ∨
      lineEnd = [.scalar '\r'] ∧ rest = [] ∧ text.head? = some (.scalar '\n') := by
  cases h with
  | pair => exact .inl (.pair _)
  | @single c _ hbreak halone =>
      by_cases hjoined : c = '\r' ∧ (rest ++ text).head? = some (.scalar '\n')
      · obtain ⟨rfl, hfeed⟩ := hjoined
        have hrest : rest = [] := by
          cases rest with
          | nil => rfl
          | cons d more => exact absurd hfeed (halone rfl)
        subst hrest
        exact .inr ⟨rfl, rfl, hfeed⟩
      · exact .inl (.single hbreak fun hreturn hfeed => hjoined ⟨hreturn, hfeed⟩)

theorem LineEnd.eq_lineFeed {lineEnd rest : Text} (h : LineEnd lineEnd rest)
    (hfeed : (lineEnd ++ rest).head? = some (.scalar '\n')) : lineEnd = [.scalar '\n'] := by
  cases h with
  | pair => cases hfeed
  | single hbreak halone =>
      cases hfeed
      rfl

/-- A text has the lines of its two parts, if a line end stands between them.  An empty line may
stand between these, which ends where the line end does. -/
theorem Text.splitLines_append_lineEnd (a : Text) {lineEnd b : Text} (h : LineEnd lineEnd b) :
    ∃ blank, (blank = [] ∨ blank = [[]]) ∧
      splitLines (a ++ (lineEnd ++ b)) = a.splitLines ++ (blank ++ b.splitLines) := by
  obtain ⟨line, after, ha, hline, rfl | ⟨lineEnd', rest, rfl, hend⟩⟩ := exists_first_line a
  · rw [ha, List.append_nil, splitLines_of_lineEnd hline h]
    by_cases hempty : line = []
    · subst hempty
      exact ⟨[[]], .inr rfl, rfl⟩
    · rw [Properties.splitLines_of_noBreak hline hempty]
      exact ⟨[], .inl rfl, rfl⟩
  · have hshorter : rest.length < a.length := by
      have hnonempty : 0 < lineEnd'.length := by cases hend <;> simp
      rw [ha, List.length_append, List.length_append]
      omega
    rw [ha, splitLines_of_lineEnd hline hend, List.append_assoc, List.append_assoc]
    obtain hend' | ⟨rfl, rfl, hfeed⟩ := hend.append_or (lineEnd ++ b)
    · obtain ⟨blank, hblank, hrest⟩ := splitLines_append_lineEnd rest h
      refine ⟨blank, hblank, ?_⟩
      rw [splitLines_of_lineEnd hline hend', hrest, List.cons_append]
    · obtain rfl := h.eq_lineFeed hfeed
      exact ⟨[], .inl rfl, splitLines_of_lineEnd hline (.pair b)⟩
termination_by a.length

namespace Properties

/-! ## Logical lines of two texts -/

/-- No logical line is open behind a text. -/
def Finished (t : Text) : Prop := openPart none t.splitLines = none

/-- Where a logical line would start, an empty line is passed over. -/
theorem joinLines_blank {blank : List Text} (h : blank = [] ∨ blank = [[]]) (rest : List Text) :
    joinLines none (blank ++ rest) = joinLines none rest := by
  obtain rfl | rfl := h <;> rfl

namespace Finished

variable {a b : Text}

theorem logicalLines_eq (h : Finished a) : logicalLines a = closedLines none a.splitLines := by
  have hall := joinLines_append none a.splitLines []
  rw [List.append_nil, h] at hall
  rw [logicalLines, hall]
  exact List.append_nil _

/-- The logical lines of two texts follow each other. -/
theorem logicalLines_append (h : Finished a) {lineEnd : Text} (hend : LineEnd lineEnd b) :
    logicalLines (a ++ (lineEnd ++ b)) = logicalLines a ++ logicalLines b := by
  obtain ⟨blank, hblank, hlines⟩ := Text.splitLines_append_lineEnd a hend
  rw [h.logicalLines_eq, logicalLines, logicalLines, hlines, joinLines_append, h,
    joinLines_blank hblank]

theorem logicalLines_append_lineFeed (h : Finished a) (b : Text) :
    logicalLines (a ++ .scalar '\n' :: b) = logicalLines a ++ logicalLines b := by
  have hfeed : LineEnd [.scalar '\n'] b := .single rfl nofun
  exact h.logicalLines_append hfeed

end Finished

/-- Blank lines and comments have no logical lines. -/
theorem logicalLines_of_skipped {block : Text}
    (h : ∀ line ∈ block.splitLines, isSkipped (line.dropWhile isGap) = true) :
    logicalLines block = [] ∧ Finished block := by
  rw [logicalLines, Finished]
  revert h
  induction block.splitLines with
  | nil => exact fun _ => ⟨rfl, rfl⟩
  | cons line rest ih =>
      intro h
      obtain ⟨hline, hrest⟩ := List.forall_mem_cons.mp h
      have htaken : takeLine none line = ([], none) := by rw [takeLine, if_pos hline]
      obtain ⟨hjoined, hopen⟩ := ih hrest
      rw [joinLines_cons, htaken, openPart, List.foldl_cons, htaken]
      exact ⟨hjoined, hopen⟩

/-! ## Entries of two texts -/

section Entries

variable {t a b : Text} {table : Entries} {f : Failure}

/-- The later of two lists of pairs is put over the earlier one. -/
theorem get?_ofPairs_append (xs ys : List (Text × Text)) (key : Text) :
    (Entries.ofPairs (xs ++ ys)).get? key =
      ((Entries.ofPairs ys).get? key).or ((Entries.ofPairs xs).get? key) := by
  rw [Entries.get?_ofPairs, Entries.get?_ofPairs, Entries.get?_ofPairs, List.reverse_append,
    List.lookup_append]

theorem parse_eq_ok : parse t = .ok table ↔
    ∃ pairs, (logicalLines t).mapM entry = .ok pairs ∧ Entries.ofPairs pairs = table := by
  rw [parse]
  cases (logicalLines t).mapM entry <;> simp [Except.map]

theorem parse_eq_error : parse t = .error f ↔ (logicalLines t).mapM entry = .error f := by
  rw [parse]
  cases (logicalLines t).mapM entry <;> simp [Except.map]

theorem parse_ok_or_error (t : Text) :
    (∃ table, parse t = .ok table) ∨ ∃ f, parse t = .error f ∧ f.className = "ValueError" := by
  obtain ⟨pairs, -, hparse⟩ | ⟨part, -, f, hf, hparse⟩ := parse_cases t
  · exact .inl ⟨_, hparse⟩
  · obtain ⟨written, rfl⟩ := unescape_error hf
    exact .inr ⟨_, hparse, rfl⟩

/-- The entries of two texts are read one after the other. -/
theorem Finished.mapM_entry (h : Finished a) (b : Text) :
    (logicalLines (a ++ .scalar '\n' :: b)).mapM entry =
      ((logicalLines a).mapM entry).bind fun xs =>
        ((logicalLines b).mapM entry).bind fun ys => .ok (xs ++ ys) := by
  rw [h.logicalLines_append_lineFeed, List.mapM_append]
  rfl

/-- Two texts that are read are read together, the second one over the first. -/
theorem Finished.parse_ok {lower upper : Entries} (h : Finished a) (ha : parse a = .ok lower)
    (hb : parse b = .ok upper) :
    ∃ table, parse (a ++ .scalar '\n' :: b) = .ok table ∧ table.Ascending ∧
      ∀ key, table.get? key = (upper.get? key).or (lower.get? key) := by
  obtain ⟨xs, hxs, rfl⟩ := parse_eq_ok.mp ha
  obtain ⟨ys, hys, rfl⟩ := parse_eq_ok.mp hb
  have hall : (logicalLines (a ++ .scalar '\n' :: b)).mapM entry = .ok (xs ++ ys) := by
    rw [h.mapM_entry, hxs, hys]
    rfl
  exact ⟨_, parse_eq_ok.mpr ⟨_, hall, rfl⟩, Entries.ascending_ofPairs _, get?_ofPairs_append xs ys⟩

/-- Two texts are in error together if one of them is. -/
theorem Finished.parse_error (h : Finished a)
    (hone : (∃ f, parse a = .error f) ∨ ∃ f, parse b = .error f) :
    ∃ f, parse (a ++ .scalar '\n' :: b) = .error f := by
  simp only [parse_eq_error, h.mapM_entry] at hone ⊢
  cases ha : (logicalLines a).mapM entry with
  | error f => exact ⟨f, rfl⟩
  | ok xs =>
      cases hb : (logicalLines b).mapM entry with
      | error f => exact ⟨f, rfl⟩
      | ok ys =>
          rw [ha, hb] at hone
          obtain ⟨f, hf⟩ | ⟨f, hf⟩ := hone
          · cases hf
          · cases hf

end Entries

/-- A properties text behind another one, which does not end inside a logical line that goes on,
is read on its own.  If both texts are read, an entry of the second one is put over one of the
first, and if one of them is not, neither are the two together.  Blank lines and comments between
them change nothing, and a block of other lines adds its entries and changes no others. -/
theorem parse_append (a : Text) (ha : Finished a) :
    (∀ b : Text,
      (∀ lower upper, parse a = .ok lower → parse b = .ok upper →
        ∃ table, parse (a ++ .scalar '\n' :: b) = .ok table ∧ table.Ascending ∧
          ∀ key, table.get? key = (upper.get? key).or (lower.get? key)) ∧
      ((∃ f, parse (a ++ .scalar '\n' :: b) = .error f ∧ f.className = "ValueError") ↔
        (∃ f, parse a = .error f) ∨ ∃ f, parse b = .error f)) ∧
    (∀ block b : Text,
      (∀ line ∈ block.splitLines, isSkipped (line.dropWhile isGap) = true) →
        parse (a ++ .scalar '\n' :: (block ++ .scalar '\n' :: b)) =
          parse (a ++ .scalar '\n' :: b)) ∧
    ∀ (block b : Text) (lower middle upper : Entries), Finished block →
      parse a = .ok lower → parse block = .ok middle → parse b = .ok upper →
        ∃ table, parse (a ++ .scalar '\n' :: (block ++ .scalar '\n' :: b)) = .ok table ∧
          table.Ascending ∧
          ∀ key, table.get? key = (upper.get? key).or ((middle.get? key).or (lower.get? key)) := by
  refine ⟨fun b => ⟨fun lower upper => ha.parse_ok, ?_, fun hone => ?_⟩, fun block b hskipped => ?_,
    fun block b lower middle upper hblock hlower hmiddle hupper => ?_⟩
  · rintro ⟨f, hf, -⟩
    obtain ⟨lower, hlower⟩ | ⟨f, herror, -⟩ := parse_ok_or_error a
    · obtain ⟨upper, hupper⟩ | ⟨f, herror, -⟩ := parse_ok_or_error b
      · obtain ⟨table, htable, -⟩ := ha.parse_ok hlower hupper
        cases htable.symm.trans hf
      · exact .inr ⟨f, herror⟩
    · exact .inl ⟨f, herror⟩
  · obtain ⟨f, hf⟩ := ha.parse_error hone
    obtain ⟨table, htable⟩ | h := parse_ok_or_error (a ++ .scalar '\n' :: b)
    · cases htable.symm.trans hf
    · exact h
  · obtain ⟨hlines, hblock⟩ := logicalLines_of_skipped hskipped
    have hlogical : logicalLines (a ++ .scalar '\n' :: (block ++ .scalar '\n' :: b)) =
        logicalLines (a ++ .scalar '\n' :: b) := by
      rw [ha.logicalLines_append_lineFeed, hblock.logicalLines_append_lineFeed, hlines,
        List.nil_append, ha.logicalLines_append_lineFeed]
    rw [parse, hlogical, parse]
  · obtain ⟨rest, hrest, -, hget⟩ := hblock.parse_ok hmiddle hupper
    obtain ⟨table, htable, hascending, hall⟩ := ha.parse_ok hlower hrest
    refine ⟨table, htable, hascending, fun key => ?_⟩
    rw [hall, hget, Option.or_assoc]

/-- A text that ends in a logical line of two lines, a comment with a backslash at its end and a
carriage return. -/
theorem parse_append_behind_comment :
    let a : Text := "k=1\\\\\\\n 2\nj: \\u0041\n! c\\\r"
    let b : Text := "k 3"
    Finished a ∧
      (∃ table, parse (a ++ .scalar '\n' :: b) = .ok table ∧ table.get? "k" = some ("3" : Text) ∧
        table.get? "j" = some ("A" : Text)) ∧
      (∃ f, parse (a ++ .scalar '\n' :: "i=\\u00") = .error f ∧ f.className = "ValueError") := by
  intro a b
  have ha : Finished a := by
    unfold Finished
    decide
  have hlower : parse a = .ok [("j", "A"), ("k", "1\\2")] := rfl
  have hupper : parse b = .ok [("k", "3")] := rfl
  obtain ⟨hparse, -, -⟩ := parse_append a ha
  obtain ⟨table, htable, -, hget⟩ := (hparse b).1 _ _ hlower hupper
  refine ⟨ha, ⟨table, htable, (hget "k").trans rfl, (hget "j").trans rfl⟩, ?_⟩
  exact (hparse "i=\\u00").2.mpr (.inr ⟨_, rfl⟩)

end Properties

end ConfigReader
