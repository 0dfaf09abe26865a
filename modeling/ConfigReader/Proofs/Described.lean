import ConfigReader.Proofs.Commands
import ConfigReader.Proofs.Concatenation
import ConfigReader.Proofs.Schema

/-!
# Descriptions as they are printed

A description is one text with a line for each leaf of a program.  The command that prints it
cuts the text into lines and leaves out empty ones.  A key may have a line break in it, and the
cut does not tell such a break from the end of a leaf's line.  So the lines that are printed are
those of the leaves exactly if no path has a line break: `CommandLine.described_lines`.
-/

namespace ConfigReader

/-! ## Unbroken texts -/

theorem LineEnd.isLineBreak {lineEnd rest : Text} (h : LineEnd lineEnd rest) :
    ∀ c ∈ lineEnd, c.isLineBreak = true := by
  cases h with
  | pair => decide
  | single hbreak _ => exact List.forall_mem_singleton.mpr hbreak

namespace Text

/-- No line ends within the text. -/
def Unbroken (t : Text) : Prop := ∀ c ∈ t, c.isLineBreak = false

instance : DecidablePred Unbroken := fun t =>
  inferInstanceAs (Decidable (∀ c ∈ t, c.isLineBreak = false))

theorem unbroken_append {s t : Text} : (s ++ t : Text).Unbroken ↔ s.Unbroken ∧ t.Unbroken :=
  List.forall_mem_append

/-- In a text that is broken, a line ends. -/
theorem exists_lineEnd_of_broken {t : Text} (h : ¬ t.Unbroken) :
    ∃ line lineEnd rest, t = line ++ (lineEnd ++ rest) ∧ LineEnd lineEnd rest := by
  obtain ⟨line, after, rfl, hline, rfl | ⟨lineEnd, rest, rfl, hend⟩⟩ := exists_first_line t
  · rw [List.append_nil] at h
    exact absurd hline h
  · exact ⟨line, lineEnd, rest, rfl, hend⟩

/-- No line ends within a line of a text. -/
theorem unbroken_of_mem_splitLines {t line : Text} (h : line ∈ t.splitLines) : line.Unbroken := by
  obtain ⟨earlier, later, hsplit⟩ := List.append_of_mem h
  obtain ⟨before, after, -, hline, -⟩ := exists_lineIn hsplit
  exact hline.noBreak

/-- What is no line break stands in one of the lines. -/
theorem exists_line_of_mem {t : Text} {c : CodePoint} (hc : c ∈ t)
    (hbreak : c.isLineBreak = false) : ∃ line ∈ t.splitLines, c ∈ line := by
  obtain ⟨first, after, ht, hfirst, rfl | ⟨lineEnd, rest, rfl, hend⟩⟩ := exists_first_line t
  · rw [List.append_nil] at ht
    subst ht
    rw [Properties.splitLines_of_noBreak hfirst (List.ne_nil_of_mem hc)]
    exact ⟨t, List.mem_singleton_self t, hc⟩
  · have hshorter : rest.length < t.length := by
      have hnonempty : 0 < lineEnd.length := by cases hend <;> simp
      rw [ht, List.length_append, List.length_append]
      omega
    rw [ht, splitLines_of_lineEnd hfirst hend]
    rw [ht, List.mem_append, List.mem_append] at hc
    obtain hc | hc | hc := hc
    · exact ⟨first, List.mem_cons_self, hc⟩
    · cases hbreak.symm.trans (hend.isLineBreak c hc)
    · obtain ⟨line, hline, hmem⟩ := exists_line_of_mem hc hbreak
      exact ⟨line, List.mem_cons_of_mem _ hline, hmem⟩
termination_by t.length

end Text

/-! ## Lines of a description -/

namespace Report

/-- The lines of two texts with a line end between them. -/
theorem descriptionLines_append (a : Text) {lineEnd b : Text} (h : LineEnd lineEnd b) :
    descriptionLines (a ++ (lineEnd ++ b)) = descriptionLines a ++ descriptionLines b := by
  -- an empty line may stand between the two, which is left out
  obtain ⟨blank, hblank, hlines⟩ := Text.splitLines_append_lineEnd a h
  have hfilter : blank.filter (fun line => !line.isEmpty) = [] := by
    obtain rfl | rfl := hblank <;> rfl
  rw [descriptionLines, hlines, List.filter_append, List.filter_append, hfilter, List.nil_append]
  rfl

theorem descriptionLines_of_unbroken {t : Text} (h : t.Unbroken) (hne : t ≠ []) :
    descriptionLines t = [t] := by
  rw [descriptionLines, Properties.splitLines_of_noBreak h hne, List.filter_cons_of_pos (by simpa),
    List.filter_nil]

theorem unbroken_of_mem_descriptionLines {t line : Text} (h : line ∈ descriptionLines t) :
    line.Unbroken :=
  Text.unbroken_of_mem_splitLines (List.mem_of_mem_filter h)

/-- There are lines in a text that is more than line breaks. -/
theorem length_descriptionLines_pos {t : Text} {c : CodePoint} (hc : c ∈ t)
    (hbreak : c.isLineBreak = false) : 0 < (descriptionLines t).length := by
  obtain ⟨line, hline, hmem⟩ := Text.exists_line_of_mem hc hbreak
  have hkept : line ∈ descriptionLines t :=
    List.mem_filter.mpr ⟨hline, by simpa using List.ne_nil_of_mem hmem⟩
  exact List.length_pos_of_mem hkept

/-- Texts one below the other have their own lines. -/
theorem descriptionLines_linesText (texts : List Text) :
    descriptionLines (linesText texts) = texts.flatMap descriptionLines := by
  induction texts with
  | nil => rfl
  | cons t rest ih =>
      have hend : LineEnd "\n" (linesText rest) := .single rfl fun h => nomatch h
      have hassoc : linesText (t :: rest) = t ++ (("\n" : Text) ++ linesText rest) := by
        simp [linesText]
      rw [hassoc, descriptionLines_append t hend, ih, List.flatMap_cons]

end Report

/-- The line of a leaf, without its end. -/
def Leaf.text (leaf : Text × Text) : Text := "- " ++ leaf.1 ++ ": " ++ leaf.2

section Leaf

open Report

variable {path typeName : Text}

/-- The line of a leaf is printed as it is, if no line ends in its path. -/
theorem Leaf.descriptionLines_of_unbroken (hpath : path.Unbroken) (htype : typeName.Unbroken) :
    descriptionLines (Leaf.text (path, typeName)) = [Leaf.text (path, typeName)] := by
  have hlead : Text.Unbroken "- " := by decide
  have hcolon : Text.Unbroken ": " := by decide
  refine Report.descriptionLines_of_unbroken ?_ (List.cons_ne_nil _ _)
  exact Text.unbroken_append.mpr
    ⟨Text.unbroken_append.mpr ⟨Text.unbroken_append.mpr ⟨hlead, hpath⟩, hcolon⟩, htype⟩

/-- A path in which a line ends is printed in several lines. -/
theorem Leaf.one_lt_length_of_broken (hpath : ¬ path.Unbroken) :
    1 < (descriptionLines (Leaf.text (path, typeName))).length := by
  obtain ⟨line, lineEnd, rest, rfl, hend⟩ := Text.exists_lineEnd_of_broken hpath
  have hend' : LineEnd lineEnd (rest ++ (": " ++ typeName : Text)) := by
    refine hend.congr fun h => ?_
    cases rest with
    | nil => cases h
    | cons c rest => exact h
  have htext : Leaf.text (line ++ (lineEnd ++ rest), typeName) =
      ("- " ++ line : Text) ++ (lineEnd ++ (rest ++ (": " ++ typeName : Text))) := by
    simp [Leaf.text]
  have hbefore : 0 < (descriptionLines ("- " ++ line)).length :=
    length_descriptionLines_pos (c := '-') List.mem_cons_self (by decide)
  have hafter : 0 < (descriptionLines (rest ++ (": " ++ typeName : Text))).length :=
    length_descriptionLines_pos (c := ':')
      (List.mem_append_right _ List.mem_cons_self) (by decide)
  rw [htext, descriptionLines_append _ hend', List.length_append]
  omega

theorem Leaf.length_descriptionLines (htype : typeName.Unbroken) :
    0 < (descriptionLines (Leaf.text (path, typeName))).length ∧
      ((descriptionLines (Leaf.text (path, typeName))).length = 1 ↔ path.Unbroken) := by
  by_cases hpath : path.Unbroken
  · rw [descriptionLines_of_unbroken hpath htype]
    exact ⟨Nat.one_pos, iff_of_true rfl hpath⟩
  · have hlength := @one_lt_length_of_broken path typeName hpath
    exact ⟨by omega, iff_of_false (by omega) hpath⟩

end Leaf

/-! ## Lists of leaves -/

section Counting

variable {α β : Type} {f : α → List β} {l : List α}

/-- Lists with an item or more each have as many items as there are lists, if each has one. -/
theorem length_flatMap_of_pos (h : ∀ a ∈ l, 0 < (f a).length) :
    l.length ≤ (l.flatMap f).length ∧
      ((l.flatMap f).length = l.length ↔ ∀ a ∈ l, (f a).length = 1) := by
  induction l with
  | nil => simp
  | cons a rest ih =>
      obtain ⟨ha, hrest⟩ := List.forall_mem_cons.mp h
      obtain ⟨hle, hiff⟩ := ih hrest
      rw [List.flatMap_cons, List.length_append, List.length_cons, List.forall_mem_cons, ← hiff]
      omega

end Counting

/-- Leaves without line breaks are printed as they are. -/
theorem Leaf.flatMap_of_unbroken {leaves : List (Text × Text)}
    (h : ∀ leaf ∈ leaves, leaf.1.Unbroken ∧ leaf.2.Unbroken) :
    (leaves.flatMap fun leaf => Report.descriptionLines (Leaf.text leaf)) =
      leaves.map Leaf.text := by
  induction leaves with
  | nil => rfl
  | cons leaf rest ih =>
      obtain ⟨⟨hpath, htype⟩, hrest⟩ := List.forall_mem_cons.mp h
      rw [List.flatMap_cons, descriptionLines_of_unbroken hpath htype, ih hrest]
      rfl

namespace Program

variable {α : Type}

theorem unbroken_typeName (kind : Kind) :
    kind.typeName.Unbroken ∧ (kind.typeName ++ "[]" : Text).Unbroken := by
  cases kind <;> decide

/-- The name of what is read has no line break in it. -/
theorem unbroken_of_line {p : Program α} {path : KeyPath} {leaf : Text × Text}
    (h : leaf ∈ p.lines path) : leaf.2.Unbroken := by
  induction p generalizing path with
  | pure value => cases h
  | scalar kind key =>
      rw [List.mem_singleton.mp h]
      exact (unbroken_typeName kind).1
  | scalars key kind =>
      rw [List.mem_singleton.mp h]
      exact (unbroken_typeName kind).2
  | records key item ih => exact ih h
  | nested key inner ih => exact ih h
  | map program fn ih => exact ih h
  | ap fnProgram program ihf iha =>
      rw [lines_ap] at h
      obtain h | h := List.mem_append.mp h
      · exact ihf h
      · exact iha h
  | unsupported typeName => cases h

/-- Nothing is printed of a program without leaves only. -/
theorem printed_eq_nil {p : Program α} {path : KeyPath} :
    ((p.lines path).flatMap fun leaf => Report.descriptionLines (Leaf.text leaf)) = [] ↔
      p.lines path = [] := by
  constructor
  · intro h
    refine List.eq_nil_iff_forall_not_mem.mpr fun leaf hleaf => ?_
    have hpos := (@Leaf.length_descriptionLines leaf.1 leaf.2 (unbroken_of_line hleaf)).1
    rw [List.flatMap_eq_nil_iff.mp h leaf hleaf] at hpos
    exact absurd hpos (lt_irrefl 0)
  · intro h
    rw [h]
    rfl

end Program

namespace CommandLine

variable {world : World} {request : Request}

/-- What is printed of a description are the lines of its leaves. -/
theorem report_of_printed {p : Program Value} (hp : p.Supported) (htarget : Targets world request p)
    (hverb : request.verb = .describe) :
    let leaves := p.lines .root
    let printed : List Text := leaves.flatMap fun leaf => Report.descriptionLines (Leaf.text leaf)
    (runRequest world request).code = 0 ∧
      (request.json = true →
        objectLine? [("command", .text "describe"), ("target", .text (request.target.getD []).strip),
          ("lines", textList printed)] = some (runRequest world request).out) ∧
      (request.json = false → (runRequest world request).out =
        if leaves = [] then linesText ["(program reads no keys)"] else linesText printed) := by
  intro leaves printed
  have hdescription : p.describe = .ok (linesText (leaves.map Leaf.text)) := by
    rw [Program.describe_of_supported hp, linesText, List.flatMap_map]
    rfl
  have hprinted : Report.descriptionLines (linesText (leaves.map Leaf.text)) = printed := by
    rw [Report.descriptionLines_linesText, List.flatMap_map]
  obtain ⟨hcode, hout⟩ := report_of_describe htarget hverb hdescription
  rw [Report.ofDescription, hprinted] at hcode hout
  have hnil : printed.isEmpty = true ↔ leaves = [] := List.isEmpty_iff.trans Program.printed_eq_nil
  refine ⟨?_, fun hjson => ?_, fun hjson => ?_⟩
  · rw [hcode]
    split
    · rfl
    · split <;> rfl
  · rw [hout, if_pos hjson, Report.out_single]
    refine objectLine?_eq_some ?_
    simp only [List.forall_mem_cons]
    exact ⟨rfl, rfl, isSome_textList printed, nofun⟩
  · rw [hout, hjson, if_neg Bool.false_ne_true]
    by_cases hempty : leaves = []
    · rw [if_pos (hnil.mpr hempty), if_pos hempty, Report.out_ofLines]
    · rw [if_neg (mt hnil.mp hempty), if_neg hempty, Report.out_ofLines]

/-- The command that prints a description succeeds.  It prints the lines of the leaves, or a notice
if there is no leaf, and the list of lines as JSON in any case.  A leaf has one line with its
whole path in it if its path has no line break.  Otherwise it has several lines, and none has the
path in it.  So the lines are those of the leaves, and as many as leaves, exactly if no
path has a line break. -/
theorem described_lines {p : Program Value} (hp : p.Supported) (htarget : Targets world request p)
    (hverb : request.verb = .describe) :
    let leaves := p.lines .root
    let printed : List Text := leaves.flatMap fun leaf => Report.descriptionLines (Leaf.text leaf)
    ((runRequest world request).code = 0 ∧
      (request.json = true →
        objectLine? [("command", .text "describe"), ("target", .text (request.target.getD []).strip),
          ("lines", textList printed)] = some (runRequest world request).out) ∧
      (request.json = false → (runRequest world request).out =
        if leaves = [] then linesText ["(program reads no keys)"] else linesText printed)) ∧
    (printed = leaves.map (fun (path, typeName) => ("- " ++ path ++ ": " ++ typeName : Text)) ↔
      ∀ leaf ∈ leaves, leaf.1.Unbroken) ∧
    (leaves.length ≤ printed.length ∧
      (printed.length = leaves.length ↔ ∀ leaf ∈ leaves, leaf.1.Unbroken)) ∧
    ∀ leaf ∈ leaves, (∃ line ∈ printed, leaf.1 <:+: line) ↔ leaf.1.Unbroken := by
  intro leaves printed
  have hcount : ∀ leaf ∈ leaves, 0 < (Report.descriptionLines (Leaf.text leaf)).length ∧
      ((Report.descriptionLines (Leaf.text leaf)).length = 1 ↔ leaf.1.Unbroken) := fun leaf hleaf =>
    Leaf.length_descriptionLines (Program.unbroken_of_line hleaf)
  obtain ⟨hle, hlength⟩ := length_flatMap_of_pos fun leaf hleaf => (hcount leaf hleaf).1
  have hunbroken : printed.length = leaves.length ↔ ∀ leaf ∈ leaves, leaf.1.Unbroken :=
    hlength.trans (forall₂_congr fun leaf hleaf => (hcount leaf hleaf).2)
  refine ⟨report_of_printed hp htarget hverb, ?_, ⟨hle, hunbroken⟩, fun leaf hleaf => ?_⟩
  · constructor
    · intro h
      refine hunbroken.mp ?_
      rw [h, List.length_map]
    · intro h
      exact Leaf.flatMap_of_unbroken fun leaf hleaf =>
        ⟨h leaf hleaf, Program.unbroken_of_line hleaf⟩
  · constructor
    · rintro ⟨line, hline, hpath⟩
      obtain ⟨other, -, hline⟩ := List.mem_flatMap.mp hline
      exact fun c hc => Report.unbroken_of_mem_descriptionLines hline c (hpath.mem hc)
    · intro h
      have hlines := Leaf.descriptionLines_of_unbroken h (Program.unbroken_of_line hleaf)
      refine ⟨Leaf.text leaf, List.mem_flatMap.mpr ⟨leaf, hleaf, ?_⟩, ?_⟩
      · rw [hlines]
        exact List.mem_singleton_self _
      · exact ⟨"- ", ": " ++ leaf.2, by simp [Leaf.text]⟩

/-- A text and a list of numbers in a scope have a line each. -/
theorem described_lines_of_scope :
    let db : Key := ⟨"db", by decide⟩
    let host : Key := ⟨"host", by decide⟩
    let ports : Key := ⟨"ports", by decide⟩
    let p : Program Value := .nested db (Program.map2 (.scalar .string host) (.scalars ports .integer)
      fun t ns => Run.pure (.list (.text t :: ns.map .int)))
    let b : Blueprint := .ofParts "ReadNested" [] p
    let world : World := ⟨[("app", [("settings", .program b)])], [], [], ⟨[], [], []⟩, [], .usual⟩
    let request : Request :=
      ⟨.describe, some "app:settings", .null, false, false, false, [], .null, []⟩
    (runRequest world request).out = linesText ["- db.host: String", "- db.ports: Integer[]"] := by
  intro db host ports p b world request
  have htarget : Targets world request p := ⟨⟨_, rfl⟩, ⟨b, rfl, rfl⟩⟩
  have hleaves : p.lines .root =
      ([("db.host", "String"), ("db.ports", "Integer[]")] : List (Text × Text)) := rfl
  obtain ⟨⟨-, -, hout⟩, hlines, -, -⟩ :=
    @described_lines world request p ⟨trivial, trivial⟩ htarget rfl
  rw [hleaves] at hout hlines
  rw [hout rfl, if_neg (List.cons_ne_nil _ _), hlines.mpr (by decide)]
  rfl

/-- A form feed in a key: there are two lines for one leaf, and none has its path. -/
theorem key_in_two_lines :
    let key : Key := ⟨"a\x0cb", by decide⟩
    let p : Program Value := (Program.scalar .string key).map fun t => Run.pure (.text t)
    let b : Blueprint := .ofParts "ReadString" [] p
    let world : World := ⟨[("m", [("P", .program b)])], [], [], ⟨[], [], []⟩, [], .usual⟩
    p.lines .root = ([(key.text, "String")] : List (Text × Text)) ∧
      (run world ["describe", "m:P"]).out = linesText ["- a", "b: String"] := by
  intro key p b world
  exact ⟨rfl, by decide +kernel⟩

end CommandLine

end ConfigReader
