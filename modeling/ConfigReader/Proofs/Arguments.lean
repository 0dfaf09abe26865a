import ConfigReader.Proofs.Tables
import ConfigReader.Source.Arguments

/-!
# Arguments in blocks

The reader of arguments goes over them once and takes one or two of them at a time.  What it accepts
can be said without it: a *block* is a name that is set to true, or a name and its value, and
arguments are accepted when they are blocks one behind another.  A block is told by its first
argument, so there is one division into blocks at most (`Arguments.blocks_injective`).

All other arguments are blocks up to a point where no block begins.  `Arguments.Stuck` lists what
can stand there, and `Arguments.parse_error_iff` says that the reader stops at this point and names
the argument that it found.  `Arguments.accepts_blocks` puts the two together.
-/

namespace ConfigReader

namespace Arguments

/-! ## Blocks -/

/-- A block of arguments. -/
inductive Block where
  /-- A name that is set to true. -/
  | flag (name : Text) (named : name ≠ [])
  /-- A name and its value.  With one more dash in front of the name it would be a flag. -/
  | setting (name value : Text) (named : name ≠ []) (plain : name.head? ≠ some (.scalar '-'))

namespace Block

/-- The arguments of a block. -/
def arguments : Block → List Text
  | flag name _ => [.scalar '-' :: .scalar '-' :: name]
  | setting name value _ _ => [.scalar '-' :: name, value]

/-- The name that a block sets. -/
def name : Block → Text
  | flag name _ => name
  | setting name _ _ _ => name

/-- The value that a block gives to its name. -/
def value : Block → Text
  | flag _ _ => "true"
  | setting _ value _ _ => value

/-- What a block sets. -/
def pair (b : Block) : Text × Text := (b.name, b.value)

end Block

/-- What stands in the place of a block, and how it is refused. -/
inductive Stuck : List Text → SourceFault → Prop
  /-- An argument without a dash in front. -/
  | noDash {argument : Text} {rest : List Text} (h : argument.head? ≠ some (.scalar '-')) :
      Stuck (argument :: rest) (.invalidParameter argument)
  /-- An argument without a name behind its dashes. -/
  | noName {argument : Text} {rest : List Text} (h : argument = "-" ∨ argument = "--") :
      Stuck (argument :: rest) (.emptyName argument)
  /-- A name whose value is missing. -/
  | noValue {name : Text} (named : name ≠ []) (plain : name.head? ≠ some (.scalar '-')) :
      Stuck [.scalar '-' :: name] (.missingValue (.scalar '-' :: name))

/-! ## One step of the reader -/

theorem head?_ne_dash {t : Text} :
    t.head? ≠ some (.scalar '-') ↔ ∀ more, t = .scalar '-' :: more → False := by
  rw [Ne, List.head?_eq_some_iff, not_exists]

/-- An argument with one dash in front needs a name behind it, and a value. -/
theorem argumentPairs_dash {name : Text} (plain : name.head? ≠ some (.scalar '-'))
    (rest : List Text) :
    argumentPairs ((.scalar '-' :: name) :: rest) =
      if name.isEmpty then .error (.emptyName (.scalar '-' :: name))
      else match rest with
        | [] => .error (.missingValue (.scalar '-' :: name))
        | value :: rest => (argumentPairs rest).map ((name, value) :: ·) := by
  have hplain := head?_ne_dash.mp plain
  cases rest with
  | nil => rw [argumentPairs.eq_3 name hplain]
  | cons value rest => rw [argumentPairs.eq_4 name value rest hplain]

/-- A block gives its pair, and the reader goes on behind it. -/
theorem argumentPairs_block (b : Block) (rest : List Text) :
    argumentPairs (b.arguments ++ rest) = (argumentPairs rest).map (b.pair :: ·) := by
  cases b with
  | flag name named =>
      have hname : name.isEmpty = false := List.isEmpty_eq_false_iff.mpr named
      simp [Block.arguments, argumentPairs, hname, Block.pair, Block.name, Block.value]
  | setting name value named plain =>
      have hname : name.isEmpty = false := List.isEmpty_eq_false_iff.mpr named
      simp [Block.arguments, argumentPairs_dash plain, hname, Block.pair, Block.name, Block.value]

/-- Where no block begins, the reader stops. -/
theorem argumentPairs_stuck {rest : List Text} {fault : SourceFault} (h : Stuck rest fault) :
    argumentPairs rest = .error fault := by
  cases h with
  | @noDash argument rest h =>
      have hdash := head?_ne_dash.mp h
      exact argumentPairs.eq_5 argument rest (fun name => hdash (.scalar '-' :: name)) hdash
  | noName h =>
      obtain rfl | rfl := h
      · exact argumentPairs_dash (by simp) _
      · exact argumentPairs.eq_2 _ []
  | noValue named plain => rw [argumentPairs_dash plain, if_neg (by simpa using named)]

/-! ## Division into blocks -/

/-- Arguments are blocks up to their end, or up to a point where no block begins. -/
theorem exists_blocks (arguments : List Text) :
    ∃ (blocks : List Block) (rest : List Text),
      arguments = blocks.flatMap Block.arguments ++ rest ∧
        (rest = [] ∨ ∃ fault, Stuck rest fault) := by
  induction arguments using argumentPairs.induct with
  | case1 => exact ⟨[], [], rfl, .inl rfl⟩
  | case2 rest name hname =>
      obtain rfl := List.isEmpty_iff.mp hname
      exact ⟨[], _, rfl, .inr ⟨_, .noName (.inr rfl)⟩⟩
  | case3 rest name hname ih =>
      obtain ⟨blocks, more, rfl, hmore⟩ := ih
      exact ⟨.flag name (by simpa using hname) :: blocks, more, rfl, hmore⟩
  | case4 rest name hplain hname =>
      obtain rfl := List.isEmpty_iff.mp hname
      exact ⟨[], _, rfl, .inr ⟨_, .noName (.inl rfl)⟩⟩
  | case5 name hplain hname =>
      have named : name ≠ [] := by simpa using hname
      exact ⟨[], _, rfl, .inr ⟨_, .noValue named (head?_ne_dash.mpr hplain)⟩⟩
  | case6 name hplain hname value rest ih =>
      have named : name ≠ [] := by simpa using hname
      obtain ⟨blocks, more, rfl, hmore⟩ := ih
      exact ⟨.setting name value named (head?_ne_dash.mpr hplain) :: blocks, more, rfl, hmore⟩
  | case7 argument rest hflag hdash =>
      exact ⟨[], _, rfl, .inr ⟨_, .noDash (head?_ne_dash.mpr hdash)⟩⟩

/-- The first block of arguments is told by how these begin. -/
theorem block_injective {b b' : Block} {rest rest' : List Text}
    (h : b.arguments ++ rest = b'.arguments ++ rest') : b = b' ∧ rest = rest' := by
  cases b with
  | flag name named => cases b' with
    | flag name' named' =>
        cases h
        exact ⟨rfl, rfl⟩
    | setting name' value' named' plain' =>
        cases h
        exact absurd rfl plain'
  | setting name value named plain => cases b' with
    | flag name' named' =>
        cases h
        exact absurd rfl plain
    | setting name' value' named' plain' =>
        cases h
        exact ⟨rfl, rfl⟩

/-- Arguments have one division into blocks at most. -/
theorem blocks_injective {blocks blocks' : List Block}
    (h : blocks.flatMap Block.arguments = blocks'.flatMap Block.arguments) : blocks = blocks' := by
  induction blocks generalizing blocks' with
  | nil => cases blocks' with
    | nil => rfl
    | cons b' more' => cases b' <;> cases h
  | cons b more ih => cases blocks' with
    | nil => cases b <;> cases h
    | cons b' more' =>
        obtain ⟨rfl, hmore⟩ := block_injective h
        rw [ih hmore]

/-! ## The whole reader -/

/-- Blocks give their pairs, and the reader goes on behind them. -/
theorem argumentPairs_append (blocks : List Block) (rest : List Text) :
    argumentPairs (blocks.flatMap Block.arguments ++ rest) =
      (argumentPairs rest).map (blocks.map Block.pair ++ ·) := by
  induction blocks with
  | nil => cases h : argumentPairs rest <;> simp [h, Except.map]
  | cons b more ih =>
      rw [List.flatMap_cons, List.append_assoc, argumentPairs_block, ih]
      cases argumentPairs rest <;> rfl

theorem parseArguments_blocks (blocks : List Block) :
    parseArguments (blocks.flatMap Block.arguments) =
      .ok (Entries.ofPairs (blocks.map Block.pair)) := by
  have h := argumentPairs_append blocks []
  rw [List.append_nil] at h
  rw [parseArguments, h]
  simp [argumentPairs, Except.map]

/-- Arguments that are no blocks are refused for the first one at which no block begins. -/
theorem parse_error_iff {arguments : List Text} {fault : SourceFault} :
    parseArguments arguments = .error fault ↔
      ∃ (blocks : List Block) (rest : List Text),
        arguments = blocks.flatMap Block.arguments ++ rest ∧ Stuck rest fault := by
  have hstuck : ∀ {blocks : List Block} {rest : List Text} {fault : SourceFault},
      Stuck rest fault →
        parseArguments (blocks.flatMap Block.arguments ++ rest) = .error fault := by
    intro blocks rest fault h
    rw [parseArguments, argumentPairs_append, argumentPairs_stuck h]
    rfl
  constructor
  · intro h
    obtain ⟨blocks, rest, rfl, rfl | ⟨other, hother⟩⟩ := exists_blocks arguments
    · rw [List.append_nil, parseArguments_blocks] at h
      cases h
    · rw [hstuck hother] at h
      cases h
      exact ⟨blocks, rest, rfl, hother⟩
  · rintro ⟨blocks, rest, rfl, h⟩
    exact hstuck h

/-- The text of a name is the value of the last block that sets it. -/
theorem get?_blocks (blocks : List Block) (name : Text) :
    (Entries.ofPairs (blocks.map Block.pair)).get? name =
      (blocks.reverse.find? (·.name = name)).map Block.value := by
  rw [Entries.get?_ofPairs, ← List.map_reverse]
  induction blocks.reverse with
  | nil => rfl
  | cons b more ih =>
      have hfirst := Entries.get?_cons name b.name b.value (more.map Block.pair)
      rw [Entries.get?, Entries.get?, ih] at hfirst
      rw [List.map_cons, List.find?_cons]
      refine hfirst.trans ?_
      by_cases h : b.name = name
      · simp [h]
      · simp [h, Ne.symm h]

/-- A list of arguments is accepted exactly when it is blocks one behind another.  The division into
blocks is then the only one, and the table maps each name to the value of its last block and has
no other name.  A list that is refused is blocks up to a point where no block begins, and is
refused for what stands there. -/
theorem accepts_blocks (arguments : List Text) :
    ((∃ entries, parseArguments arguments = .ok entries) ↔
      ∃ blocks : List Block, arguments = blocks.flatMap Block.arguments) ∧
    (∀ blocks : List Block, arguments = blocks.flatMap Block.arguments →
      (∀ blocks' : List Block, arguments = blocks'.flatMap Block.arguments → blocks' = blocks) ∧
      ∃ entries, parseArguments arguments = .ok entries ∧
        (∀ name, entries.get? name = (blocks.reverse.find? (·.name = name)).map Block.value) ∧
        ∀ name, name ∈ entries.map Prod.fst ↔ ∃ b ∈ blocks, b.name = name) ∧
    ∀ fault, parseArguments arguments = .error fault ↔
      ∃ (blocks : List Block) (rest : List Text),
        arguments = blocks.flatMap Block.arguments ++ rest ∧ Stuck rest fault := by
  refine ⟨⟨?_, ?_⟩, ?_, fun fault => parse_error_iff⟩
  · rintro ⟨entries, h⟩
    obtain ⟨blocks, rest, rfl, rfl | ⟨fault, hstuck⟩⟩ := exists_blocks arguments
    · exact ⟨blocks, List.append_nil _⟩
    · rw [parse_error_iff.mpr ⟨blocks, rest, rfl, hstuck⟩] at h
      cases h
  · rintro ⟨blocks, rfl⟩
    exact ⟨_, parseArguments_blocks blocks⟩
  · rintro blocks rfl
    refine ⟨fun blocks' h => (blocks_injective h).symm, _, parseArguments_blocks blocks,
      get?_blocks blocks, fun name => ?_⟩
    rw [Entries.mem_paths_ofPairs, List.map_map, List.mem_map]
    rfl

example : parseArguments ["-a", "--b", "--a", "-c", "-", "---"] =
    .ok [("-", "true"), ("a", "true"), ("c", "-")] := rfl

example : parseArguments ["-a", "--b", "b"] = .error (.invalidParameter "b") := rfl

end Arguments

end ConfigReader
