import ConfigReader.Format.Fault
import ConfigReader.Moment

/-!
# TOML documents

A reader of TOML 1.0.  A document is a list of statements: table headers, headers
of arrays of tables, and pairs of keys and values.  They build a tree of tables.

Each table remembers how it came about, for that decides who may add to it.  A
header opens a table once.  A dotted key adds to the tables on its way, but only
inside the section that made them so.  Inline tables and arrays are values and
take no additions.
-/

namespace ConfigReader.Toml

/-! ## The tree of tables -/

/-- How a table came about. -/
inductive Opening where
  /-- As a part of the path of another table. -/
  | passing
  /-- By a dotted key in a section. -/
  | dotted (made : Nat)
  /-- By its own header. -/
  | header
deriving DecidableEq

/-- A dotted key of a section may not add to the table. -/
def Opening.closed (current : Nat) : Opening → Bool
  | passing => false
  | dotted made => made != current
  | header => true

/-- What stands at a key. -/
inductive Node where
  /-- A value. -/
  | leaf (v : Value)
  /-- A table. -/
  | table (opening : Opening) (members : List (Text × Node))
  /-- An array of tables, in reverse order. -/
  | tables (rows : List (List (Text × Node)))

/-- The members of a table. -/
abbrev Members := List (Text × Node)

/-- Changes what stands at a key, or puts something there. -/
def alter (key : Text) (change : Option Node → Option Node) : Members → Option Members
  | [] => (change none).map fun n => [(key, n)]
  | (k, n) :: rest =>
      if k = key then (change (some n)).map fun n => (k, n) :: rest
      else (alter key change rest).map ((k, n) :: ·)

/-- Opens the table at a path. -/
def openTable : List Text → Members → Option Members
  | [], _ => none
  | [key], members => members |> alter key fun
      | none => some (.table .header [])
      | some (.table .passing inner) => some (.table .header inner)
      | some _ => none
  | key :: rest, members => members |> alter key fun
      | none => (openTable rest []).map (.table .passing ·)
      | some (.table opening inner) => (openTable rest inner).map (.table opening ·)
      | some (.tables (row :: rows)) => (openTable rest row).map fun row => .tables (row :: rows)
      | some _ => none

/-- Adds a table to the array of tables at a path. -/
def appendTable : List Text → Members → Option Members
  | [], _ => none
  | [key], members => members |> alter key fun
      | none => some (.tables [[]])
      | some (.tables rows) => some (.tables ([] :: rows))
      | some _ => none
  | key :: rest, members => members |> alter key fun
      | none => (appendTable rest []).map (.table .passing ·)
      | some (.table opening inner) => (appendTable rest inner).map (.table opening ·)
      | some (.tables (row :: rows)) =>
          (appendTable rest row).map fun row => .tables (row :: rows)
      | some _ => none

/-- Sets a value at a dotted key. -/
def assign (current : Nat) (v : Value) : List Text → Members → Option Members
  | [], _ => none
  | [key], members => members |> alter key fun
      | none => some (.leaf v)
      | some _ => none
  | key :: rest, members => members |> alter key fun
      | none => (assign current v rest []).map (.table (.dotted current) ·)
      | some (.table opening inner) =>
          if opening.closed current then none
          else (assign current v rest inner).map (.table (.dotted current) ·)
      | some _ => none

/-- Sets a value at a dotted key below the table of a header. -/
def assignBelow (current : Nat) (v : Value) (key : List Text) :
    List Text → Members → Option Members
  | [], members => assign current v key members
  | name :: rest, members => members |> alter name fun
      | some (.table opening inner) =>
          (assignBelow current v key rest inner).map (.table opening ·)
      | some (.tables (row :: rows)) =>
          (assignBelow current v key rest row).map fun row => .tables (row :: rows)
      | _ => none

mutual

/-- What stands at a key, as a value. -/
def Node.toValue : Node → Value
  | .leaf v => v
  | .table _ members => .map (membersValue members)
  | .tables rows => .list (rowsValue rows).reverse

/-- The entries of a table. -/
def membersValue : List (Text × Node) → List (Value × Value)
  | [] => []
  | (key, n) :: rest => (.text key, n.toValue) :: membersValue rest

/-- The tables of an array. -/
def rowsValue : List (List (Text × Node)) → List Value
  | [] => []
  | row :: rest => .map (membersValue row) :: rowsValue rest

end

/-! ## Space and comments -/

/-- A space or a tab. -/
def isSpace (c : CodePoint) : Bool := c = .scalar ' ' || c = .scalar '\t'

/-- The text without spaces and tabs in front. -/
def skipSpace (t : Text) : Text := t.dropWhile isSpace

/-- A control character other than the tab. -/
def isControl (c : CodePoint) : Bool := (c.toNat < 32 || c.toNat = 127) && c ≠ .scalar '\t'

/-- The text without a comment in front. -/
def skipComment (t : Text) : Parsed Text :=
  match t with
  | .scalar '#' :: rest =>
      if (rest.takeWhile (· ≠ .scalar '\n')).any isControl then malformed
      else .ok (rest.dropWhile (· ≠ .scalar '\n'))
  | _ => .ok t

/-- The text without space, line ends and comments in front. -/
def skipBlank (fuel : Nat) (t : Text) : Parsed Text :=
  match fuel with
  | 0 => malformed
  | fuel + 1 =>
      match t.dropWhile fun c => isSpace c || c = .scalar '\n' with
      | .scalar '#' :: rest => (skipComment (.scalar '#' :: rest)).bind (skipBlank fuel)
      | rest => .ok rest

/-! ## Strings and keys -/

/-- The character of hexadecimal digits. -/
def hexCharacter (count : Nat) (t : Text) : Parsed (CodePoint × Text) :=
  let digits := t.take count
  if digits.length = count && digits.all fun c => c.hexValue?.isSome then
    match CodePoint.ofNat? (digitsIn 16 digits) with
    | some (.scalar c) => .ok (.scalar c, t.drop count)
    | _ => malformed
  else malformed

/-- A basic string behind its opening quotes. -/
def basicBody (multiline : Bool) (fuel : Nat) (t : Text) : Parsed (Text × Text) :=
  match fuel with
  | 0 => malformed
  | fuel + 1 =>
      let more (found : Text) (rest : Text) : Parsed (Text × Text) :=
        (basicBody multiline fuel rest).map fun (body, rest) => (found ++ body, rest)
      match t with
      | [] => malformed
      | .scalar '"' :: rest =>
          if !multiline then .ok ([], rest)
          else match rest with
            | .scalar '"' :: .scalar '"' :: rest => .ok ([], rest)
            | rest => more "\"" rest
      | .scalar '\\' :: rest => match rest with
          | .scalar 'b' :: rest => more "\x08" rest
          | .scalar 't' :: rest => more "\t" rest
          | .scalar 'n' :: rest => more "\n" rest
          | .scalar 'f' :: rest => more "\x0c" rest
          | .scalar 'r' :: rest => more "\r" rest
          | .scalar '"' :: rest => more "\"" rest
          | .scalar '\\' :: rest => more "\\" rest
          | .scalar 'u' :: rest => (hexCharacter 4 rest).bind fun (c, rest) => more [c] rest
          | .scalar 'U' :: rest => (hexCharacter 8 rest).bind fun (c, rest) => more [c] rest
          | rest =>
              if !multiline then malformed
              else match rest.dropWhile isSpace, rest with
                | .scalar '\n' :: after, _ =>
                    more [] (after.dropWhile fun c => isSpace c || c = .scalar '\n')
                | [], _ :: _ => more [] []
                | _, _ => malformed
      | c :: rest =>
          if isControl c && !(multiline && c = .scalar '\n') then malformed
          else more [c] rest

/-- A literal string behind its opening quote. -/
def literal (t : Text) : Parsed (Text × Text) :=
  match t.cut? singleQuote with
  | some (body, rest) => if body.any isControl then malformed else .ok (body, rest)
  | none => malformed

/-- A literal string of several lines behind its opening quotes. -/
def literalLines : Text → Parsed (Text × Text)
  | [] => malformed
  | a :: rest => match rest with
      | b :: c :: after =>
          if a = singleQuote && b = singleQuote && c = singleQuote then .ok ([], after)
          else if isControl a && a ≠ .scalar '\n' then malformed
          else (literalLines rest).map fun (body, rest) => (a :: body, rest)
      | _ => malformed

/-- Up to two more quotes belong to a string of several lines. -/
def moreQuotes (quote : CodePoint) (body rest : Text) : Text × Text :=
  match rest with
  | a :: b :: after =>
      if a = quote && b = quote then (body ++ [quote, quote], after)
      else if a = quote then (body ++ [quote], b :: after)
      else (body, rest)
  | [a] => if a = quote then (body ++ [quote], []) else (body, rest)
  | [] => (body, rest)

/-- The text without a line end in front. -/
def skipNewline : Text → Text
  | .scalar '\n' :: rest => rest
  | rest => rest

/-- A code point of a bare key. -/
def isBare (c : CodePoint) : Bool :=
  match c with
  | .scalar c => c.isAlphanum || c = '-' || c = '_'
  | .surrogate _ => false

/-- One part of a key. -/
def keyPart (t : Text) : Parsed (Text × Text) :=
  match t with
  | .scalar '"' :: rest => basicBody false (rest.length + 1) rest
  | c :: rest =>
      if c = singleQuote then literal rest
      else match t.takeWhile isBare with
        | [] => malformed
        | part => .ok (part, t.dropWhile isBare)
  | [] => malformed

/-- The parts of a key and the space behind it. -/
def key (fuel : Nat) (t : Text) : Parsed (List Text × Text) :=
  match fuel with
  | 0 => malformed
  | fuel + 1 => do
      let (part, rest) ← keyPart t
      match skipSpace rest with
      | .scalar '.' :: rest =>
          let (parts, rest) ← key fuel (skipSpace rest)
          return (part :: parts, rest)
      | rest => return ([part], rest)

/-! ## Numbers, dates and times -/

/-- Exactly so many digits in front. -/
def digits? (count : Nat) (t : Text) : Option (Nat × Text) :=
  let found := t.take count
  if found.length = count && found.all CodePoint.isDigit then some (Text.toNat found, t.drop count)
  else none

/-- Digits of a base with single underscores between them, without the
underscores. -/
def groups (base : Nat) (t : Text) : Text × Text :=
  let isIn (c : CodePoint) : Bool := match c.hexValue? with
    | some d => d < base
    | none => false
  let rec walk : Text → Text × Text
    | .scalar '_' :: c :: rest =>
        if isIn c then
          let (found, after) := walk rest
          (c :: found, after)
        else ([], .scalar '_' :: c :: rest)
    | c :: rest =>
        if isIn c then
          let (found, after) := walk rest
          (c :: found, after)
        else ([], c :: rest)
    | [] => ([], [])
  match t with
  | c :: rest =>
      if isIn c then
        let (found, after) := walk rest
        (c :: found, after)
      else ([], t)
  | [] => ([], [])

/-- The fraction of a second, cut after six digits. -/
def secondFraction (t : Text) : Nat × Text :=
  match t with
  | .scalar '.' :: rest => match Text.spanDigits rest with
      | ([], _) => (0, t)
      | (found, rest) =>
          let six := found.take 6
          (Text.toNat six * Nat.pow 10 (6 - six.length), rest)
  | _ => (0, t)

/-- A time of day. -/
def time? (t : Text) : Option (TimeOfDay × Text) := do
  let (hour, rest) ← digits? 2 t
  let rest ← Text.after? ":" rest
  let (minute, rest) ← digits? 2 rest
  let rest ← Text.after? ":" rest
  let (second, rest) ← digits? 2 rest
  let (micro, after) := secondFraction rest
  let found : TimeOfDay := ⟨hour, minute, second, micro⟩
  if found.isValid then some (found, after) else none

/-- An offset in minutes. -/
def offset? (t : Text) : Option (Int × Text) :=
  let signed (sign : Int) (rest : Text) : Option (Int × Text) := do
    let (hour, rest) ← digits? 2 rest
    let rest ← Text.after? ":" rest
    let (minute, rest) ← digits? 2 rest
    if hour < 24 && minute < 60 then some (sign * (hour * 60 + minute : Nat), rest) else none
  match t with
  | .scalar 'Z' :: rest => some (0, rest)
  | .scalar 'z' :: rest => some (0, rest)
  | .scalar '+' :: rest => signed 1 rest
  | .scalar '-' :: rest => signed (-1) rest
  | _ => none

/-- A date in front, if month and day are in their ranges. -/
def date? (t : Text) : Option (Date × Text) := do
  let (year, rest) ← digits? 4 t
  let rest ← Text.after? "-" rest
  let (month, rest) ← digits? 2 rest
  let rest ← Text.after? "-" rest
  let (day, rest) ← digits? 2 rest
  if 1 ≤ month && month ≤ 12 && 1 ≤ day && day ≤ 31 then some (⟨year, month, day⟩, rest)
  else none

/-- A date or a date with a time. -/
def moment (d : Date) (t : Text) : Parsed (Value × Text) :=
  if !d.isValid then malformed
  else
    let time := match t with
      | .scalar 'T' :: rest => time? rest
      | .scalar 't' :: rest => time? rest
      | .scalar ' ' :: rest => time? rest
      | _ => none
    match time with
    | none => .ok (.ofDate d, t)
    | some (time, rest) => match offset? rest with
        | none => .ok (.ofDateTime d time none, rest)
        | some (minutes, rest) => .ok (.ofDateTime d time (some minutes), rest)

/-- The exponent of a number. -/
def exponent? (t : Text) : Option (Int × Text) :=
  let signed (negative : Bool) (rest : Text) : Option (Int × Text) :=
    match groups 10 rest with
    | ([], _) => none
    | (found, rest) => some (if negative then -(found.toNat : Int) else found.toNat, rest)
  let body (rest : Text) : Option (Int × Text) :=
    match rest with
    | .scalar '+' :: rest => signed false rest
    | .scalar '-' :: rest => signed true rest
    | rest => signed false rest
  match t with
  | .scalar 'e' :: rest => body rest
  | .scalar 'E' :: rest => body rest
  | _ => none

/-- A decimal number behind its sign. -/
def decimal (negative : Bool) (t : Text) : Parsed (Value × Text) :=
  let (whole, rest) := match t with
    | .scalar '0' :: rest => (([.scalar '0'] : Text), rest)
    | _ => groups 10 t
  if whole.isEmpty then malformed
  else
    let (fraction, rest) : Option Text × Text := match rest with
      | .scalar '.' :: after => match groups 10 after with
          | ([], _) => (none, rest)
          | (found, after) => (some found, after)
      | _ => (none, rest)
    let (power, rest) := match exponent? rest with
      | some (power, rest) => (some power, rest)
      | none => (none, rest)
    match fraction, power with
    | none, none => (integerOfDigits negative whole).map fun v => (v, rest)
    | _, _ => .ok (floatOfParts negative whole (fraction.getD []) (power.getD 0), rest)

/-- The words for special numbers. -/
def specials : List (Text × Value) :=
  [("inf", .float (.infinite false)), ("+inf", .float (.infinite false)),
   ("-inf", .float (.infinite true)), ("nan", .float .nan), ("+nan", .float .nan),
   ("-nan", .float .nan)]

/-- A number. -/
def number (t : Text) : Parsed (Value × Text) :=
  let inBase (base : Nat) (after : Text) : Parsed (Value × Text) :=
    match groups base after with
    | ([], _) => decimal false t
    | (found, rest) => .ok (.int (digitsIn base found), rest)
  match specials.findSome? fun (word, v) => (Text.after? word t).map fun rest => (v, rest) with
  | some found => .ok found
  | none => match t with
      | .scalar '0' :: .scalar 'x' :: rest => inBase 16 rest
      | .scalar '0' :: .scalar 'o' :: rest => inBase 8 rest
      | .scalar '0' :: .scalar 'b' :: rest => inBase 2 rest
      | .scalar '+' :: rest => decimal false rest
      | .scalar '-' :: rest => decimal true rest
      | rest => decimal false rest

/-- A date, a time or a number. -/
def scalar (t : Text) : Parsed (Value × Text) :=
  match date? t with
  | some (d, rest) => moment d rest
  | none => match time? t with
      | some (time, rest) => .ok (.ofTime time, rest)
      | none => number t

/-! ## Values -/

/-- The words for truth values. -/
def truths : List (Text × Value) := [("true", .bool true), ("false", .bool false)]

/-- The room for collections within each other. -/
def fullRoom : Nat := 983

/-- The room that an array takes up. -/
def arrayRoom : Nat := 2

/-- The room that an inline table takes up. -/
def tableRoom : Nat := 3

mutual

/-- A value.  The room for collections within each other is taken up by arrays and inline
tables in part, and `fuel` bounds the steps. -/
def value (room fuel : Nat) (t : Text) : Parsed (Value × Text) :=
  match fuel with
  | 0 => malformed
  | fuel + 1 => match t with
      | .scalar '"' :: .scalar '"' :: .scalar '"' :: rest =>
          (basicBody true (rest.length + 1) (skipNewline rest)).map fun (body, rest) =>
            let (body, rest) := moreQuotes doubleQuote body rest
            (.text body, rest)
      | .scalar '"' :: rest =>
          (basicBody false (rest.length + 1) rest).map fun (body, rest) => (.text body, rest)
      | .scalar '[' :: rest =>
          if room < arrayRoom then tooDeep []
          else do
            match ← skipBlank (rest.length + 1) rest with
            | .scalar ']' :: rest => return (.list [], rest)
            | rest =>
                let (vs, rest) ← items (room - arrayRoom) fuel rest
                return (.list vs, rest)
      | .scalar '\x7b' :: rest =>
          if room < tableRoom then tooDeep []
          else match skipSpace rest with
            | .scalar '\x7d' :: rest => .ok (.map [], rest)
            | rest => (pairs (room - tableRoom) fuel [] rest).map fun (ms, rest) =>
                (.map (membersValue ms), rest)
      | _ => match Text.after? [singleQuote, singleQuote, singleQuote] t,
            Text.after? [singleQuote] t with
          | some rest, _ => (literalLines (skipNewline rest)).map fun (body, rest) =>
              let (body, rest) := moreQuotes singleQuote body rest
              (.text body, rest)
          | none, some rest => (literal rest).map fun (body, rest) => (.text body, rest)
          | none, none =>
              match truths.findSome? fun (word, v) =>
                  (Text.after? word t).map fun rest => (v, rest) with
              | some found => .ok found
              | none => scalar t

/-- The items of an array up to its end. -/
def items (room fuel : Nat) (t : Text) : Parsed (List Value × Text) :=
  match fuel with
  | 0 => malformed
  | fuel + 1 => do
      let (v, rest) ← value room fuel t
      match ← skipBlank (rest.length + 1) rest with
      | .scalar ']' :: rest => return ([v], rest)
      | .scalar ',' :: rest =>
          match ← skipBlank (rest.length + 1) rest with
          | .scalar ']' :: rest => return ([v], rest)
          | rest =>
              let (vs, rest) ← items room fuel rest
              return (v :: vs, rest)
      | _ => malformed

/-- A key, an equals sign and a value. -/
def pair (room fuel : Nat) (t : Text) : Parsed (List Text × Value × Text) :=
  match fuel with
  | 0 => malformed
  | fuel + 1 => do
      let (path, rest) ← key (t.length + 1) t
      match rest with
      | .scalar '=' :: rest =>
          let (v, rest) ← value room fuel (skipSpace rest)
          return (path, v, rest)
      | _ => malformed

/-- The pairs of an inline table up to its end. -/
def pairs (room fuel : Nat) (members : Members) (t : Text) : Parsed (Members × Text) :=
  match fuel with
  | 0 => malformed
  | fuel + 1 => do
      let (path, v, rest) ← pair room fuel t
      match assign 0 v path members with
      | none => malformed
      | some members => match skipSpace rest with
          | .scalar '\x7d' :: rest => return (members, rest)
          | .scalar ',' :: rest => pairs room fuel members (skipSpace rest)
          | _ => malformed

end

/-! ## Documents -/

/-- A document that is read in part. -/
structure State where
  /-- The tables so far. -/
  members : Members
  /-- The path of the last header. -/
  header : List Text
  /-- The number of headers. -/
  current : Nat

/-- A header behind its opening bracket or brackets. -/
def headerRule (state : State) (closing : Text)
    (change : List Text → Members → Option Members) (t : Text) : Parsed (State × Text) := do
  let (path, rest) ← key (t.length + 1) (skipSpace t)
  match change path state.members, Text.after? closing rest with
  | some members, some rest => return (⟨members, path, state.current + 1⟩, rest)
  | _, _ => malformed

/-- One statement, without the line end behind it. -/
def statement (state : State) (t : Text) : Parsed (State × Text) :=
  match t with
  | .scalar '[' :: .scalar '[' :: rest => headerRule state "]]" appendTable rest
  | .scalar '[' :: rest => headerRule state "]" openTable rest
  | .scalar '#' :: _ => .ok (state, t)
  | _ => do
      let (path, v, rest) ← pair fullRoom (t.length + 4) t
      match assignBelow state.current v path state.header state.members with
      | some members => return ({ state with members }, rest)
      | none => malformed

/-- The statements up to the end. -/
def statements (fuel : Nat) (state : State) (t : Text) : Parsed State :=
  match fuel with
  | 0 => malformed
  | fuel + 1 => match skipSpace t with
      | [] => .ok state
      | .scalar '\n' :: rest => statements fuel state rest
      | t => do
          let (state, rest) ← statement state t
          match ← skipComment (skipSpace rest) with
          | [] => return state
          | .scalar '\n' :: rest => statements fuel state rest
          | _ => malformed

/-- Carriage returns in front of line feeds are dropped. -/
def joinLineEnds : Text → Text
  | .scalar '\r' :: .scalar '\n' :: rest => .scalar '\n' :: joinLineEnds rest
  | c :: rest => c :: joinLineEnds rest
  | [] => []

/-- The document of a TOML text. -/
def parse (t : Text) : Parsed Value :=
  (statements (t.length + 1) ⟨[], [], 0⟩ (joinLineEnds t)).map fun state =>
    .map (membersValue state.members)

end ConfigReader.Toml
