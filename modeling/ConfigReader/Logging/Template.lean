import ConfigReader.Failure
import ConfigReader.Number.Places

/-!
# Message templates

A message may be a *template*: a text with *places* for arguments.  A place begins
with a percent sign and ends with a letter, which says how its argument is shown: as
text, as an integer, as a floating point number or as a code point.  Between them may
stand a name in round brackets, flags, a width, and a precision behind a point.  A
width or a precision that is a star is an argument itself.  Two percent signs stand
for one.

Places are filled from left to right.  Arguments are the items of a tuple, or one
other value.  A place with a name takes its argument out of a mapping.  At the end no
argument may be left, unless the arguments came as a mapping or a list.

A template is first cut into *pieces*.  A place that cannot be read to its end is the
last piece, and its fault comes up when its turn has come, so a fault in an argument
before it wins.
-/

namespace ConfigReader

/-! ## Places -/

/-- A number in a place. -/
inductive Extent where
  /-- No number. -/
  | absent
  /-- A number. -/
  | given (n : Nat)
  /-- A number that is an argument. -/
  | asked
deriving DecidableEq

/-- The name in a place. -/
inductive PlaceName where
  /-- No name. -/
  | absent
  /-- A name. -/
  | named (name : Text)
  /-- A name without a closing bracket. -/
  | unclosed

/-- A place for an argument. -/
structure Place where
  /-- The name of the argument. -/
  name : PlaceName
  /-- What is shown stands on the left. -/
  left : Bool
  /-- A number that is not negative has a plus sign. -/
  plus : Bool
  /-- A number that is not negative has a blank in the place of a sign. -/
  blank : Bool
  /-- A number has its base in front, or its point. -/
  full : Bool
  /-- A number is filled up with zeros. -/
  zeros : Bool
  /-- The least width. -/
  width : Extent
  /-- The precision. -/
  precision : Extent

/-- A piece of a template. -/
inductive Piece where
  /-- A code point that stands for itself. -/
  | literal (c : CodePoint)
  /-- A place, the letter that ends it, and the position of the letter. -/
  | place (p : Place) (letter : CodePoint) (position : Nat)
  /-- A place that cannot be read to its end, and why. -/
  | broken (p : Place) (fault : Text)

/-! ## Pieces of a template -/

/-- A name up to the bracket that closes it, with the brackets in it in pairs, and what
follows. -/
def closedName? : (depth : Nat) → Text → Option (Text × Text)
  | _, [] => none
  | depth, c :: rest =>
      if c = .scalar ')' then
        if depth = 0 then some ([], rest)
        else (closedName? (depth - 1) rest).map fun (name, after) => (c :: name, after)
      else
        let depth := if c = .scalar '(' then depth + 1 else depth
        (closedName? depth rest).map fun (name, after) => (c :: name, after)

/-- A number in a place and what follows, if it is not beyond a limit. -/
def extent? (limit : Nat) : Text → Option (Extent × Text)
  | .scalar '*' :: rest => some (.asked, rest)
  | t => match t.spanDigits with
      | ([], rest) => some (.absent, rest)
      | (digits, rest) => if digits.toNat > limit then none else some (.given digits.toNat, rest)

/-- The precision of a place and what follows, if it is not beyond its limit.  A point
alone is the precision zero. -/
def precision? : Text → Option (Extent × Text)
  | .scalar '.' :: rest => (extent? 0x7FFFFFFF rest).map fun (extent, rest) =>
      (if extent = .absent then .given 0 else extent, rest)
  | rest => some (.absent, rest)

/-- A size that may stand in front of the letter and means nothing. -/
def dropSize : Text → Text
  | .scalar 'h' :: rest => rest
  | .scalar 'l' :: rest => rest
  | .scalar 'L' :: rest => rest
  | rest => rest

/-- The place behind a percent sign and what follows it. -/
def placeAt (total : Nat) (t : Text) : Piece × Text :=
  let bare : Place := ⟨.absent, false, false, false, false, false, .absent, .absent⟩
  let afterName (name : PlaceName) (t : Text) : Piece × Text :=
    let isFlag (c : CodePoint) : Bool := ("-+ #0" : Text).contains c
    let flags := t.takeWhile isFlag
    let p : Place := { bare with
      name
      left := flags.contains (.scalar '-'), plus := flags.contains (.scalar '+')
      blank := flags.contains (.scalar ' '), full := flags.contains (.scalar '#')
      zeros := flags.contains (.scalar '0') }
    match extent? 0x7FFFFFFFFFFFFFFF (t.dropWhile isFlag) with
    | none => (.broken p "width too big", [])
    | some (width, t) => match precision? t with
        | none => (.broken { p with width } "precision too big", [])
        | some (precision, t) =>
            let p := { p with width, precision }
            match dropSize t with
            | [] => (.broken p "incomplete format", [])
            | letter :: rest => (.place p letter (total - rest.length - 1), rest)
  match t with
  | .scalar '(' :: rest => match closedName? 0 rest with
      | none => (.broken { bare with name := .unclosed } "incomplete format key", [])
      | some (name, rest) => afterName (.named name) rest
  | t => afterName .absent t

/-- The pieces of a template of some length, code points that belong to the last place
being skipped. -/
def piecesFrom (total : Nat) : (skip : Nat) → Text → List Piece
  | _, [] => []
  | skip + 1, _ :: rest => piecesFrom total skip rest
  | 0, c :: rest =>
      if c = .scalar '%' then
        if rest.head? = some c then .literal c :: piecesFrom total 1 rest
        else
          let (piece, after) := placeAt total rest
          piece :: piecesFrom total (rest.length - after.length) rest
      else .literal c :: piecesFrom total 0 rest

/-- The pieces of a template. -/
def pieces (t : Text) : List Piece := piecesFrom t.length 0 t

/-! ## Arguments in places -/

/-- A type error. -/
def placeError (message : Text) : Failure := .builtin "TypeError" message

/-- What stands in a place before it is brought to its width: a sign, the mark of a
base, and the rest. -/
structure Shown where
  /-- It is a number, so it may be filled up with zeros. -/
  isNumber : Bool
  /-- The sign. -/
  sign : Text
  /-- The mark of the base. -/
  base : Text
  /-- The rest. -/
  body : Text

/-- The sign of a number in a place. -/
def Place.sign (p : Place) (negative : Bool) : Text :=
  if negative then "-" else if p.plus then "+" else if p.blank then " " else ""

/-- The integer that a place for integers shows. -/
def Value.wholeNumber (letter : CodePoint) : Value → Except Failure Int
  | .bool b => .ok (if b then 1 else 0)
  | .int n => .ok n
  | .float .nan => .error (.builtin "ValueError" "cannot convert float NaN to integer")
  | .float (.infinite _) =>
      .error (.builtin "OverflowError" "cannot convert float infinity to integer")
  | .float (.finite negative m e) =>
      let (n, d) := Binary64.ratio m e
      .ok (if negative then -((n / d : Nat) : Int) else (n / d : Nat))
  | v => .error (placeError
      ("%" ++ letter :: " format: a real number is required, not " ++ v.typeName))

/-- The integer that a place for integers in another base shows. -/
def Value.integer (letter : CodePoint) : Value → Except Failure Int
  | .bool b => .ok (if b then 1 else 0)
  | .int n => .ok n
  | v => .error (placeError
      ("%" ++ letter :: " format: an integer is required, not " ++ v.typeName))

/-- The floating point number that a place shows. -/
def Value.realNumber : Value → Except Failure Binary64
  | .bool b => .ok (.ofInt (if b then 1 else 0))
  | .int n => match Binary64.ofInt n with
      | .infinite _ => .error (.builtin "OverflowError" "int too large to convert to float")
      | x => .ok x
  | .float x => .ok x
  | v => .error (placeError ("must be real number, not " ++ v.typeName))

/-- An integer in a place, its digits filled up to the precision. -/
def Place.showInteger (p : Place) (precision : Option Nat) (base : Nat) (mark : Text)
    (n : Int) : Shown :=
  let digits : Text := (Nat.toDigits base n.natAbs).map .scalar
  let body := Text.replicate (precision.getD 0 - digits.length) "0" ++ digits
  ⟨true, p.sign (n < 0), if p.full then mark else [], body⟩

/-- A floating point number in a place. -/
def Place.showReal (p : Place) (precision : Option Nat) (letter : CodePoint) (x : Binary64) :
    Shown :=
  let places := precision.getD 6
  match x with
  | .nan => ⟨true, p.sign false, [], "nan"⟩
  | .infinite negative => ⟨true, p.sign negative, [], "inf"⟩
  | .finite negative m e =>
      let (n, d) := Binary64.ratio m e
      let body :=
        if letter = .scalar 'f' then fixedText p.full places n d
        else if letter = .scalar 'e' then scientificText p.full places n d
        else generalText p.full places n d
      ⟨true, p.sign negative, [], body⟩

/-- A text in a place, cut to the precision. -/
def showText (precision : Option Nat) (t : Text) : Shown :=
  ⟨false, [], [], match precision with
    | some n => t.take n
    | none => t⟩

/-- The text with every code point beyond ASCII escaped. -/
def Text.asciiEscaped (t : Text) : Text :=
  t.flatMap fun c =>
    let n := c.toNat
    if n < 0x80 then [c]
    else if n < 0x100 then "\\x" ++ Text.hex 2 n
    else if n < 0x10000 then "\\u" ++ Text.hex 4 n
    else "\\U" ++ Text.hex 8 n

/-- The code point that a place shows. -/
def Value.codePoint : Value → Except Failure CodePoint
  | .text [c] => .ok c
  | .bool b => .ok (.scalar (if b then Char.ofNat 1 else Char.ofNat 0))
  | .int n =>
      let refuse : Except Failure CodePoint :=
        .error (.builtin "OverflowError" "%c arg not in range(0x110000)")
      if n < 0 then refuse
      else match CodePoint.ofNat? n.toNat with
        | some c => .ok c
        | none => refuse
  | _ => .error (placeError "%c requires int or char")

/-- A text that exists unless an integer in it is too long. -/
def written : Option Text → Except Failure Text
  | some t => .ok t
  | none => .error (.integerTooLong none)

/-- An argument in a place. -/
def Place.show? (p : Place) (precision : Option Nat) (letter : CodePoint) (position : Nat)
    (v : Value) : Except Failure Shown :=
  let small := letter.lowerAscii
  let raised (s : Shown) : Shown :=
    if small = letter then s
    else ⟨s.isNumber, s.sign, Text.upperAscii s.base, Text.upperAscii s.body⟩
  if letter = .scalar 's' then (written v.plain?).map (showText precision)
  else if letter = .scalar 'r' then (written v.quoted?).map (showText precision)
  else if letter = .scalar 'a' then
    (written v.quoted?).map fun t => showText precision t.asciiEscaped
  else if letter = .scalar 'd' || letter = .scalar 'i' || letter = .scalar 'u' then do
    let n ← v.wholeNumber letter
    if hasDecimalText n then return p.showInteger precision 10 [] n
    else throw (.integerTooLong none)
  else if small = .scalar 'x' then
    (v.integer letter).map fun n => raised (p.showInteger precision 16 "0x" n)
  else if letter = .scalar 'o' then
    (v.integer letter).map (p.showInteger precision 8 "0o")
  else if small = .scalar 'e' || small = .scalar 'f' || small = .scalar 'g' then
    v.realNumber.map fun x => raised (p.showReal precision small x)
  else if letter = .scalar 'c' then v.codePoint.map fun c => ⟨false, [], [], [c]⟩
  else
    let shown : CodePoint :=
      if 31 ≤ letter.toNat && letter.toNat ≤ 126 then letter else .scalar '?'
    .error (.builtin "ValueError"
      ("unsupported format character '" ++ shown :: "' (0x" ++ Text.hex 0 letter.toNat ++
        ") at index " ++ Text.ofNat position))

/-- What is shown, brought to a width. -/
def Shown.justified (s : Shown) (left zeros : Bool) (width : Nat) : Text :=
  let room := width - (s.sign.length + s.base.length + s.body.length)
  let whole := s.sign ++ s.base ++ s.body
  if left then whole ++ Text.replicate room " "
  else if s.isNumber && zeros then s.sign ++ s.base ++ Text.replicate room "0" ++ s.body
  else Text.replicate room " " ++ whole

/-! ## Filling -/

/-- The first of the arguments that are left. -/
def nextArgument : List Value → Except Failure (Value × List Value)
  | [] => .error (placeError "not enough arguments for format string")
  | v :: rest => .ok (v, rest)

/-- The number that an argument gives for a star, if it is not beyond a limit. -/
def starNumber (limit : Nat) (word : Text) : Value → Except Failure Int
  | .bool b => .ok (if b then 1 else 0)
  | .int n =>
      if n.natAbs > limit then .error (.builtin "OverflowError"
        ("Python int too large to convert to C " ++ word))
      else .ok n
  | _ => .error (placeError "* wants int")

/-- The number of an extent, and the arguments that are left. -/
def Extent.number (limit : Nat) (word : Text) (arguments : List Value) :
    Extent → Except Failure (Option Int × List Value)
  | absent => .ok (none, arguments)
  | given n => .ok (some n, arguments)
  | asked => do
      let (v, rest) ← nextArgument arguments
      return (some (← starNumber limit word v), rest)

/-- The arguments of a place by its name. -/
def PlaceName.arguments (mapping : Option Value) (left : List Value) :
    PlaceName → Except Failure (List Value)
  | absent => .ok left
  | unclosed => match mapping with
      | some _ => .error (.builtin "ValueError" "incomplete format key")
      | none => .error (placeError "format requires a mapping")
  | named name => match mapping with
      | none => .error (placeError "format requires a mapping")
      | some (.map entries) => match Value.member? entries name with
          | some v => .ok [v]
          | none => .error (.builtin "KeyError" name.quoted)
      | some _ => .error (placeError "list indices must be integers or slices, not str")

/-- The width and the precision of a place, and the arguments that are left. -/
def Place.extents (p : Place) (mapping : Option Value) (left : List Value) :
    Except Failure (Option Int × Option Int × List Value) := do
  let left ← p.name.arguments mapping left
  let (width, left) ← p.width.number 0x7FFFFFFFFFFFFFFF "ssize_t" left
  let (precision, left) ← p.precision.number 0x7FFFFFFF "int" left
  return (width, precision, left)

/-- Pieces filled with the arguments that are left. -/
def fillPieces (mapping : Option Value) : List Value → List Piece → Except Failure Text
  | [], [] => .ok []
  | _ :: _, [] =>
      if mapping.isSome then .ok []
      else .error (placeError "not all arguments converted during string formatting")
  | left, .literal c :: rest => (fillPieces mapping left rest).map (c :: ·)
  | left, .broken p fault :: _ => match p.extents mapping left with
      | .error f => .error f
      | .ok _ => .error (.builtin "ValueError" fault)
  | left, .place p letter position :: rest => match p.extents mapping left with
      | .error f => .error f
      | .ok (width, precision, left) =>
          match nextArgument left with
          | .error f => .error f
          | .ok (v, left) =>
            match p.show? (precision.map Int.toNat) letter position v with
            | .error f => .error f
            | .ok s =>
              let width := width.getD 0
              let t := s.justified (p.left || width < 0) p.zeros width.natAbs
              (fillPieces mapping left rest).map (t ++ ·)

/-- A template filled with the items of a tuple, or with one other value. -/
def fillTemplate (template : Text) (arguments : Value) : Except Failure Text :=
  let all : List Value := match arguments with
    | .tuple items => items
    | v => [v]
  let mapping : Option Value := match arguments with
    | .map entries => some (.map entries)
    | .list items => some (.list items)
    | _ => none
  fillPieces mapping all (pieces template)

/-- The value that arguments stand for: a mapping that is not empty and alone stands for
itself. -/
def argumentValue : List Value → Value
  | [.map (entry :: entries)] => .map (entry :: entries)
  | arguments => .tuple arguments

/-- The message of a template.  Without arguments a template is a message. -/
def messageOf (template : Text) (arguments : List Value) : Except Failure Text :=
  if arguments.isEmpty then .ok template else fillTemplate template (argumentValue arguments)

example : (messageOf "a %s b %03d" [.text "x", .int 3]).toOption = some ("a x b 003" : Text) := by
  decide +kernel

end ConfigReader
