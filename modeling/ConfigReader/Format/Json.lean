import ConfigReader.Format.Fault

/-!
# JSON documents

A reader of JSON.  Beyond the standard it takes `NaN`, `Infinity` and `-Infinity`
for numbers.  A name that occurs again in an object overrides.  Surrogates that
two escapes name are joined if they are a pair, and stay alone otherwise.  Control
characters must be escaped, and a byte order mark is refused.
-/

namespace ConfigReader.Json

/-- The text without white space in front. -/
def skipSpace (t : Text) : Text := t.dropWhile fun c =>
  c = .scalar ' ' || c = .scalar '\t' || c = .scalar '\n' || c = .scalar '\r'

/-- Pairs of surrogates become the characters they stand for. -/
def joinPairs : Text → Text
  | .surrogate high :: .surrogate low :: rest =>
      if high.val < 1024 && 1024 ≤ low.val then
        ((CodePoint.ofNat? (0x10000 + high.val * 1024 + (low.val - 1024))).getD
          (.surrogate high)) :: joinPairs rest
      else .surrogate high :: joinPairs (.surrogate low :: rest)
  | c :: rest => c :: joinPairs rest
  | [] => []
termination_by t => t.length

/-- The code point of four hexadecimal digits. -/
def unit? (a b c d : CodePoint) : Option CodePoint := do
  CodePoint.ofNat?
    (((((← a.hexValue?) * 16 + (← b.hexValue?)) * 16) + (← c.hexValue?)) * 16 +
      (← d.hexValue?))

/-- What a character stands for behind a backslash. -/
def escape? : CodePoint → Option CodePoint
  | .scalar '"' => some '"'
  | .scalar '\\' => some '\\'
  | .scalar '/' => some '/'
  | .scalar 'b' => some '\x08'
  | .scalar 'f' => some '\x0c'
  | .scalar 'n' => some '\n'
  | .scalar 'r' => some '\r'
  | .scalar 't' => some '\t'
  | _ => none

/-- A string behind its opening quote, and what follows the closing one. -/
def stringBody : Text → Parsed (Text × Text)
  | .scalar '"' :: rest => .ok ([], rest)
  | .scalar '\\' :: .scalar 'u' :: a :: b :: c :: d :: rest =>
      match unit? a b c d with
      | some u => (stringBody rest).map fun (body, rest) => (u :: body, rest)
      | none => malformed
  | .scalar '\\' :: c :: rest =>
      match escape? c with
      | some e => (stringBody rest).map fun (body, rest) => (e :: body, rest)
      | none => malformed
  | c :: rest =>
      if c.toNat < 32 || c = .scalar '\\' then malformed
      else (stringBody rest).map fun (body, rest) => (c :: body, rest)
  | [] => malformed

/-- A string behind its opening quote. -/
def string (t : Text) : Parsed (Text × Text) :=
  (stringBody t).map fun (body, rest) => (joinPairs body, rest)

/-- The fraction of a number, with the point, if one stands in front. -/
def fraction (t : Text) : Option Text × Text :=
  match t with
  | .scalar '.' :: rest => match Text.spanDigits rest with
      | ([], _) => (none, t)
      | (digits, rest) => (some digits, rest)
  | _ => (none, t)

/-- The exponent of a number, if one stands in front. -/
def exponent (t : Text) : Option Int × Text :=
  let signed (negative : Bool) (rest : Text) : Option Int × Text :=
    match Text.spanDigits rest with
    | ([], _) => (none, t)
    | (digits, rest) =>
        (some (if negative then -(digits.toNat : Int) else digits.toNat), rest)
  let body (rest : Text) : Option Int × Text :=
    match rest with
    | .scalar '+' :: rest => signed false rest
    | .scalar '-' :: rest => signed true rest
    | rest => signed false rest
  match t with
  | .scalar 'e' :: rest => body rest
  | .scalar 'E' :: rest => body rest
  | _ => (none, t)

/-- A number behind its sign. -/
def number (negative : Bool) (t : Text) : Parsed (Value × Text) :=
  let (whole, rest) := match t with
    | .scalar '0' :: rest => (([.scalar '0'] : Text), rest)
    | _ => t.spanDigits
  if whole.isEmpty then malformed
  else
    let (fractionDigits, rest) := fraction rest
    let (power, rest) := exponent rest
    match fractionDigits, power with
    | none, none => (integerOfDigits negative whole).map fun v => (v, rest)
    | _, _ => .ok (floatOfParts negative whole (fractionDigits.getD []) (power.getD 0), rest)

/-- The words that stand for values. -/
def words : List (Text × Value) :=
  [("null", .null), ("true", .bool true), ("false", .bool false), ("NaN", .float .nan),
   ("Infinity", .float (.infinite false)), ("-Infinity", .float (.infinite true))]

/-- A word or a number. -/
def atom (t : Text) : Parsed (Value × Text) :=
  match words.findSome? fun (word, v) => (Text.after? word t).map fun rest => (v, rest) with
  | some found => .ok found
  | none => match t with
      | .scalar '-' :: rest => number true rest
      | rest => number false rest

mutual

/-- A value.  There is room for so many collections within each other, and `fuel` bounds
the steps. -/
def value (room fuel : Nat) (t : Text) : Parsed (Value × Text) :=
  match fuel with
  | 0 => malformed
  | fuel + 1 => match t with
      | .scalar '"' :: rest => (string rest).map fun (s, rest) => (.text s, rest)
      | .scalar '[' :: rest =>
          if room = 0 then tooDeep " while decoding a JSON array from a unicode string"
          else match skipSpace rest with
            | .scalar ']' :: rest => .ok (.list [], rest)
            | rest => (items (room - 1) fuel rest).map fun (vs, rest) => (.list vs, rest)
      | .scalar '\x7b' :: rest =>
          if room = 0 then tooDeep " while decoding a JSON object from a unicode string"
          else match skipSpace rest with
            | .scalar '\x7d' :: rest => .ok (.map [], rest)
            | rest => (members (room - 1) fuel rest).map fun (ms, rest) =>
                (Value.ofPairs ms, rest)
      | rest => atom rest

/-- The items of an array up to its end. -/
def items (room fuel : Nat) (t : Text) : Parsed (List Value × Text) :=
  match fuel with
  | 0 => malformed
  | fuel + 1 => do
      let (v, rest) ← value room fuel t
      match skipSpace rest with
      | .scalar ']' :: rest => return ([v], rest)
      | .scalar ',' :: rest =>
          let (vs, rest) ← items room fuel (skipSpace rest)
          return (v :: vs, rest)
      | _ => malformed

/-- The members of an object up to its end. -/
def members (room fuel : Nat) (t : Text) : Parsed (List (Value × Value) × Text) :=
  match fuel, t with
  | fuel + 1, .scalar '"' :: rest => do
      let (name, rest) ← string rest
      match skipSpace rest with
      | .scalar ':' :: rest =>
          let (v, rest) ← value room fuel (skipSpace rest)
          match skipSpace rest with
          | .scalar '\x7d' :: rest => return ([(.text name, v)], rest)
          | .scalar ',' :: rest =>
              let (ms, rest) ← members room fuel (skipSpace rest)
              return ((.text name, v) :: ms, rest)
          | _ => malformed
      | _ => malformed
  | _, _ => malformed

end

/-- How many collections may stand within each other. -/
def maxDepth : Nat := 985

/-- The value of a JSON text. -/
def parse (t : Text) : Parsed Value := do
  let (v, rest) ← value maxDepth (t.length + 1) (skipSpace t)
  if (skipSpace rest).isEmpty then return v else malformed

end ConfigReader.Json
