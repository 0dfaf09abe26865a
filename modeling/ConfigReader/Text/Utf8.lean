import ConfigReader.Text.Quoted
import ConfigReader.Number.Decimal

/-!
# UTF-8

Bytes are read as UTF-8.  A sequence that is too long, a surrogate and a number
beyond the last code point are refused.  The first fault is reported by the bytes
it covers: those that could begin a character, up to the one that does not fit.
-/

namespace ConfigReader.Utf8

/-- A byte that may not stand first. -/
def isTail (b : Nat) : Bool := 0x80 ≤ b && b < 0xC0

/-- A second byte that fits the first one. -/
def fitsSecond (first second : Nat) : Bool :=
  isTail second &&
    (if first == 0xE0 then 0xA0 ≤ second
     else if first == 0xED then second < 0xA0
     else if first == 0xF0 then 0x90 ≤ second
     else if first == 0xF4 then second < 0x90
     else true)

/-- The number of bytes of a character, by its first byte. -/
def size? (first : Nat) : Option Nat :=
  if first < 0x80 then some 1
  else if 0xC2 ≤ first && first < 0xE0 then some 2
  else if 0xE0 ≤ first && first < 0xF0 then some 3
  else if 0xF0 ≤ first && first < 0xF5 then some 4
  else none

/-! ## Faults -/

/-- Why bytes are no text. -/
inductive Reason where
  /-- No character begins with the byte. -/
  | start
  /-- The next byte does not go on with the character. -/
  | continuation
  /-- There is no next byte. -/
  | ending
deriving DecidableEq

/-- The wording of a reason. -/
def Reason.text : Reason → Text
  | start => "invalid start byte"
  | continuation => "invalid continuation byte"
  | ending => "unexpected end of data"

/-- The first fault of bytes. -/
structure Fault where
  /-- The bytes it covers. -/
  bytes : List Nat
  /-- The position of the first of them. -/
  position : Nat
  /-- Why they are no character. -/
  reason : Reason

/-- The message of a fault. -/
def Fault.message (f : Fault) : Text :=
  let extent : Text := match f.bytes with
    | [b] => "byte 0x" ++ Text.hex 2 b ++ " in position " ++ Text.ofNat f.position
    | bytes => "bytes in position " ++ Text.ofNat f.position ++ "-" ++
        Text.ofNat (f.position + bytes.length - 1)
  extent ++ ": " ++ f.reason.text

/-- The fault of bytes that arrive in pieces of a size.  A fault is seen when the byte
behind it has arrived, or the end.  Then its position is counted from the first byte
of the piece, or from the character that the piece before has left open. -/
def Fault.inPieces (size : Nat) (bytes : List Nat) (f : Fault) : Fault :=
  match f.reason with
  | .ending => { f with position := 0 }
  | reason =>
      let seen := if reason = .start then f.position else f.position + f.bytes.length
      let border := seen / size * size
      let opened := ((bytes.take (border + 1)).reverse.takeWhile isTail).length
      { f with position := if f.position ≤ border then 0 else f.position - (border - opened) }

/-! ## Characters -/

/-- The first character of bytes and its size, or the reason why there is none. -/
def first (position : Nat) : List Nat → Except Fault (CodePoint × Nat)
  | [] => .error ⟨[], position, .ending⟩
  | a :: rest => match size? a with
      | none => .error ⟨[a], position, .start⟩
      | some 1 => .ok ((CodePoint.ofNat? a).getD default, 1)
      | some n => match rest with
          | [] => .error ⟨[a], position, .ending⟩
          | b :: rest =>
              if !fitsSecond a b then .error ⟨[a], position, .continuation⟩
              else if n == 2 then
                .ok ((CodePoint.ofNat? ((a - 0xC0) * 64 + (b - 0x80))).getD default, 2)
              else match rest with
                | [] => .error ⟨[a, b], position, .ending⟩
                | c :: rest =>
                    if !isTail c then
                      .error ⟨[a, b], position, .continuation⟩
                    else if n == 3 then
                      .ok ((CodePoint.ofNat?
                        (((a - 0xE0) * 64 + (b - 0x80)) * 64 + (c - 0x80))).getD default, 3)
                    else match rest with
                      | [] => .error ⟨[a, b, c], position, .ending⟩
                      | d :: _ =>
                          if !isTail d then
                            .error ⟨[a, b, c], position, .continuation⟩
                          else
                            .ok ((CodePoint.ofNat?
                              ((((a - 0xF0) * 64 + (b - 0x80)) * 64 + (c - 0x80)) * 64 +
                                (d - 0x80))).getD default, 4)

/-- The text of bytes from a position on, bytes that belong to the last character
being skipped. -/
def decodeFrom (position : Nat) : Nat → List Nat → Except Fault Text
  | _, [] => .ok []
  | skip + 1, _ :: rest => decodeFrom (position + 1) skip rest
  | 0, b :: rest => match first position (b :: rest) with
      | .error e => .error e
      | .ok (c, size) => (decodeFrom (position + 1) (size - 1) rest).map (c :: ·)

/-- The text of bytes, or the first fault. -/
def decode (bytes : List Nat) : Except Fault Text := decodeFrom 0 0 bytes

/-! ## Texts as bytes -/

/-- The number of bytes of a code point.  A surrogate counts as the one byte that it
may stand for. -/
def width (c : CodePoint) : Nat :=
  let n := c.toNat
  if c.isSurrogate || n < 0x80 then 1 else if n < 0x800 then 2 else if n < 0x10000 then 3 else 4

/-- The number of bytes of a text. -/
def length (t : Text) : Nat := t.foldl (fun n c => n + width c) 0

/-- The surrogate stands for a byte that is no text. -/
def isEscape (c : CodePoint) : Bool := 0xDC80 ≤ c.toNat && c.toNat < 0xDD00

/-- Why a text from a position on has no bytes, if some surrogates are allowed.  The
surrogates that follow the first bad one are counted with it. -/
def encodingFault? (allowed : CodePoint → Bool) : (position : Nat) → Text → Option Text
  | _, [] => none
  | position, c :: rest =>
      if c.isSurrogate && !allowed c then
        let count := 1 + (rest.takeWhile CodePoint.isSurrogate).length
        let extent : Text :=
          if count = 1 then "character " ++ Text.quoted [c] ++ " in position " ++
            Text.ofNat position
          else "characters in position " ++ Text.ofNat position ++ "-" ++
            Text.ofNat (position + count - 1)
        some ("'utf-8' codec can't encode " ++ extent ++ ": surrogates not allowed")
      else encodingFault? allowed (position + 1) rest

end ConfigReader.Utf8
