/-!
# Text

A *text* is a list of code points.  A code point is a Unicode scalar value, or a
surrogate that stands alone: an escape such as `\uD83D` names one, and no text
format here joins two of them into a character.  So `String`, which holds scalar
values only, is too small, and every text of the library is a `Text`.

Texts are ordered by code point, and cut and joined by the operations of this
module.  Two laws tie them together.  `join_splitOn` says that a text is its
pieces with the separator put back, and `splitOn_join` that pieces without the
separator are found again.
-/

namespace ConfigReader

/-! ## Code points -/

/-- A Unicode code point: a scalar value, or a surrogate standing alone. -/
inductive CodePoint where
  /-- A scalar value. -/
  | scalar (c : Char)
  /-- The surrogate `0xD800 + i`. -/
  | surrogate (i : Fin 2048)
deriving DecidableEq

instance : Inhabited CodePoint := ⟨.scalar ' '⟩

instance : Coe Char CodePoint := ⟨.scalar⟩

namespace CodePoint

/-- The number of a code point. -/
def toNat : CodePoint → Nat
  | scalar c => c.toNat
  | surrogate i => 0xD800 + i.val

/-- The code point with a number, if the number is below `0x110000`. -/
def ofNat? (n : Nat) : Option CodePoint :=
  if h : n.isValidChar then
    some (scalar (Char.ofNatAux n h))
  else if h : n - 0xD800 < 2048 then
    some (surrogate ⟨n - 0xD800, h⟩)
  else
    none

/-- The code point is a surrogate. -/
def isSurrogate : CodePoint → Bool
  | scalar _ => false
  | surrogate _ => true

/-- An ASCII digit. -/
def isDigit : CodePoint → Bool
  | scalar c => c.isDigit
  | surrogate _ => false

/-- The value of an ASCII hexadecimal digit. -/
def hexValue? : CodePoint → Option Nat
  | scalar c =>
      if c.isDigit then some (c.toNat - 48)
      else if 'a' ≤ c ∧ c ≤ 'f' then some (c.toNat - 87)
      else if 'A' ≤ c ∧ c ≤ 'F' then some (c.toNat - 55)
      else none
  | surrogate _ => none

/-- ASCII letters in lower case; all else unchanged. -/
def lowerAscii : CodePoint → CodePoint
  | scalar c => scalar c.toLower
  | surrogate i => surrogate i

/-- ASCII letters in upper case; all else unchanged. -/
def upperAscii : CodePoint → CodePoint
  | scalar c => scalar c.toUpper
  | surrogate i => surrogate i

/-- Code points are ordered by number. -/
def le (a b : CodePoint) : Bool := a.toNat ≤ b.toNat

end CodePoint

/-! ## Texts -/

/-- A text is a list of code points. -/
abbrev Text := List CodePoint

namespace Text

/-- The text of a string. -/
def ofString (s : String) : Text := s.toList.map .scalar

instance : Coe String Text := ⟨ofString⟩

/-- The text as a string, if no surrogate stands in it. -/
def toString? (t : Text) : Option String :=
  (t.mapM fun c => match c with
    | CodePoint.scalar c => some c
    | CodePoint.surrogate _ => none).map String.ofList

/-- Texts are ordered by code point, a text after its beginnings. -/
def le : Text → Text → Bool
  | [], _ => true
  | _ :: _, [] => false
  | a :: s, b :: t => if a = b then le s t else a.le b

/-- The texts in ascending order. -/
def sort (ts : List Text) : List Text := ts.mergeSort le

/-! ## Cutting and joining -/

/-- The pieces between the occurrences of `sep`, at least one. -/
def splitOn (sep : CodePoint) : Text → List Text
  | [] => [[]]
  | c :: rest =>
      if c = sep then [] :: splitOn sep rest
      else match splitOn sep rest with
        | [] => [[c]]
        | piece :: pieces => (c :: piece) :: pieces

/-- The pieces with `sep` between them. -/
def join (sep : Text) : List Text → Text
  | [] => []
  | [t] => t
  | t :: u :: rest => t ++ sep ++ join sep (u :: rest)

/-- The text before the first `sep` and the text after it. -/
def cut? (sep : CodePoint) : Text → Option (Text × Text)
  | [] => none
  | c :: rest =>
      if c = sep then some ([], rest)
      else (cut? sep rest).map fun (before, after) => (c :: before, after)

/-- What follows `lead`, if the text begins with it. -/
def after? : Text → Text → Option Text
  | [], t => some t
  | _ :: _, [] => none
  | a :: lead, b :: t => if a = b then after? lead t else none

/-- The text begins with `lead`. -/
def startsWith (t lead : Text) : Bool := (after? lead t).isSome

/-- The text without the code points of a class at its end. -/
def dropEndWhile (p : CodePoint → Bool) (t : Text) : Text :=
  (t.reverse.dropWhile p).reverse

/-- The text without the code points of a class at both ends. -/
def trim (p : CodePoint → Bool) (t : Text) : Text := dropEndWhile p (t.dropWhile p)

/-- ASCII letters in lower case. -/
def lowerAscii (t : Text) : Text := t.map .lowerAscii

/-- ASCII letters in upper case. -/
def upperAscii (t : Text) : Text := t.map .upperAscii

/-- One or more ASCII digits and nothing else. -/
def isDigits (t : Text) : Bool := !t.isEmpty && t.all CodePoint.isDigit

/-- Repeats a text. -/
def replicate (n : Nat) (t : Text) : Text := (List.replicate n t).flatten

theorem splitOn_ne_nil (sep : CodePoint) (t : Text) : splitOn sep t ≠ [] := by
  cases t with
  | nil => simp [splitOn]
  | cons c rest =>
      unfold splitOn
      split
      · simp
      · split <;> simp

/-- A text is its pieces with the separator put back. -/
theorem join_splitOn (sep : CodePoint) (t : Text) : join [sep] (splitOn sep t) = t := by
  induction t with
  | nil => rfl
  | cons c rest ih =>
      unfold splitOn
      split
      · next h =>
          subst h
          cases hr : splitOn c rest with
          | nil => exact absurd hr (splitOn_ne_nil c rest)
          | cons piece pieces =>
              rw [hr] at ih
              simp [join, ih]
      · cases hr : splitOn sep rest with
        | nil => exact absurd hr (splitOn_ne_nil sep rest)
        | cons piece pieces =>
            rw [hr] at ih
            cases pieces with
            | nil => simpa [join] using ih
            | cons p ps => simpa [join] using ih

theorem splitOn_of_not_mem {sep : CodePoint} {t : Text} (h : sep ∉ t) :
    splitOn sep t = [t] := by
  induction t with
  | nil => rfl
  | cons c rest ih =>
      simp only [List.mem_cons, not_or] at h
      simp [splitOn, ih h.2, Ne.symm h.1]

theorem splitOn_append {sep : CodePoint} {t : Text} (h : sep ∉ t) (u : Text) :
    splitOn sep (t ++ sep :: u) = t :: splitOn sep u := by
  induction t with
  | nil => simp [splitOn]
  | cons c rest ih =>
      simp only [List.mem_cons, not_or] at h
      simp [splitOn, ih h.2, Ne.symm h.1]

/-- Pieces that do not hold the separator are found again. -/
theorem splitOn_join {sep : CodePoint} :
    ∀ {pieces : List Text}, pieces ≠ [] → (∀ p ∈ pieces, sep ∉ p) →
      splitOn sep (join [sep] pieces) = pieces
  | [], h, _ => absurd rfl h
  | [p], _, h => by simpa [join] using splitOn_of_not_mem (h p (by simp))
  | p :: q :: rest, _, h => by
      have hp : sep ∉ p := h p (by simp)
      have ih : splitOn sep (join [sep] (q :: rest)) = q :: rest :=
        splitOn_join (by simp) fun r hr => h r (by simp [hr])
      simp only [join, List.append_assoc, List.singleton_append]
      rw [splitOn_append hp, ih]

end Text

/-! ## Tests -/

example : Text.splitOn '.' "a..b" = (["a", "", "b"] : List Text) := by decide

example : Text.cut? '=' "a=b=c" = some (("a" : Text), ("b=c" : Text)) := by decide

example : Text.le "a" "a.b" = true ∧ Text.le "b" "a.b" = false := by decide

end ConfigReader
