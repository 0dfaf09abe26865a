import ConfigReader.Format.Yaml.Cursor
import ConfigReader.Moment

/-!
# YAML time stamps

A time stamp is a date, or a date and a time of day.  The time may have a fraction
and an offset.  `Stamp.ofText?` reads the numbers of a time stamp, and
`Stamp.value` checks them against the calendar and the clock, one after the other.
-/

namespace ConfigReader.Yaml

/-- The time of a time stamp as written. -/
structure StampTime where
  /-- The hour. -/
  hour : Nat
  /-- The minute. -/
  minute : Nat
  /-- The second. -/
  second : Nat
  /-- The digits behind the point. -/
  fraction : Text
  /-- The offset in minutes. -/
  offset : Option Int

/-- A time stamp as written. -/
structure Stamp where
  /-- The year. -/
  year : Nat
  /-- The month. -/
  month : Nat
  /-- The day. -/
  day : Nat
  /-- The time of day. -/
  time : Option StampTime

namespace Stamp

/-! ## Reading -/

/-- A number of one or two digits, and what follows. -/
def upToTwo? (t : Text) : Option (Nat × Text) :=
  match t with
  | a :: b :: rest =>
      if !a.isDigit then none
      else if b.isDigit then some (Text.toNat [a, b], rest)
      else some (Text.toNat [a], b :: rest)
  | [a] => if a.isDigit then some (Text.toNat [a], []) else none
  | [] => none

/-- A number of two digits, and what follows. -/
def two? : Text → Option (Nat × Text)
  | a :: b :: rest =>
      if a.isDigit && b.isDigit then some (Text.toNat [a, b], rest) else none
  | _ => none

/-- What follows a code point. -/
def past? (c : Char) : Text → Option Text
  | d :: rest => if d = .scalar c then some rest else none
  | [] => none

/-- The offset at the end of a time stamp, in minutes. -/
def offset? (t : Text) : Option (Option Int) :=
  match t.dropWhile isWhite with
  | [] => if t.isEmpty then some none else none
  | [.scalar 'Z'] => some (some 0)
  | sign :: rest =>
      if !isAmong "+-" sign then none
      else do
        let (hours, rest) ← upToTwo? rest
        let minutes ← if rest.isEmpty then some 0 else do
          let (minutes, rest) ← two? (← past? ':' rest)
          if rest.isEmpty then some minutes else none
        let total : Int := (60 * hours + minutes : Nat)
        return some (if sign = .scalar '-' then -total else total)

/-- The time of day behind a date. -/
def time? (t : Text) : Option StampTime := do
  let t ← match t with
    | [] => none
    | c :: rest =>
        if isAmong "Tt" c then some rest
        else if isWhite c then some (rest.dropWhile isWhite)
        else none
  let (hour, t) ← upToTwo? t
  let (minute, t) ← two? (← past? ':' t)
  let (second, t) ← two? (← past? ':' t)
  let (fraction, t) := match t with
    | .scalar '.' :: rest => Text.spanDigits rest
    | _ => ([], t)
  return ⟨hour, minute, second, fraction, ← offset? t⟩

/-- The numbers of a time stamp. -/
def ofText? (t : Text) : Option Stamp :=
  let (year, rest) := t.spanDigits
  if year.length != 4 then none
  else do
    let (month, rest) ← upToTwo? (← past? '-' rest)
    let (day, rest) ← upToTwo? (← past? '-' rest)
    if rest.isEmpty then some ⟨year.toNat, month, day, none⟩
    else return ⟨year.toNat, month, day, some (← time? rest)⟩

/-- The shape of a time stamp.  A date alone has two digits for the month and the
day. -/
def hasShape (t : Text) : Bool :=
  match ofText? t with
  | some stamp => stamp.time.isSome || t.length == 10
  | none => false

/-! ## The moment -/

/-- A number of a time stamp is out of range. -/
def outOfRange {α : Type} (message : Text) : Parsed α :=
  .error (.failed (.builtin "ValueError" message))

/-- The date of a time stamp. -/
def date (s : Stamp) : Parsed Date :=
  let d : Date := ⟨s.year, s.month, s.day⟩
  if s.year = 0 then outOfRange "year 0 is out of range"
  else if s.month < 1 || 12 < s.month then outOfRange "month must be in 1..12"
  else if d.isValid then .ok d
  else outOfRange "day is out of range for month"

/-- The microseconds that a fraction of a second spells. -/
def micros (fraction : Text) : Nat :=
  let digits := fraction.take 6
  Text.toNat digits * Nat.pow 10 (6 - digits.length)

/-- The time of day of a time stamp. -/
def clock (t : StampTime) : Parsed TimeOfDay :=
  if 23 < t.hour then outOfRange "hour must be in 0..23"
  else if 59 < t.minute then outOfRange "minute must be in 0..59"
  else if 59 < t.second then outOfRange "second must be in 0..59"
  else .ok ⟨t.hour, t.minute, t.second, micros t.fraction⟩

/-- A span of minutes in a message, by days and seconds. -/
def spanText (minutes : Int) : Text :=
  let days := minutes / 1440
  let seconds := minutes % 1440 * 60
  "datetime.timedelta(days=" ++ Text.ofInt days ++
    (if seconds = 0 then ([] : Text) else ", seconds=" ++ Text.ofInt seconds) ++ ")"

/-- An offset, which is less than a day. -/
def checkedOffset (minutes : Int) : Parsed Int :=
  if minutes.natAbs < 1440 then .ok minutes
  else outOfRange
    ("offset must be a timedelta strictly between -timedelta(hours=24) and " ++
      "timedelta(hours=24), not " ++ spanText minutes ++ ".")

/-- The moment of a time stamp. -/
def value (s : Stamp) : Parsed Value :=
  match s.time with
  | none => s.date.map Value.ofDate
  | some t => do
      let offset ← t.offset.mapM checkedOffset
      let d ← s.date
      return .ofDateTime d (← clock t) offset

end Stamp

end ConfigReader.Yaml
