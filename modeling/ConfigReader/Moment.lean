import ConfigReader.Value

/-!
# Dates and times

Dates, times of day and both together, as documents write them.  A moment is
checked against the calendar when it is made, and becomes a value by its texts.
The last part of the module goes from seconds to a date, for time stamps.
-/

namespace ConfigReader

/-! ## The calendar -/

/-- A leap year. -/
def isLeapYear (year : Nat) : Bool :=
  year % 4 == 0 && (year % 100 != 0 || year % 400 == 0)

/-- The number of days of a month. -/
def daysInMonth (year month : Nat) : Nat :=
  if month == 2 then (if isLeapYear year then 29 else 28)
  else if month == 4 || month == 6 || month == 9 || month == 11 then 30
  else 31

/-- A date. -/
structure Date where
  /-- The year. -/
  year : Nat
  /-- The month, from one. -/
  month : Nat
  /-- The day of the month, from one. -/
  day : Nat
deriving DecidableEq

/-- The date is in the calendar. -/
def Date.isValid (d : Date) : Bool :=
  1 ≤ d.year && d.year ≤ 9999 && 1 ≤ d.month && d.month ≤ 12 && 1 ≤ d.day &&
    d.day ≤ daysInMonth d.year d.month

/-- A time of day. -/
structure TimeOfDay where
  /-- The hour. -/
  hour : Nat
  /-- The minute. -/
  minute : Nat
  /-- The second. -/
  second : Nat
  /-- The microsecond. -/
  micro : Nat
deriving DecidableEq

/-- The time is on the clock. -/
def TimeOfDay.isValid (t : TimeOfDay) : Bool := t.hour < 24 && t.minute < 60 && t.second < 60

/-! ## Texts -/

/-- A number with zeros in front up to a width. -/
def Text.padded (width n : Nat) : Text :=
  let digits := Text.ofNat n
  Text.replicate (width - digits.length) "0" ++ digits

/-- The text of a date. -/
def Date.text (d : Date) : Text :=
  Text.padded 4 d.year ++ "-" ++ Text.padded 2 d.month ++ "-" ++ Text.padded 2 d.day

/-- The text of a time, the fraction left out if it is zero. -/
def TimeOfDay.text (t : TimeOfDay) : Text :=
  Text.padded 2 t.hour ++ ":" ++ Text.padded 2 t.minute ++ ":" ++ Text.padded 2 t.second ++
    (if t.micro = 0 then ([] : Text) else "." ++ Text.padded 6 t.micro)

/-- The text of an offset in minutes. -/
def offsetText (minutes : Int) : Text :=
  let n := minutes.natAbs
  (if minutes < 0 then ("-" : Text) else "+") ++ Text.padded 2 (n / 60) ++ ":" ++
    Text.padded 2 (n % 60)

/-- How messages show an offset in minutes. -/
def offsetQuoted (minutes : Int) : Text :=
  if minutes = 0 then "datetime.timezone.utc"
  else
    let seconds := minutes * 60
    let delta : Text :=
      if seconds < 0 then
        "days=-1, seconds=" ++ Text.ofInt (seconds + 86400)
      else "seconds=" ++ Text.ofInt seconds
    "datetime.timezone(datetime.timedelta(" ++ delta ++ "))"

/-- The numbers of a time in a message: seconds and below are left out if zero. -/
def TimeOfDay.numbers (t : TimeOfDay) : List Nat :=
  [t.hour, t.minute] ++
    (if t.micro ≠ 0 then [t.second, t.micro] else if t.second ≠ 0 then [t.second] else [])

/-- Numbers with commas between them. -/
def commaedNumbers (ns : List Nat) : Text := Value.commaed (ns.map Text.ofNat)

/-! ## Instants -/

/-- The days of a calendar before a date. -/
def Date.daysBefore (d : Date) : Nat :=
  let years := d.year - 1
  let inYear := (List.range (d.month - 1)).foldl (fun n m => n + daysInMonth d.year (m + 1)) 0
  365 * years + years / 4 - years / 100 + years / 400 + inYear + (d.day - 1)

/-- The microseconds of a day before a time. -/
def TimeOfDay.micros (t : TimeOfDay) : Nat :=
  ((t.hour * 60 + t.minute) * 60 + t.second) * 1000000 + t.micro

/-- The microseconds of a calendar without offset before a date and a time with an
offset in minutes. -/
def instant (d : Date) (t : TimeOfDay) (minutes : Int) : Int :=
  (d.daysBefore * 86400000000 + t.micros : Nat) - minutes * 60000000

/-! ## Values -/

/-- A date as a value. -/
def Value.ofDate (d : Date) : Value :=
  .moment "date" d.text ("datetime.date(" ++ commaedNumbers [d.year, d.month, d.day] ++ ")") none

/-- A time of day as a value. -/
def Value.ofTime (t : TimeOfDay) : Value :=
  .moment "time" t.text ("datetime.time(" ++ commaedNumbers t.numbers ++ ")") none

/-- A date and a time, with an offset in minutes if one is known. -/
def Value.ofDateTime (d : Date) (t : TimeOfDay) (offset : Option Int) : Value :=
  .moment "datetime"
    (d.text ++ " " ++ t.text ++ (offset.map offsetText).getD [])
    ("datetime.datetime(" ++ commaedNumbers ([d.year, d.month, d.day] ++ t.numbers) ++
      (match offset with
        | some minutes => ", tzinfo=" ++ offsetQuoted minutes
        | none => []) ++ ")")
    (offset.map (ConfigReader.instant d t))

/-! ## From seconds to dates -/

/-- The year, month and day of a number of days after the first of January 1970.
Years are counted from March in eras of four hundred years. -/
def civilFromDays (days : Int) : Int × Nat × Nat :=
  let z := days + 719468
  let era := z / 146097
  let dayOfEra := (z % 146097).toNat
  let yearOfEra :=
    (dayOfEra - dayOfEra / 1460 + dayOfEra / 36524 - dayOfEra / 146096) / 365
  let dayOfYear := dayOfEra - (365 * yearOfEra + yearOfEra / 4 - yearOfEra / 100)
  let shifted := (5 * dayOfYear + 2) / 153
  let day := dayOfYear - (153 * shifted + 2) / 5 + 1
  let month := if shifted < 10 then shifted + 3 else shifted - 9
  let year : Int := yearOfEra + era * 400
  (if month ≤ 2 then year + 1 else year, month, day)

end ConfigReader
