import ConfigReader.Failure
import ConfigReader.Moment

/-!
# Time stamps

The time of a log line, from seconds after the start of 1970 to a date and a time
with milliseconds.  The fraction of a second is first rounded to microseconds, a
half to the even one, and then cut to milliseconds.
-/

namespace ConfigReader

namespace Binary64

/-- The whole part toward zero, and the fraction as a number of its own. -/
def split (negative : Bool) (m : Nat) (e : Int) : Int × Binary64 :=
  let (n, d) := ratio m e
  let whole : Int := (n / d : Nat)
  (if negative then -whole else whole, ofRatio negative (n % d) d)

/-- A number times a natural number, rounded. -/
def scale (k : Nat) : Binary64 → Binary64
  | .finite negative m e =>
      let (n, d) := ratio m e
      ofRatio negative (n * k) d
  | x => x

/-- The integer nearest to a number, a half going to the even one. -/
def round : Binary64 → Int
  | .finite negative m e =>
      let (n, d) := ratio m e
      if negative then -(roundDiv n d : Int) else roundDiv n d
  | _ => 0

end Binary64

/-- Seconds and microseconds of a number of seconds. -/
def splitSeconds (negative : Bool) (m : Nat) (e : Int) : Int × Int :=
  let (whole, fraction) := Binary64.split negative m e
  let micros := (fraction.scale 1000000).round
  if micros ≥ 1000000 then (whole + 1, micros - 1000000)
  else if micros < 0 then (whole - 1, micros + 1000000)
  else (whole, micros)

/-- The time stamp of a number of seconds.  The years from 1 to 9999 have one, and a
message shows any other year as a word of 32 bits. -/
def timestamp : Binary64 → Except Failure Text
  | .nan => .error (.builtin "ValueError" "Invalid value NaN (not a number)")
  | .infinite _ => .error (.builtin "OverflowError" "timestamp out of range for platform time_t")
  | .finite negative m e =>
      let (seconds, micros) := splitSeconds negative m e
      if seconds ≥ 0x8000000000000000 || seconds < -0x8000000000000000 then
        .error (.builtin "OverflowError" "timestamp out of range for platform time_t")
      else
        let (year, month, day) := civilFromDays (seconds / 86400)
        if year - 1900 ≥ 0x80000000 || year - 1900 < -0x80000000 then
          .error (.builtin "OSError" "[Errno 75] Value too large for defined data type")
        else if year < 1 || 9999 < year then
          .error (.builtin "ValueError"
            ("year " ++ Text.ofInt (year.bmod 0x100000000) ++ " is out of range"))
        else
          let rest := (seconds % 86400).toNat
          let date : Date := ⟨year.toNat, month, day⟩
          let time : TimeOfDay := ⟨rest / 3600, rest / 60 % 60, rest % 60, 0⟩
          .ok (date.text ++ "T" ++ time.text ++ "." ++ Text.padded 3 (micros.toNat / 1000) ++ "Z")

end ConfigReader
