import CapsuleKit.Number.Shortest

/-!
# Dates and times

`Moment` is a date, a time of day or both, as documents write them. `Date.fault?` and
`TimeOfDay.fault?` say which part is out of range; `Moment.iso` writes the standard form.
-/

namespace CapsuleKit

structure Date where
  year : Nat
  month : Nat
  day : Nat
  deriving DecidableEq

structure TimeOfDay where
  hour : Nat
  minute : Nat
  second : Nat
  microsecond : Nat
  deriving DecidableEq

/-- A date, a time of day, or a date with a time and perhaps its distance from universal time in
seconds. -/
inductive Moment where
  | date (d : Date)
  | time (t : TimeOfDay)
  | stamp (d : Date) (t : TimeOfDay) (offset : Option Int)
  deriving DecidableEq

/-- Decimal digits filled up with zeros to a width. -/
def padded (width n : Nat) : String :=
  let ds := Nat.toDigits 10 n
  String.ofList (List.replicate (width - ds.length) '0' ++ ds)

namespace Date

def isLeapYear (y : Nat) : Bool :=
  y % 4 == 0 && (y % 100 != 0 || y % 400 == 0)

def daysInMonth (y m : Nat) : Nat :=
  if m = 2 then (if isLeapYear y then 29 else 28)
  else if m = 4 ∨ m = 6 ∨ m = 9 ∨ m = 11 then 30
  else 31

/-- What is wrong with the date, if it is not in the calendar. -/
def fault? (d : Date) : Option String :=
  if d.year = 0 ∨ 9999 < d.year then some ("year " ++ decimalText d.year ++ " is out of range")
  else if d.month = 0 ∨ 12 < d.month then some "month must be in 1..12"
  else if d.day = 0 ∨ daysInMonth d.year d.month < d.day then some "day is out of range for month"
  else none

/-- The days of a year before a month. -/
def daysBefore (y m : Nat) : Nat :=
  ((List.range m).map fun k => if k = 0 then 0 else daysInMonth y k).foldl (· + ·) 0

/-- The number of a day, the first day of the first year being one. -/
def ordinal (d : Date) : Nat :=
  let y := d.year - 1
  365 * y + y / 4 - y / 100 + y / 400 + daysBefore d.year d.month + d.day

def iso (d : Date) : String :=
  padded 4 d.year ++ "-" ++ padded 2 d.month ++ "-" ++ padded 2 d.day

end Date

namespace TimeOfDay

/-- What is wrong with the time, if it is not one of a day. -/
def fault? (t : TimeOfDay) : Option String :=
  if 23 < t.hour then some "hour must be in 0..23"
  else if 59 < t.minute then some "minute must be in 0..59"
  else if 59 < t.second then some "second must be in 0..59"
  else none

def iso (t : TimeOfDay) : String :=
  padded 2 t.hour ++ ":" ++ padded 2 t.minute ++ ":" ++ padded 2 t.second ++
    (if t.microsecond = 0 then "" else "." ++ padded 6 t.microsecond)

end TimeOfDay

namespace Moment

/-- The millionths of a second from the start of the calendar to a time on a day, less a distance
from universal time in seconds. -/
def instant (d : Date) (t : TimeOfDay) (offset : Int) : Int :=
  ((Int.ofNat (d.ordinal * 86400 + t.hour * 3600 + t.minute * 60 + t.second)) - offset) * 1000000 +
    Int.ofNat t.microsecond

/-- Whether two moments are the same; with a distance from universal time, whether they are the same
instant. -/
def same : Moment → Moment → Bool
  | .stamp d t (some o), .stamp e u (some p) => instant d t o == instant e u p
  | a, b => a == b

def offsetIso (o : Int) : String :=
  let n := o.natAbs
  (if o < 0 then "-" else "+") ++ padded 2 (n / 3600) ++ ":" ++ padded 2 (n / 60 % 60) ++
    (if n % 60 = 0 then "" else ":" ++ padded 2 (n % 60))

/-- The standard form: `2024-01-02`, `03:04:05`, `2024-01-02T03:04:05+00:00`. -/
def iso : Moment → String
  | .date d => d.iso
  | .time t => t.iso
  | .stamp d t o => d.iso ++ "T" ++ t.iso ++ (o.map offsetIso).getD ""

def timeArguments (t : TimeOfDay) : List Nat :=
  if t.microsecond ≠ 0 then [t.hour, t.minute, t.second, t.microsecond]
  else if t.second ≠ 0 then [t.hour, t.minute, t.second]
  else [t.hour, t.minute]

def call (name : String) (arguments : List String) : String :=
  name ++ "(" ++ String.intercalate ", " arguments ++ ")"

/-- A number of seconds as whole days and the seconds left. -/
def duration (o : Int) : String :=
  let days := o.fdiv 86400
  let seconds := o.fmod 86400
  call "datetime.timedelta"
    ((if days = 0 then [] else ["days=" ++ intText days]) ++
      (if seconds = 0 then [] else ["seconds=" ++ intText seconds]))

def zone (o : Int) : String :=
  if o = 0 then "datetime.timezone.utc" else call "datetime.timezone" [duration o]

/-- The form in which a message shows a moment that stands where a text is expected. -/
def shown : Moment → String
  | .date d => call "datetime.date" ([d.year, d.month, d.day].map decimalText)
  | .time t => call "datetime.time" ((timeArguments t).map decimalText)
  | .stamp d t o =>
    call "datetime.datetime"
      (([d.year, d.month, d.day] ++ timeArguments t).map decimalText ++
        (match o with
          | none => []
          | some n => ["tzinfo=" ++ zone n]))

/-- The form in which a message prints a moment as text. -/
def plain : Moment → String
  | .stamp d t o => d.iso ++ " " ++ t.iso ++ (o.map offsetIso).getD ""
  | m => m.iso

end Moment

end CapsuleKit
