import SchemaMigration.Number.Arithmetic
import SchemaMigration.Number.Fixed
import SchemaMigration.Text.Quoted
import SchemaMigration.Text.Split

namespace SchemaMigration

structure Timestamp where
  year : Nat
  month : Nat
  day : Nat
  hour : Nat := 0
  minute : Nat := 0
  second : Nat := 0
  micro : Nat := 0
  offset : Option Int := none
  deriving DecidableEq, Repr

inductive TimestampError
  | unreadable (text : String)
  | year (n : Nat)
  | month
  | day
  | hour
  | minute
  | second
  | offset (micros : Int)
  deriving DecidableEq, Repr

def lengthText (micros : Int) : String :=
  let seconds := micros.fdiv 1000000
  let parts := [("days", seconds.fdiv 86400), ("seconds", seconds.fmod 86400),
    ("microseconds", micros.fmod 1000000)]
  let written := (parts.filter fun (_, n) => n != 0).map fun (name, n) => name ++ "=" ++ toString n
  "datetime.timedelta(" ++ (if written.isEmpty then "0" else Text.join ", " written) ++ ")"

def TimestampError.message : TimestampError → String
  | .unreadable text => "Invalid isoformat string: " ++ Text.quoted text
  | .year n => "year " ++ toString n ++ " is out of range"
  | .month => "month must be in 1..12"
  | .day => "day is out of range for month"
  | .hour => "hour must be in 0..23"
  | .minute => "minute must be in 0..59"
  | .second => "second must be in 0..59"
  | .offset micros =>
    "offset must be a timedelta strictly between -timedelta(hours=24) and " ++
      "timedelta(hours=24), not " ++ lengthText micros ++ "."

namespace Timestamp

/-- The days from the first of March of year 0 to a day of the calendar. Months count from March,
so that the leap day ends a year. -/
def dayNumber (year month day : Nat) : Int :=
  let y : Int := if month ≤ 2 then (year : Int) - 1 else year
  let m : Int := ((month : Int) + 9) % 12
  365 * y + y / 4 - y / 100 + y / 400 + (153 * m + 2) / 5 + (day : Int) - 1

def micros (t : Timestamp) : Int :=
  (((dayNumber t.year t.month t.day * 24 + t.hour) * 60 + t.minute) * 60 + t.second) * 1000000 +
    t.micro

/-- The year, the month and the day with a number of days since the first of March of year 0. -/
def calendarDay (n : Nat) : Nat × Nat × Nat :=
  let rest := n % 146097
  let years := (rest - rest / 1460 + rest / 36524 - rest / 146096) / 365
  let days := rest - (365 * years + years / 4 - years / 100)
  let months := (5 * days + 2) / 153
  let month := if months < 10 then months + 3 else months - 9
  let year := 400 * (n / 146097) + years + if month ≤ 2 then 1 else 0
  (year, month, days - (153 * months + 2) / 5 + 1)

def ofUnixSeconds (n : Nat) : Timestamp :=
  let (year, month, day) := calendarDay (n / 86400 + 719468)
  let n := n % 86400
  { year := year, month := month, day := day
    hour := n / 3600, minute := n / 60 % 60, second := n % 60 }

/-- The seconds from one point in time to another, as the nearest binary number. They can be
compared only if both know their distance from universal time, or neither does. -/
def secondsBetween? (start finish : Timestamp) : Option Binary64 :=
  let n := finish.micros - start.micros
  match start.offset, finish.offset with
  | none, none => some (Binary64.ofRatio (n < 0) n.natAbs 1000000)
  | some a, some b => some (Binary64.ofRatio (n - b + a < 0) (n - b + a).natAbs 1000000)
  | _, _ => none

def isLeapYear (year : Nat) : Bool := (year % 4 == 0 && year % 100 != 0) || year % 400 == 0

def daysIn (year month : Nat) : Nat :=
  if month == 2 then (if isLeapYear year then 29 else 28)
  else if [4, 6, 9, 11].contains month then 30
  else 31

def dayMicros : Nat := 86400000000

def checkDay (year month day : Nat) : Except TimestampError Unit :=
  if year < 1 || 9999 < year then .error (.year year)
  else if month < 1 || 12 < month then .error .month
  else if day < 1 || daysIn year month < day then .error .day
  else .ok ()

def checked (t : Timestamp) : Except TimestampError Timestamp := do
  let _ ← checkDay t.year t.month t.day
  if 23 < t.hour then .error .hour
  else if 59 < t.minute then .error .minute
  else if 59 < t.second then .error .second
  else .ok t

def checkOffset (micros : Int) : Except TimestampError Int :=
  if dayMicros ≤ micros.natAbs then .error (.offset micros) else .ok micros

def two (n : Nat) : List Char := Binary64.padded 2 n

def dateChars (year month day : Nat) : List Char :=
  Binary64.padded 4 year ++ '-' :: two month ++ '-' :: two day

def microChars (n : Nat) : List Char := if n == 0 then [] else '.' :: Binary64.padded 6 n

def offsetChars (micros : Int) : List Char :=
  let n := micros.natAbs
  let seconds := n / 1000000
  (if micros < 0 then '-' else '+') :: two (seconds / 3600) ++ ':' :: two (seconds / 60 % 60) ++
    (if n % 60000000 == 0 then [] else ':' :: two (seconds % 60) ++ microChars (n % 1000000))

def textWith (mark : Char) (t : Timestamp) : String :=
  String.ofList (dateChars t.year t.month t.day ++ mark ::
    two t.hour ++ ':' :: two t.minute ++ ':' :: two t.second ++ microChars t.micro ++
    (t.offset.map offsetChars).getD [])

def text (t : Timestamp) : String := t.textWith 'T'

def spaced (t : Timestamp) : String := t.textWith ' '

end Timestamp

end SchemaMigration
