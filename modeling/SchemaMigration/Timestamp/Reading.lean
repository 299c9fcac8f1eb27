import SchemaMigration.Json.Reader
import SchemaMigration.Timestamp.Basic

namespace SchemaMigration.Timestamp

def digits? (count : Nat) (s : List Char) : Option (Nat × List Char) :=
  let taken := s.take count
  if taken.length == count && taken.all Json.isDigit then
    some (Json.digitsValue taken, s.drop count)
  else none

def hasAt (s : List Char) (n : Nat) (c : Char) : Bool := s[n]? == some c

def hasDigitAt (s : List Char) (n : Nat) : Bool := (s[n]?.map Json.isDigit).getD false

/-- Where a day ends that starts with a year and the letter of weeks: the digit of the day belongs
to it if a whole number of pairs is left for the clock. -/
def weekDayEnd (s : List Char) : Nat :=
  let stop := 7 + ((s.drop 7).takeWhile Json.isDigit).length
  if stop < 9 then stop else if stop % 2 == 0 then 7 else 8

def dayLength? (s : List Char) : Option Nat :=
  if s.length < 7 then none
  else if s.length == 7 then some 7
  else if hasAt s 4 '-' then
    if hasAt s 5 'W' then
      if hasAt s 8 '-' then
        if s.length == 9 then none else if hasDigitAt s 10 then some 8 else some 10
      else some 8
    else some 10
  else if hasAt s 4 'W' then some (weekDayEnd s)
  else some 8

def firstMonday (year : Nat) : Int :=
  let first := dayNumber year 1 1
  let weekday := (first + 2) % 7
  if weekday ≤ 3 then first - weekday else first + 7 - weekday

def isLongYear (year : Nat) : Bool :=
  let weekday := (dayNumber year 1 1 + 2) % 7
  weekday == 3 || (weekday == 2 && isLeapYear year)

def ofWeek? (year week day : Nat) : Option (Nat × Nat × Nat) :=
  if week < 1 || 53 < week || (week == 53 && !isLongYear year) || day < 1 || 7 < day then none
  else if year < 1 then some (1, 0, day)
  else some (calendarDay (firstMonday year + 7 * ((week : Int) - 1) + ((day : Int) - 1)).toNat)

def afterHyphen? (hyphens : Bool) (s : List Char) : Option (List Char) :=
  match hyphens, s with
  | false, s => some s
  | true, '-' :: rest => some rest
  | true, _ => none

def day? (length : Nat) (s : List Char) : Option (Nat × Nat × Nat) := do
  let (year, rest) ← digits? 4 s
  let hyphens := rest.head? == some '-'
  let rest ← afterHyphen? hyphens rest
  match rest with
  | 'W' :: rest =>
    let (week, rest) ← digits? 2 rest
    if s.length - rest.length < length then
      let (day, _) ← digits? 1 (← afterHyphen? hyphens rest)
      ofWeek? year week day
    else ofWeek? year week 1
  | rest =>
    let (month, rest) ← digits? 2 rest
    let (day, rest) ← digits? 2 (← afterHyphen? hyphens rest)
    if s.length - rest.length == length then some (year, month, day) else none

structure Clock where
  hour : Nat := 0
  minute : Nat := 0
  second : Nat := 0
  micro : Nat := 0
  isWhole : Bool

def fraction? (s : List Char) : Option (Nat × List Char) := do
  let taken := s.take 6
  let (n, rest) ← digits? taken.length s
  some (n * pow10 (6 - taken.length), rest.dropWhile Json.isDigit)

/-- The places of a clock after those read before, the last one first, and its fraction; `follows`
tells that something follows the text. -/
def places? (follows : Bool) (colons : Bool) :
    Nat → List Nat → List Char → Option (List Nat × Nat × Bool)
  | 0, seen, s => (fraction? s).map fun (n, rest) => (seen, n, !follows && rest.isEmpty)
  | left + 1, seen, s => do
    let (n, rest) ← digits? 2 s
    let colons := if seen.isEmpty then rest.head? == some ':' else colons
    match rest with
    | [] => some (n :: seen, 0, !follows)
    | [_] => some (n :: seen, 0, false)
    | c :: more =>
      if c == ':' && colons then places? follows colons left (n :: seen) more
      else if c == '.' || c == ',' then
        (fraction? more).map fun (m, rest) => (n :: seen, m, !follows && rest.isEmpty)
      else if !colons then places? follows colons left (n :: seen) rest
      else none

def clock? (follows : Bool) (s : List Char) : Option Clock := do
  let (places, micro, isWhole) ← places? follows false 3 [] s
  match places.reverse with
  | hour :: rest =>
    some ⟨hour, rest[0]?.getD 0, rest[1]?.getD 0, micro, isWhole⟩
  | [] => none

def startsOffset (c : Char) : Bool := c == '+' || c == '-' || c == 'Z'

def offset? (s : List Char) : Option Int :=
  match s with
  | ['Z'] => some 0
  | sign :: rest => do
    if sign == 'Z' then none
    else
      let c ← clock? false rest
      let seconds := (c.hour * 60 + c.minute) * 60 + c.second
      let n : Int := if seconds == 0 then 0 else seconds * 1000000 + c.micro
      if c.isWhole then some (if sign == '-' then -n else n) else none
  | [] => none

def time? (s : List Char) : Option (Clock × Option Int) := do
  let body := s.takeWhile fun c => !startsOffset c
  let zone := s.dropWhile fun c => !startsOffset c
  let c ← clock? (!zone.isEmpty) body
  if zone.isEmpty then
    if c.isWhole then some (c, none) else none
  else
    let n ← offset? zone
    some (c, some n)

def parts? (s : List Char) : Option Timestamp := do
  let length ← dayLength? s
  let (year, month, day) ← day? length s
  match s.drop length with
  | [] => some { year := year, month := month, day := day }
  | _ :: rest =>
    let (c, offset) ← time? rest
    some {
      year := year
      month := month
      day := day
      hour := c.hour
      minute := c.minute
      second := c.second
      micro := c.micro
      offset := offset }

def ofText (s : String) : Except TimestampError Timestamp :=
  match parts? s.toList with
  | none => .error (.unreadable s)
  | some t => do
    if let some micros := t.offset then
      let _ ← checkOffset micros
    t.checked

end SchemaMigration.Timestamp
