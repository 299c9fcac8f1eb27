import SchemaMigration.Sqlite.Format
import SchemaMigration.Timestamp.Basic

namespace SchemaMigration.Sqlite

structure CalendarDay where
  year : Int
  month : Nat
  day : Nat
  deriving DecidableEq, Repr

structure TimeOfDay where
  hour : Nat := 0
  minute : Nat := 0
  second : Binary64 := .zero false
  deriving DecidableEq, Repr

structure Moment where
  instant : Option Int := none
  day : Option CalendarDay := none
  time : Option TimeOfDay := none
  offset : Int := 0
  bare : Option Binary64 := none
  surplus : Int := 0
  showsMillis : Bool := false
  isUniversal : Bool := false
  isLocal : Bool := false
  deriving Repr

namespace CalendarDay

/-- The number of a day in the julian count. The years count from March, and a century loses a leap
day unless the century's number is one of every four. -/
def julian (d : CalendarDay) : Int :=
  let year := if d.month ≤ 2 then d.year - 1 else d.year
  let month : Int := if d.month ≤ 2 then d.month + 12 else d.month
  let century := year.tdiv 100
  36525 * (year + 4716) / 100 + 306001 * (month + 1) / 10000 + d.day + 2 - century +
    century.tdiv 4 - 1524

def ofJulian (n : Int) : CalendarDay :=
  let century := (4 * n - 7468865).tdiv 146097
  let moved := n + 1 + century - century.tdiv 4 + 1524
  let year := (20 * moved - 2442) / 7305
  let rest := moved - 36525 * year / 100
  let month := 10000 * rest / 306001
  let named := if month < 14 then month - 1 else month - 13
  ⟨if 2 < named then year - 4716 else year - 4715, named.toNat,
    (rest - 306001 * month / 10000).toNat⟩

def isLeap (year : Int) : Bool := (year % 4 == 0 && year % 100 != 0) || year % 400 == 0

def surplus (d : CalendarDay) : Int :=
  let last := if d.month == 2 then (if isLeap d.year then 29 else 28)
    else if [4, 6, 9, 11].contains d.month then 30 else 31
  max 0 ((d.day : Int) - last)

def addMonths (d : CalendarDay) (n : Int) : CalendarDay :=
  let months := (d.month : Int) - 1 + n
  { d with year := d.year + months.fdiv 12, month := (months.fmod 12).toNat + 1 }

def isTold (d : CalendarDay) : Bool := -4713 ≤ d.year && d.year ≤ 9999

end CalendarDay

namespace Moment

def dayMillis : Int := 86400000

def noon : Int := 43200000

def epoch : Int := 210866760000000

def isValid (instant : Int) : Bool := 0 ≤ instant && instant ≤ 464269060799999

def whole (x : Binary64) : Int := Cell.cutReal x

def real (n : Int) : Binary64 := Binary64.ofInt n

def half : Binary64 := .ofRatio false 1 2

def ratio (x : Binary64) (n : Int) : Binary64 := (x.div? (real n)).getD .nan

def millisOf (t : TimeOfDay) : Int :=
  (t.hour : Int) * 3600000 + t.minute * 60000 + whole ((t.second.mul (real 1000)).add half)

/-- The instant that is told. A time of day by itself belongs to the first day of the year 2000. -/
def settled? (m : Moment) : Option Moment :=
  match m.instant, m.bare with
  | some _, _ => some m
  | none, some _ => none
  | none, none =>
    let d := m.day.getD ⟨2000, 1, 1⟩
    if !d.isTold then none
    else
      let start := d.julian * dayMillis - noon
      match m.time with
      | none => some { m with instant := some start }
      | some t =>
        let told := start + millisOf t
        some (if m.offset == 0 then { m with instant := some told }
          else { m with
            instant := some (told - m.offset * 60000), day := none, time := none, offset := 0
            isUniversal := true, isLocal := false })

def withDay? (m : Moment) : Option Moment :=
  match m.day, m.instant with
  | some _, _ => some m
  | none, none => some { m with day := some ⟨2000, 1, 1⟩ }
  | none, some n =>
    if isValid n then some { m with day := some (.ofJulian ((n + noon) / dayMillis)) } else none

def withTime? (m : Moment) : Option Moment :=
  match m.time with
  | some _ => some m
  | none => do
    let m ← m.settled?
    let n ← m.instant
    let millis := ((n + noon) % dayMillis).toNat
    some { m with
      bare := none
      time := some ⟨millis / 3600000, millis / 60000 % 60, ratio (real (millis % 60000)) 1000⟩ }

def whole? (m : Moment) : Option Moment := m.withDay?.bind withTime?

def onlyInstant (m : Moment) : Moment := { m with day := none, time := none, offset := 0 }

def moved? (m : Moment) (millis : Int) : Option Moment := do
  let m ← m.settled?
  let n ← m.instant
  some { m.onlyInstant with instant := some (n + millis) }

def ofNumber (x : Binary64) : Moment :=
  let isDay := x.compare? (Binary64.zero false) != some .lt &&
    x.compare? (Binary64.ofRatio false 53734845 10) == some .lt
  { bare := some x
    instant :=
      if isDay then some (whole ((x.mul (real dayMillis)).add half)) else none }

def ofTimestamp (t : Timestamp) : Moment :=
  { instant := some ((CalendarDay.mk t.year t.month t.day).julian * dayMillis - noon +
      ((t.hour * 60 + t.minute) * 60 + t.second) * 1000 + t.micro / 1000)
    isUniversal := true }

def number? (count least greatest : Nat) (s : List Char) : Option (Nat × List Char) :=
  let digits := s.take count
  let n := Json.digitsValue digits
  if digits.length == count && digits.all Json.isDigit && least ≤ n && n ≤ greatest then
    some (n, s.drop count)
  else none

def mark? (c : Char) : List Char → Option (List Char)
  | d :: rest => if c == d then some rest else none
  | [] => none

def hourMinute? (greatest : Nat) (s : List Char) : Option (Nat × Nat × List Char) := do
  let (hour, s) ← number? 2 0 greatest s
  let s ← mark? ':' s
  let (minute, s) ← number? 2 0 59 s
  some (hour, minute, s)

def fraction (digits : List Char) : Binary64 :=
  let (n, scale) := digits.foldl (fun (n, scale) c =>
    ((n.mul (real 10)).add (real (Json.digitsValue [c])), scale.mul (real 10)))
    (Binary64.zero false, real 1)
  (n.div? scale).getD .nan

def seconds? (s : List Char) : Option (Binary64 × List Char) :=
  match s with
  | ':' :: rest => do
    let (n, rest) ← number? 2 0 59 rest
    match rest with
    | '.' :: d :: _ =>
      if Json.isDigit d then
        let digits := (rest.drop 1).takeWhile Json.isDigit
        some ((real n).add (fraction digits), rest.drop (digits.length + 1))
      else some (real n, rest)
    | _ => some (real n, rest)
  | s => some (.zero false, s)

def timeOf? (s : List Char) : Option Moment := do
  let (hour, minute, s) ← hourMinute? 24 s
  let (second, s) ← seconds? s
  let m : Moment := { time := some ⟨hour, minute, second⟩ }
  match s.dropWhile Cell.isSpace with
  | [] => some m
  | c :: rest =>
    if c == 'Z' || c == 'z' then
      if rest.all Cell.isSpace then some { m with isUniversal := true } else none
    else if c == '+' || c == '-' then do
      let (h, n, rest) ← hourMinute? 14 rest
      let minutes : Int := h * 60 + n
      if rest.all Cell.isSpace then
        some { m with offset := if c == '-' then -minutes else minutes }
      else none
    else none

def dayOf? (s : List Char) : Option (CalendarDay × List Char) := do
  let (negative, s) := match s with
    | '-' :: rest => (true, rest)
    | s => (false, s)
  let (year, s) ← number? 4 0 14712 s
  let s ← mark? '-' s
  let (month, s) ← number? 2 1 12 s
  let s ← mark? '-' s
  let (day, s) ← number? 2 1 31 s
  some (⟨if negative then -(year : Int) else year, month, day⟩, s)

def dated? (s : List Char) : Option Moment := do
  let (d, s) ← dayOf? s
  let rest := s.dropWhile fun c => Cell.isSpace c || c == 'T'
  let m ← if rest.isEmpty then some {} else timeOf? rest
  let m := { m with day := some d, surplus := d.surplus }
  if m.offset == 0 then some m else m.settled?

def isWord (s : String) (word : String) : Bool := s.toLower == word

def ofText? (now : Moment) (s : String) : Option Moment :=
  let chars := s.toList
  match dated? chars, timeOf? chars with
  | some m, _ => some m
  | none, some m => some m
  | none, none =>
    if isWord s "now" then some now
    else
      match Cell.numberOf? s with
      | some c => some (ofNumber c.toReal)
      | none =>
        if isWord s "subsec" || isWord s "subsecond" then some { now with showsMillis := true }
        else none

end Moment

end SchemaMigration.Sqlite
