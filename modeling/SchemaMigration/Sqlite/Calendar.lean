import SchemaMigration.Sqlite.Moment

namespace SchemaMigration.Sqlite.Moment

def units : List (String × Nat × Nat) := [
  ("second", 464270000000000, 1), ("minute", 7737900000000, 60), ("hour", 128970000000, 3600),
  ("day", 5373485, 86400), ("month", 176546, 2592000), ("year", 14713, 31536000)]

def ofSeconds? (m : Moment) : Option Moment := do
  let x ← m.bare
  let n := (x.mul (real 1000)).add (real epoch)
  if n.compare? (real 0) != some .lt && n.compare? (real 464269060800000) == some .lt then
    some { m.onlyInstant with bare := none, instant := some (whole (n.add half)) }
  else none

/-- A bare number as days if it is one, else as seconds up to the last one that is told. -/
def adjusted (m : Moment) : Moment :=
  match m.instant, m.bare with
  | none, some x => if x.compare? (real 253402300799) == some .gt then m else m.ofSeconds?.getD m
  | _, _ => { m with bare := none }

def onWeekday? (m : Moment) (text : String) : Option Moment := do
  let c ← Cell.numberOf? text
  let x := c.toReal
  let n := whole x
  if x.compare? (real n) != some .eq || n < 0 || 6 < n then none
  else
    let m ← m.whole?
    let m ← { m with offset := 0, instant := none, bare := none : Moment }.settled?
    let at_ ← m.instant
    let day := (at_ + 129600000) / dayMillis % 7
    m.moved? ((n - (if n < day then day - 7 else day)) * dayMillis)

def startOf? (m : Moment) (unit : String) : Option Moment := do
  if m.instant.isNone && m.day.isNone && m.time.isNone then none
  let m ← m.withDay?
  let d ← m.day
  let d ←
    if isWord unit "month" then some { d with day := 1 }
    else if isWord unit "year" then some { d with month := 1, day := 1 }
    else if isWord unit "day" then some d
    else none
  some { m with day := some d, time := some {}, bare := none, offset := 0, instant := none }

def inMonth? (m : Moment) (months : Int) : Option Moment := do
  let m ← m.whole?
  let d ← m.day
  let d := d.addMonths months
  { m with day := some d, surplus := d.surplus, instant := none : Moment }.settled?

def later? (m : Moment) (x : Binary64) (unit : String) : Option Moment := do
  let m ← m.settled?
  let m := { m with surplus := 0 }
  let unit := if unit.toLower.endsWith "s" then (unit.toLower.dropEnd 1).toString else unit.toLower
  let (limit, seconds) ← units.lookup unit
  if x.compare? (real limit) != some .lt || x.compare? (real (-limit)) != some .gt then none
  else
    let n := whole x
    let rounder := if x.compare? (real 0) == some .lt then half.neg else half
    let (m, x) ←
      if unit == "month" then (m.inMonth? n).map fun m => (m, x.sub (real n))
      else if unit == "year" then (m.inMonth? (12 * n)).map fun m => (m, x.sub (real n))
      else some (m, x)
    m.moved? (whole (((x.mul (real 1000)).mul (real seconds)).add rounder))

def byTime? (m : Moment) (negative : Bool) (s : List Char) : Option Moment := do
  let t ← timeOf? s
  let t ← t.settled?
  let n ← t.instant
  let rest := (n - noon).tmod dayMillis
  m.moved? (if negative then -rest else rest)

def span? (s : List Char) : Option (Nat × Nat × Nat × List Char) := do
  let (years, s) ← (number? 5 0 14712 s).orElse fun _ => number? 4 0 14712 s
  let s ← mark? '-' s
  let (months, s) ← number? 2 0 11 s
  let s ← mark? '-' s
  let (days, s) ← number? 2 0 30 s
  some (years, months, days, s)

def bySpan? (m : Moment) (negative : Bool) (s : List Char) : Option Moment := do
  let (years, months, days, rest) ← span? s
  let sign : Int := if negative then -1 else 1
  let m ← m.inMonth? (sign * (12 * years + months))
  let m ← m.moved? (sign * days * dayMillis)
  match rest with
  | [] => some m
  | c :: rest =>
    if Cell.isSpace c && (hourMinute? 24 rest).isSome then m.byTime? negative rest else none

def byCount? (m : Moment) (s : List Char) : Option Moment := do
  let signed := s.head? == some '+' || s.head? == some '-'
  let negative := s.head? == some '-'
  let body := if signed then s.drop 1 else s
  let isSpan := signed && ((number? 4 0 14712 body).bind fun (_, r) => mark? '-' r).isSome ||
    signed && ((number? 5 0 14712 body).bind fun (_, r) => mark? '-' r).isSome
  if isSpan then m.bySpan? negative body
  else
    let size := 1 + ((s.drop 1).takeWhile fun c => c != ':' && !Cell.isSpace c).length
    let c ← Cell.numberOf? (String.ofList (s.take size))
    let rest := s.drop size
    if rest.head? == some ':' then m.byTime? negative body
    else
      let unit := rest.dropWhile Cell.isSpace
      if unit.length < 3 || 10 < unit.length then none
      else m.later? c.toReal (String.ofList unit)

def millennium : Int := 211813444800000

def changed? (m : Moment) (isFirst : Bool) (change : String) : Option Moment :=
  let word := change.toLower
  match change.toList with
  | [] => none
  | c :: _ =>
    if word == "auto" then (if isFirst then some m.adjusted else none)
    else if word == "ceiling" then
      m.settled?.map fun m => { m.onlyInstant with surplus := 0 }
    else if word == "floor" then m.settled?.bind fun m => m.moved? (-m.surplus * dayMillis)
    else if word == "julianday" then
      if isFirst && m.instant.isSome && m.bare.isSome then some { m with bare := none } else none
    else if word == "unixepoch" then
      if isFirst then m.ofSeconds? else none
    else if word == "localtime" then
      if m.isLocal then some { m with isUniversal := false }
      else
        let there := (m.moved? 0).getD { instant := some millennium, showsMillis := m.showsMillis }
        some { there with isUniversal := false, isLocal := true, bare := none }
    else if word == "utc" then
      if m.isUniversal then some m
      else some { instant := some ((m.settled?.bind Moment.instant).getD 0), isUniversal := true }
    else if "weekday ".toList.isPrefixOf word.toList then m.onWeekday? (change.drop 8).toString
    else if "start of ".toList.isPrefixOf word.toList then m.startOf? (change.drop 9).toString
    else if word == "subsec" || word == "subsecond" then some { m with showsMillis := true }
    else if c == '+' || c == '-' || Json.isDigit c then m.byCount? change.toList
    else none

def changedBy? : Bool → Moment → List Cell → Option Moment
  | _, m, [] => some m
  | isFirst, m, c :: rest =>
    if c.isNull then none
    else (m.changed? isFirst (String.ofList c.chars)).bind fun m => changedBy? false m rest

def ofCells? (now : Moment) (cells : List Cell) : Option Moment := do
  let m ←
    match cells.head? with
    | none => some now
    | some (.int n) => some (ofNumber (real n))
    | some (.real x) => some (ofNumber x)
    | some .null => none
    | some c => ofText? now (String.ofList c.chars)
  let m ← changedBy? true m (cells.drop 1)
  let m ← m.settled?
  let n ← m.instant
  if !isValid n then none
  else if cells.length == 1 && (m.day.map fun d => decide (28 < d.day)).getD false then
    some { m with day := none }
  else some m

def padded (fill : Char) (width : Nat) (n : Int) : List Char :=
  let d : Directive := { width := width, zeros := fill == '0' }
  d.placed (Format.signedChars d false (fun _ => []) n).length
    (Format.signedChars d false (fun _ => []) n)

def two (n : Int) : List Char := padded '0' 2 n

def secondChars (m : Moment) (x : Binary64) : List Char :=
  if m.showsMillis then
    let n := whole ((x.mul (real 1000)).add half)
    two (n / 1000 % 100) ++ '.' :: padded '0' 3 (n % 1000)
  else two (whole x % 100)

def dateChars (d : CalendarDay) : List Char :=
  (if d.year < 0 then ['-'] else []) ++ padded '0' 4 d.year.natAbs ++ '-' :: two d.month ++
    '-' :: two d.day

def timeChars (m : Moment) (t : TimeOfDay) : List Char :=
  two t.hour ++ ':' :: two t.minute ++ ':' :: m.secondChars t.second

def thousandths (x : Binary64) : List Char :=
  let d : Directive := { zeros := true, width := 6, precision := some 3 }
  d.realChars .fixed false x

def dayOfYear (instant year : Int) (t : TimeOfDay) : Int :=
  (instant + 2 * noon - (⟨year, 1, 1⟩ : CalendarDay).julian * dayMillis - millisOf t) / dayMillis

def afterMonday (instant : Int) : Int := (instant + noon) / dayMillis % 7

def afterSunday (instant : Int) : Int := (instant + 129600000) / dayMillis % 7

def thursday (instant : Int) : Int × Int :=
  let there := instant + (3 - afterMonday instant) * dayMillis
  (there, (CalendarDay.ofJulian ((there + noon) / dayMillis)).year)

def twelfth (hour : Nat) : Int :=
  let h := if 12 < hour then hour - 12 else hour
  if h == 0 then 12 else h

def letter? (m : Moment) (n : Int) (d : CalendarDay) (t : TimeOfDay) : Char → Option (List Char)
  | 'd' => some (two d.day)
  | 'e' => some (padded ' ' 2 d.day)
  | 'f' =>
    let greatest := Binary64.ofRatio false 59999 1000
    some (thousandths (if t.second.compare? greatest == some .gt then greatest else t.second))
  | 'F' => some (padded '0' 4 d.year ++ '-' :: two d.month ++ '-' :: two d.day)
  | 'G' => some (padded '0' 4 (thursday n).2)
  | 'g' => some (two ((thursday n).2.tmod 100))
  | 'H' => some (two t.hour)
  | 'k' => some (padded ' ' 2 t.hour)
  | 'I' => some (two (twelfth t.hour))
  | 'l' => some (padded ' ' 2 (twelfth t.hour))
  | 'j' => some (padded '0' 3 (dayOfYear n d.year t + 1))
  | 'J' =>
    let d : Directive := { precision := some 16 }
    some (d.realChars .general false (ratio (real n) dayMillis))
  | 'm' => some (two d.month)
  | 'M' => some (two t.minute)
  | 'p' => some (if 12 ≤ t.hour then ['P', 'M'] else ['A', 'M'])
  | 'P' => some (if 12 ≤ t.hour then ['p', 'm'] else ['a', 'm'])
  | 'R' => some (two t.hour ++ ':' :: two t.minute)
  | 's' =>
    let d : Directive := { precision := some 3 }
    some (if m.showsMillis then d.realChars .fixed false (ratio (real (n - epoch)) 1000)
      else (toString (n / 1000 - epoch / 1000)).toList)
  | 'S' => some (two (whole t.second))
  | 'T' => some (two t.hour ++ ':' :: two t.minute ++ ':' :: two (whole t.second))
  | 'u' => some (toString (if afterSunday n == 0 then 7 else afterSunday n)).toList
  | 'w' => some (toString (afterSunday n)).toList
  | 'U' => some (two ((dayOfYear n d.year t - afterSunday n + 7) / 7))
  | 'V' => some (two (dayOfYear (thursday n).1 (thursday n).2 t / 7 + 1))
  | 'W' => some (two ((dayOfYear n d.year t - afterMonday n + 7) / 7))
  | 'Y' => some (padded '0' 4 d.year)
  | '%' => some ['%']
  | _ => none

def patterned? (m : Moment) (n : Int) (d : CalendarDay) (t : TimeOfDay) :
    List Char → Option (List Char)
  | [] => some []
  | '%' :: c :: rest => do
    let written ← m.letter? n d t c
    let more ← patterned? m n d t rest
    some (written ++ more)
  | ['%'] => none
  | c :: rest => (patterned? m n d t rest).map (c :: ·)

def onDay? (m : Moment) (d : CalendarDay) : Option Moment :=
  if m.day == some d then some m else { m with day := some d, instant := none : Moment }.settled?

/-- The span between two points in time, the second one moved to a day: years, months, and what is
left. -/
def spanFrom? (one other : Moment) (isBack : Bool) :
    Nat → Int → Int → CalendarDay → Option (Int × Int × Int)
  | 0, _, _, _ => none
  | fuel + 1, years, months, day => do
    let moved ← other.onDay? day
    let a ← one.instant
    let b ← moved.instant
    if if isBack then decide (b < a) else decide (a < b) then
      let (years, months) := if months == 0 then (years - 1, 11) else (years, months - 1)
      spanFrom? one moved isBack fuel years months (day.addMonths (if isBack then 1 else -1))
    else some (years, months, if isBack then b - a else a - b)

def difference? (a b : Moment) : Option (List Char) := do
  let a ← a.whole?
  let b ← b.whole?
  let m ← a.instant
  let n ← b.instant
  let d ← a.day
  let e ← b.day
  let isBack := m < n
  let years := if isBack then e.year - d.year else d.year - e.year
  let months : Int := if isBack then (e.month : Int) - d.month else (d.month : Int) - e.month
  let (years, months) := if months < 0 then (years - 1, months + 12) else (years, months)
  let (years, months, rest) ←
    spanFrom? a b isBack 30 years months { e with year := d.year, month := d.month }
  let left ← { instant := some (rest + 148699540800000) : Moment }.whole?
  let day ← left.day
  let time ← left.time
  some ((if isBack then '-' else '+') :: padded '0' 4 years ++ '-' :: two months ++
    '-' :: two ((day.day : Int) - 1) ++ ' ' :: two time.hour ++ ':' :: two time.minute ++
    ':' :: thousandths time.second)

end Moment

namespace Calendar

def functions : List String :=
  ["date", "time", "datetime", "julianday", "unixepoch", "strftime", "timediff"]

def text (s : List Char) : Cell := .text (String.ofList s)

def written? (name : String) (m : Moment) : Option Cell := do
  let m ← m.settled?
  let n ← m.instant
  match name with
  | "julianday" => some (.real (Moment.ratio (Moment.real n) Moment.dayMillis))
  | "unixepoch" =>
    some (if m.showsMillis then .real (Moment.ratio (Moment.real (n - Moment.epoch)) 1000)
      else .int (n / 1000 - Moment.epoch / 1000))
  | "date" =>
    let m ← m.withDay?
    let d ← m.day
    some (text (Moment.dateChars d))
  | "time" =>
    let m ← m.withTime?
    let t ← m.time
    some (text (m.timeChars t))
  | _ =>
    let m ← m.whole?
    let d ← m.day
    let t ← m.time
    some (text (Moment.dateChars d ++ ' ' :: m.timeChars t))

def formatted? (pattern : Cell) (m : Moment) : Option Cell := do
  let m ← m.settled?
  let n ← m.instant
  let m ← m.whole?
  let d ← m.day
  let t ← m.time
  let s ← m.patterned? n d t pattern.chars
  some (text s)

def apply (now : Moment) (name : String) (cells : List Cell) : Cell :=
  let found : Option Cell :=
    match name, cells with
    | "strftime", pattern :: rest =>
      if pattern.isNull then none else (Moment.ofCells? now rest).bind (formatted? pattern)
    | "strftime", [] => none
    | "timediff", [a, b] => do
      let a ← Moment.ofCells? now [a]
      let b ← Moment.ofCells? now [b]
      let s ← a.difference? b
      some (text s)
    | _, cells => (Moment.ofCells? now cells).bind (written? name)
  found.getD .null

end Calendar

end SchemaMigration.Sqlite
