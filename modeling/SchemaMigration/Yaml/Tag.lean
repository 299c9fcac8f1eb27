import SchemaMigration.Number.Reading
import SchemaMigration.Text.Split
import SchemaMigration.Timestamp.Basic

namespace SchemaMigration.Yaml

inductive Tag
  | null
  | bool
  | int
  | float
  | binary
  | timestamp
  | text
  | sequence
  | mapping
  | orderedMapping
  | pairs
  | set
  | merge
  | default
  | unknown
  deriving DecidableEq, Repr

namespace Tag

def space : String := "tag:yaml.org,2002:"

def names : List (String × Tag) := [
  ("null", .null), ("bool", .bool), ("int", .int), ("float", .float), ("binary", .binary),
  ("timestamp", .timestamp), ("str", .text), ("seq", .sequence), ("map", .mapping),
  ("omap", .orderedMapping), ("pairs", .pairs), ("set", .set), ("merge", .merge),
    ("value", .default)]

def ofName (name : String) : Tag :=
  if space.toList.isPrefixOf name.toList then
    (names.lookup (String.ofList (name.toList.drop space.length))).getD .unknown
  else .unknown

def nullWords : List String := ["~", "null", "Null", "NULL"]

def boolWords : List String :=
  ["yes", "Yes", "YES", "no", "No", "NO", "true", "True", "TRUE", "false", "False", "FALSE", "on",
    "On", "ON", "off", "Off", "OFF"]

def infinityWords : List String := [".inf", ".Inf", ".INF"]

def nanWords : List String := [".nan", ".NaN", ".NAN"]

def isOctal (c : Char) : Bool := '0' ≤ c && c ≤ '7'

def isBinary (c : Char) : Bool := c == '0' || c == '1'

def isHex (c : Char) : Bool := (Json.hexValue? c).isSome

def isRun (isMember : Char → Bool) (s : List Char) : Bool :=
  !s.isEmpty && s.all fun c => isMember c || c == '_'

def isNumeral (isFirst : Char → Bool) (s : List Char) : Bool :=
  (s.head?.map isFirst).getD false && isRun Json.isDigit s

def isAboveZero (c : Char) : Bool := '1' ≤ c && c ≤ '9'

def isSixtieth (s : List Char) : Bool :=
  match s with
  | [c] => Json.isDigit c
  | [c, d] => '0' ≤ c && c ≤ '5' && Json.isDigit d
  | _ => false

def areSixtieths (isFirst : Char → Bool) (s : List Char) : Bool :=
  match Text.splitOn ':' s with
  | first :: second :: rest => isNumeral isFirst first && (second :: rest).all isSixtieth
  | _ => false

def isInt (s : List Char) : Bool :=
  let body := (Number.sign s).2
  match body with
  | '0' :: 'b' :: digits => isRun isBinary digits
  | '0' :: 'x' :: digits => isRun isHex digits
  | ['0'] => true
  | '0' :: digits => isRun isOctal digits
  | _ => isNumeral isAboveZero body || areSixtieths isAboveZero body

def isExponent (s : List Char) : Bool :=
  match s with
  | [] => true
  | e :: mark :: digits =>
    (e == 'e' || e == 'E') && (mark == '-' || mark == '+') && !digits.isEmpty &&
      digits.all Json.isDigit
  | _ => false

def isPlace (c : Char) : Bool := Json.isDigit c || c == '_'

def isPointed (isSigned : Bool) (s : List Char) : Bool :=
  let whole := s.takeWhile isPlace
  match s.dropWhile isPlace with
  | '.' :: rest =>
    let fraction := rest.takeWhile isPlace
    (isNumeral Json.isDigit whole ||
        (whole.isEmpty && !isSigned && isNumeral Json.isDigit fraction)) &&
      isExponent (rest.dropWhile isPlace)
  | _ => false

def arePointedSixtieths (s : List Char) : Bool :=
  match s.dropWhile (· != '.') with
  | '.' :: fraction => areSixtieths Json.isDigit (s.takeWhile (· != '.')) && fraction.all isPlace
  | _ => false

def isFloat (s : List Char) : Bool :=
  let body := (Number.sign s).2
  isPointed (body.length != s.length) body || arePointedSixtieths body ||
    infinityWords.contains (String.ofList body) || nanWords.contains (String.ofList s)

structure WrittenTime where
  hour : Nat
  minute : Nat
  second : Nat
  fraction : List Char
  offset : Option Int

structure WrittenDay where
  year : Nat
  month : Nat
  day : Nat
  isFull : Bool
  time : Option WrittenTime

def short? (s : List Char) : Option (Nat × List Char) :=
  let digits := (s.take 2).takeWhile Json.isDigit
  if digits.isEmpty then none else some (Json.digitsValue digits, s.drop digits.length)

def fixed? (length : Nat) (s : List Char) : Option (Nat × List Char) :=
  let digits := s.take length
  if digits.length == length && digits.all Json.isDigit then
    some (Json.digitsValue digits, s.drop length)
  else none

def after? (mark : Char) (s : List Char) : Option (List Char) :=
  match s with
  | c :: rest => if c == mark then some rest else none
  | [] => none

def isBlankInLine (c : Char) : Bool := c == ' ' || c == '\t'

def offset? (s : List Char) : Option (Option Int) :=
  match s, s.dropWhile isBlankInLine with
  | [], _ => some none
  | _, ['Z'] => some (some 0)
  | _, mark :: rest => do
    if mark != '-' && mark != '+' then none
    else
      let (hours, rest) ← short? rest
      let minutes ←
        match rest with
        | [] => some 0
        | _ => do
          let (minutes, rest) ← (after? ':' rest).bind (fixed? 2)
          if rest.isEmpty then some minutes else none
      some (some (Number.signed (mark == '-') (hours * 60 + minutes)))
  | _, [] => none

def timeMark? (s : List Char) : Option (List Char) :=
  match s with
  | 'T' :: rest => some rest
  | 't' :: rest => some rest
  | c :: rest => if isBlankInLine c then some (rest.dropWhile isBlankInLine) else none
  | [] => none

def writtenTime? (s : List Char) : Option WrittenTime := do
  let (hour, rest) ← short? s
  let (minute, rest) ← (after? ':' rest).bind (fixed? 2)
  let (second, rest) ← (after? ':' rest).bind (fixed? 2)
  let (fraction, rest) :=
    match rest with
    | '.' :: more => (more.takeWhile Json.isDigit, more.dropWhile Json.isDigit)
    | _ => ([], rest)
  let offset ← offset? rest
  some ⟨hour, minute, second, fraction, offset⟩

def writtenDay? (s : List Char) : Option WrittenDay := do
  let (year, rest) ← fixed? 4 s
  let monthText ← after? '-' rest
  let (month, rest) ← short? monthText
  let dayText ← after? '-' rest
  let (day, rest) ← short? dayText
  let isFull := monthText.length - dayText.length == 3 && dayText.length - rest.length == 2
  if rest.isEmpty then some ⟨year, month, day, isFull, none⟩
  else
    let time ← (timeMark? rest).bind writtenTime?
    some ⟨year, month, day, isFull, some time⟩

def isTimestamp (s : List Char) : Bool :=
  match writtenDay? s with
  | some d => d.isFull || d.time.isSome
  | none => false

def withoutBreak (s : List Char) : List Char := if s.getLast? == some '\n' then s.dropLast else s

def ofPlain (s : List Char) : Tag :=
  let body := withoutBreak s
  let word := String.ofList body
  if s.isEmpty || nullWords.contains word then .null
  else if boolWords.contains word then .bool
  else if isFloat body then .float
  else if isInt body then .int
  else if word == "<<" then .merge
  else if isTimestamp body then .timestamp
  else if word == "=" then .default
  else .text

end Tag

end SchemaMigration.Yaml
