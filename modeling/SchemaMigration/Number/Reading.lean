import SchemaMigration.Json.Reader
import SchemaMigration.Text.Blank
import SchemaMigration.Text.ClassTable
import SchemaMigration.Text.Quoted

namespace SchemaMigration

inductive NumberError
  | notWhole (base : Nat) (text : String)
  | long (digits : Nat)
  | notPointed (text : String)
  deriving DecidableEq, Repr

def longText : String :=
  "Exceeds the limit (" ++ toString Json.greatestLength ++ " digits) for integer string conversion"

def longEnd : String := "; use sys.set_int_max_str_digits() to increase the limit"

def longMessage (digits : Nat) : String :=
  longText ++ ": value has " ++ toString digits ++ " digits" ++ longEnd

def NumberError.message : NumberError → String
  | .notWhole base text =>
    "invalid literal for int() with base " ++ toString base ++ ": " ++
      String.ofList ((Text.quotedChars text.toList).take 200)
  | .long digits => longMessage digits
  | .notPointed text => "could not convert string to float: " ++ Text.quoted text

namespace Number

def isMargin (c : Char) : Bool := Text.isBlank c && !(0x1C ≤ c.toNat && c.toNat ≤ 0x1F)

def trimMargins (s : List Char) : List Char :=
  ((s.dropWhile isMargin).reverse.dropWhile isMargin).reverse

def plainDigit (c : Char) : Char :=
  if c.toNat < 0x80 then c
  else
    match Text.decimalZeros.find? fun start => start ≤ c.toNat && c.toNat < start + 10 with
    | some start => Char.ofNat (0x30 + (c.toNat - start))
    | none => c

def ungroup? (afterDigit : Bool) : List Char → Option (List Char)
  | [] => some []
  | '_' :: c :: rest =>
    if afterDigit && Json.isDigit c then (ungroup? true rest).map (c :: ·) else none
  | ['_'] => none
  | c :: rest => (ungroup? (Json.isDigit c) rest).map (c :: ·)

def plain? (s : String) : Option (List Char) :=
  ungroup? false ((trimMargins s.toList).map plainDigit)

def sign : List Char → Bool × List Char
  | '-' :: rest => (true, rest)
  | '+' :: rest => (false, rest)
  | s => (false, s)

def signed (negative : Bool) (n : Nat) : Int := if negative then -n else n

def wholeOf? (s : List Char) : Option Int :=
  let (negative, digits) := sign s
  if digits.isEmpty || !digits.all Json.isDigit || Json.greatestLength < digits.length then none
  else some (signed negative (Json.digitsValue digits))

def ofWhole? (s : String) : Option Int := (plain? s).bind wholeOf?

def digitIn? (base : Nat) (c : Char) : Option Nat :=
  (Json.hexValue? c).bind fun n => if n < base then some n else none

def baseLetter? (base : Nat) : Option Char :=
  if base == 2 then some 'b' else if base == 8 then some 'o' else if base == 16 then
    some 'x' else none

def unannounced (base : Nat) (s : List Char) : Bool × List Char :=
  match s with
  | '0' :: letter :: rest =>
    if baseLetter? base == some letter.toLower then (true, rest) else (false, s)
  | _ => (false, s)

def digitRun (base : Nat) (afterDigit : Bool) : List Char → List Nat × List Char
  | [] => ([], [])
  | c :: rest =>
    match digitIn? base c, rest.head?.bind (digitIn? base) with
    | some d, _ =>
      let (ds, rest) := digitRun base true rest
      (d :: ds, rest)
    | none, some _ => if c == '_' && afterDigit then digitRun base false rest else ([], c :: rest)
    | none, none => ([], c :: rest)

/-- The whole number that a text writes in a base. Only in base ten the number of digits has a
limit. -/
def ofBase (base : Nat) (text : String) : Except NumberError Int :=
  let (negative, body) := sign ((trimMargins text.toList).map plainDigit)
  let (isAnnounced, body) := unannounced base body
  let (digits, rest) := digitRun base isAnnounced body
  if rest.head? == some '_' then .error (.notWhole base text)
  else if base == 10 && Json.greatestLength < digits.length then .error (.long digits.length)
  else if digits.isEmpty || !rest.isEmpty then .error (.notWhole base text)
  else .ok (signed negative (digits.foldl (fun n d => n * base + d) 0))

def exponentOf? : List Char → Option Int
  | [] => some 0
  | e :: rest =>
    if e == 'e' || e == 'E' then
      let (negative, digits) := sign rest
      if digits.isEmpty || !digits.all Json.isDigit then none
      else some (signed negative (Json.digitsValue digits))
    else none

def pointedOf? (s : List Char) : Option Binary64 := do
  let (negative, body) := sign s
  let whole := body.takeWhile Json.isDigit
  let (fraction, rest) :=
    match body.dropWhile Json.isDigit with
    | '.' :: more => (more.takeWhile Json.isDigit, more.dropWhile Json.isDigit)
    | rest => ([], rest)
  if (whole ++ fraction).isEmpty then none
  else
    let exponent ← exponentOf? rest
    some (Binary64.ofDecimal negative (Json.digitsValue (whole ++ fraction))
      (exponent - fraction.length))

def ofPointed? (s : String) : Option Binary64 := (plain? s).bind pointedOf?

def wordOf? (s : List Char) : Option Binary64 :=
  let (negative, body) := sign s
  let word := (String.ofList body).toLower
  if word == "inf" || word == "infinity" then some (.infinite negative)
  else if word == "nan" then some .nan
  else none

def ofBinary (text : String) : Except NumberError Binary64 :=
  match (plain? text).bind fun s => (pointedOf? s).orElse fun _ => wordOf? s with
  | some x => .ok x
  | none => .error (.notPointed text)

end Number

end SchemaMigration
