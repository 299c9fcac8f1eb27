import SchemaMigration.Number.Reading
import SchemaMigration.Sqlite.Directive
import SchemaMigration.Text.Split
import SchemaMigration.Text.Utf8

namespace SchemaMigration.Sqlite

inductive Cell
  | null
  | int (n : Int)
  | real (x : Binary64)
  | text (s : String)
  | bytes (content : List Nat)
  deriving DecidableEq, Repr, Inhabited

namespace Cell

def intLimit : Int := 9223372036854775808

def isInt (n : Int) : Bool := -intLimit ≤ n && n < intLimit

def ofInt (n : Int) : Cell := if isInt n then .int n else .real (Binary64.ofInt n)

def ofReal (x : Binary64) : Cell := if x.isNan then .null else .real x

def ofBool (b : Bool) : Cell := .int (if b then 1 else 0)

def ofTruth : Option Bool → Cell
  | some b => ofBool b
  | none => .null

def isNull : Cell → Bool
  | .null => true
  | _ => false

def realDirective : Directive := { full := true, precision := some 15 }

def realText (x : Binary64) : String := String.ofList (realDirective.realChars .general false x)

def toText : Cell → String
  | .null => ""
  | .int n => toString n
  | .real x => realText x
  | .text s => s
  | .bytes content => String.ofList (Text.ofBytes content)

def chars (c : Cell) : List Char := c.toText.toList.takeWhile (· != '\x00')

def isSpace (c : Char) : Bool := c == ' ' || ('\t' ≤ c && c ≤ '\r')

def exponentRun (s : List Char) : Option Int × List Char :=
  match s with
  | e :: rest =>
    let (negative, body) := Number.sign rest
    let digits := body.takeWhile Json.isDigit
    if (e == 'e' || e == 'E') && !digits.isEmpty then
      (some (Number.signed negative (Json.digitsValue digits)), body.drop digits.length)
    else (none, s)
  | [] => (none, [])

/-- The number that starts a text, if one does, and what follows. It is whole if it has neither a
point nor an exponent. -/
def numberRun (s : List Char) : Option Cell × List Char :=
  let (negative, body) := Number.sign (s.dropWhile isSpace)
  let ones := body.takeWhile Json.isDigit
  let rest := body.drop ones.length
  let (hasPoint, places, rest) :=
    match rest with
    | '.' :: more => (true, more.takeWhile Json.isDigit, more.dropWhile Json.isDigit)
    | _ => (false, [], rest)
  let n := Json.digitsValue (ones ++ places)
  if (ones ++ places).isEmpty then (none, s)
  else
    let (exponent, rest) := exponentRun rest
    if hasPoint || exponent.isSome then
      (some (ofReal (Binary64.ofDecimal negative n (exponent.getD 0 - places.length))), rest)
    else (some (ofInt (Number.signed negative n)), rest)

def numberOf? (s : String) : Option Cell :=
  match numberRun s.toList with
  | (some c, rest) => if rest.all isSpace then some c else none
  | (none, _) => none

def wholeOf? (x : Binary64) : Option Int :=
  match x.truncated? with
  | some n =>
    if isInt n && x.compare? (Binary64.ofInt n) == some .eq && n.natAbs < pow2 53 * 1024 then some n
    else none
  | none => none

def simplest : Cell → Cell
  | .real x => (wholeOf? x).elim (.real x) .int
  | c => c

def number : Cell → Cell
  | .text s => ((numberRun s.toList).1).getD (.int 0)
  | .bytes content => ((numberRun (Text.ofBytes content)).1).getD (.int 0)
  | c => c

def toReal (c : Cell) : Binary64 :=
  match number c with
  | .int n => Binary64.ofInt n
  | .real x => x
  | _ => Binary64.zero false

def cutReal (x : Binary64) : Int :=
  match x.truncated? with
  | some n => if n < -intLimit then -intLimit else if intLimit ≤ n then intLimit - 1 else n
  | none => if x.isNegative then -intLimit else intLimit - 1

def leadingInt (s : List Char) : Int :=
  let (negative, body) := Number.sign (s.dropWhile isSpace)
  let n := Number.signed negative (Json.digitsValue (body.takeWhile Json.isDigit))
  if n < -intLimit then -intLimit else if intLimit ≤ n then intLimit - 1 else n

def toInt : Cell → Int
  | .null => 0
  | .int n => n
  | .real x => cutReal x
  | .text s => leadingInt s.toList
  | .bytes content => leadingInt (Text.ofBytes content)

def truth : Cell → Option Bool
  | .null => none
  | .int n => some (n != 0)
  | c => some (!(toReal c).isZero)

end Cell

/-- What the type of a column asks for: the kind that cells are converted to, if they can be. -/
inductive Affinity
  | blob
  | text
  | numeric
  | integer
  | real
  deriving DecidableEq, Repr

namespace Affinity

def ofType (type : String) : Affinity :=
  let s := type.toUpper.toList
  let has := fun (part : String) => Text.contains part.toList s
  if has "INT" then .integer
  else if has "CHAR" || has "CLOB" || has "TEXT" then .text
  else if has "BLOB" || s.isEmpty then .blob
  else if has "REAL" || has "FLOA" || has "DOUB" then .real
  else .numeric

def isNumeric : Affinity → Bool
  | .numeric | .integer | .real => true
  | _ => false

def apply (a : Affinity) (c : Cell) : Cell :=
  match a, c with
  | .blob, c => c
  | .text, .int _ | .text, .real _ => .text c.toText
  | .text, c => c
  | .real, .int n => .real (Binary64.ofInt n)
  | .real, .text s =>
    match Cell.numberOf? s with
    | some n => .real n.toReal
    | none => c
  | .real, c => c
  | _, .text s => (Cell.numberOf? s).elim c Cell.simplest
  | _, .real x => (Cell.real x).simplest
  | _, c => c

def cast (a : Affinity) (c : Cell) : Cell :=
  match a, c with
  | _, .null => .null
  | .blob, .bytes content => .bytes content
  | .blob, c => .bytes (c.toText.toUTF8.toList.map UInt8.toNat)
  | .text, c => .text c.toText
  | .integer, c => .int c.toInt
  | .real, c => .real c.toReal
  | .numeric, .int n => .int n
  | .numeric, .real x => .real x
  | .numeric, c => c.number.simplest

end Affinity

/-- How texts are compared: by their characters, without regard to the case of ASCII letters, or
without blanks at the end. -/
inductive Collation
  | binary
  | nocase
  | rtrim
  deriving DecidableEq, Repr

namespace Collation

def name : Collation → String
  | binary => "BINARY"
  | nocase => "NOCASE"
  | rtrim => "RTRIM"

def ofName? (s : String) : Option Collation :=
  [binary, nocase, rtrim].find? fun c => c.name == s.toUpper

def key : Collation → String → List Char
  | .binary, s => s.toList
  | .nocase, s => s.toLower.toList
  | .rtrim, s => (s.toList.reverse.dropWhile (· == ' ')).reverse

end Collation

def compareLists : List Nat → List Nat → Ordering
  | [], [] => .eq
  | [], _ :: _ => .lt
  | _ :: _, [] => .gt
  | a :: as, b :: bs => if a == b then compareLists as bs else compare a b

namespace Cell

def rank : Cell → Nat
  | .null => 0
  | .int _ | .real _ => 1
  | .text _ => 2
  | .bytes _ => 3

def compareMixed (n : Int) (x : Binary64) : Ordering :=
  match x with
  | .finite negative significand exponent =>
    let m := Binary64.signedBy negative significand
    if 0 ≤ exponent then
      compare n (m * pow2 exponent.toNat) else compare (n * pow2 (-exponent).toNat) m
  | .infinite negative => if negative then .gt else .lt
  | .nan => .gt

def compareWith (collation : Collation) (a b : Cell) : Ordering :=
  match a, b with
  | .int m, .int n => compare m n
  | .int m, .real y => compareMixed m y
  | .real x, .int n => (compareMixed n x).swap
  | .real x, .real y => (x.compare? y).getD .eq
  | .text s, .text t =>
    compareLists ((collation.key s).map Char.toNat) ((collation.key t).map Char.toNat)
  | .bytes s, .bytes t => compareLists s t
  | a, b => compare a.rank b.rank

def commonAffinity? : Option Affinity → Option Affinity → Option Affinity
  | some a, some b => some (if a.isNumeric || b.isNumeric then .numeric else .blob)
  | some a, none => some a
  | none, b => b

def asOperand (affinity : Option Affinity) (c other : Cell) : Cell :=
  match affinity, c with
  | some a, .text s => if a.isNumeric then (numberOf? s).elim c simplest else c
  | some .text, .int _ | some .text, .real _ => if other.rank == 2 then .text c.toText else c
  | _, c => c

def compareOperands? (affinity : Option Affinity) (collation : Collation) (a b : Cell) :
    Option Ordering :=
  if a.isNull || b.isNull then none
  else some (compareWith collation (asOperand affinity a b) (asOperand affinity b a))

end Cell

end SchemaMigration.Sqlite
