import SchemaMigration.Number.Arithmetic
import SchemaMigration.Sqlite.Decimal

namespace SchemaMigration.Sqlite

structure Directive where
  toLeft : Bool := false
  sign : Option Char := none
  /-- The second form of a kind: numbers in another base with its mark, numbers with a point
  always. -/
  alternate : Bool := false
  full : Bool := false
  zeros : Bool := false
  grouped : Bool := false
  width : Nat := 0
  precision : Option Nat := none
  deriving DecidableEq, Repr

inductive RealForm
  | fixed
  | scientific
  | general
  deriving DecidableEq, Repr

namespace Directive

def takeDigits (n : Nat) (digits : List Char) : List Char :=
  digits.take n ++ List.replicate (n - digits.length) '0'

def withCommas (digits : List Char) : List Char :=
  digits.zipIdx.flatMap fun (c, n) =>
    if n != 0 && (digits.length - n) % 3 == 0 then [',', c] else [c]

def most (d : Directive) : Nat := if d.full then 26 else 16

def filled (d : Directive) (sign : Option Char) (written : List Char) : List Char :=
  let size := sign.toList.length + written.length
  sign.toList ++
    (if d.zeros && !d.toLeft then List.replicate (d.width - size) '0' else []) ++ written

def withoutPlaces (d : Directive) (written : List Char) : List Char :=
  let kept := Decimal.withoutZeros written
  if kept.getLast? == some '.' then (if d.full then kept ++ ['0'] else kept.dropLast) else kept

def digitChars (d : Directive) (form : RealForm) (isUpper cuts : Bool) (places : Nat)
    (n : Decimal) :
    List Char :=
  let power := if form == .scientific then 0 else n.point - 1
  let ones := (power + 1).toNat
  let whole := if ones == 0 then ['0'] else takeDigits ones n.digits
  let blanks := min places (-(power + 1)).toNat
  let fraction := List.replicate blanks '0' ++ takeDigits (places - blanks) (n.digits.drop ones)
  let hasPoint := 0 < places || d.alternate || d.full
  let body := (if d.grouped then withCommas whole else whole) ++
    (if hasPoint then '.' :: fraction else [])
  (if cuts && hasPoint then withoutPlaces d body else body) ++
    (if form == .scientific then
      (if isUpper then 'E' else 'e') :: Binary64.exponentText (n.point - 1) else [])

def decimalChars (d : Directive) (form : RealForm) (isUpper negative : Bool)
    (n : Decimal) : List Char :=
  let places := d.precision.getD 6
  let power := n.point - 1
  let last : Int := max places 1 - 1
  filled d (if negative then some '-' else d.sign) <|
    if form != .general then digitChars d form isUpper d.full places n
    else if power < -4 || last < power then
      digitChars d .scientific isUpper (!d.alternate) last.toNat n
    else digitChars d .fixed isUpper (!d.alternate) (last - power).toNat n

def realChars (d : Directive) (form : RealForm) (isUpper : Bool) (x : Binary64) : List Char :=
  let places : Int := d.precision.getD 6
  let wanted := match form with
    | .fixed => -places
    | .scientific => places + 1
    | .general => max places 1
  match x with
  | .nan => (if d.zeros then "null" else "NaN").toList
  | .infinite negative =>
    if d.zeros then decimalChars d form isUpper negative ⟨['9'], 1000⟩
    else (if negative then ['-'] else d.sign.toList) ++ ['I', 'n', 'f']
  | .finite negative significand exponent =>
    decimalChars d form isUpper (negative && significand != 0)
      (Decimal.ofFinite wanted d.most significand exponent)

def wholeChars (d : Directive) (base : Nat) (isUpper isGrouped : Bool) (ending mark : List Char)
    (sign : Option Char) (n : Nat) : List Char :=
  let written := Nat.toDigits base n ++ ending
  let written := if isUpper then written.map Char.toUpper else written
  let least := d.precision.getD 0
  let least := if d.zeros then max least (d.width - sign.toList.length) else least
  let padded := List.replicate (least - written.length) '0' ++ written
  let mark := if d.alternate && n != 0 then mark else []
  mark ++ sign.toList ++ (if isGrouped && d.grouped then withCommas padded else padded)

def placed (d : Directive) (size : Nat) (written : List Char) : List Char :=
  let blanks := List.replicate (d.width - size) ' '
  if d.toLeft then written ++ blanks else blanks ++ written

end Directive

end SchemaMigration.Sqlite
