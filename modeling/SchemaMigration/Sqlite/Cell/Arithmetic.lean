import SchemaMigration.Number.Arithmetic
import SchemaMigration.Sqlite.Cell

namespace SchemaMigration.Sqlite.Cell

def calculate (onInts : Int → Int → Int) (onReals : Binary64 → Binary64 → Binary64) (a b : Cell) :
    Cell :=
  match a.number, b.number with
  | .null, _ | _, .null => .null
  | .int m, .int n =>
    if isInt (onInts m n) then .int (onInts m n)
    else ofReal (onReals (Binary64.ofInt m) (Binary64.ofInt n))
  | x, y => ofReal (onReals x.toReal y.toReal)

def divide (a b : Cell) : Cell :=
  match a.number, b.number with
  | .null, _ | _, .null => .null
  | .int m, .int n =>
    if n == 0 then .null
    else if isInt (Int.tdiv m n) then .int (Int.tdiv m n)
    else ofReal (((Binary64.ofInt m).div? (Binary64.ofInt n)).getD .nan)
  | x, y => if y.toReal.isZero then .null else ofReal ((x.toReal.div? y.toReal).getD .nan)

def remainder (a b : Cell) : Cell :=
  match a.number, b.number with
  | .null, _ | _, .null => .null
  | x, y =>
    if b.toInt == 0 then .null
    else
      let rest := Int.tmod a.toInt b.toInt
      match x, y with
      | .int _, .int _ => .int rest
      | _, _ => .real (Binary64.ofInt rest)

def negate (c : Cell) : Cell :=
  match c.number with
  | .null => .null
  | .int n => ofInt (-n)
  | .real x => .real ((Binary64.zero false).sub x)
  | c => c

def toBits (n : Int) : Nat := (n % (pow2 64 : Nat)).toNat

def ofBits (n : Nat) : Cell :=
  let n := n % pow2 64
  .int (if n < pow2 63 then n else (n : Int) - pow2 64)

def onBits (f : Nat → Nat → Nat) (a b : Cell) : Cell :=
  if a.isNull || b.isNull then .null
  else ofBits (f (toBits a.toInt) (toBits b.toInt))

def complement (c : Cell) : Cell := if c.isNull then .null else .int (-1 - c.toInt)

def shiftLeft (n distance : Int) : Cell :=
  if 0 ≤ distance then
    if 64 ≤ distance then .int 0 else ofBits (toBits n * pow2 distance.toNat)
  else if distance ≤ -64 then .int (if n < 0 then -1 else 0)
  else .int (Int.fdiv n (pow2 (-distance).toNat))

def shift (a b : Cell) (toLeft : Bool) : Cell :=
  if a.isNull || b.isNull then .null
  else shiftLeft a.toInt (if toLeft then b.toInt else -b.toInt)

def join (a b : Cell) : Cell :=
  if a.isNull || b.isNull then .null else .text (a.toText ++ b.toText)

def and (a b : Option Bool) : Option Bool :=
  match a, b with
  | some false, _ | _, some false => some false
  | some true, some true => some true
  | _, _ => none

def or (a b : Option Bool) : Option Bool :=
  match a, b with
  | some true, _ | _, some true => some true
  | some false, some false => some false
  | _, _ => none

end SchemaMigration.Sqlite.Cell
