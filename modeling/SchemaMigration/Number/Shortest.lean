import SchemaMigration.Number.Binary64

namespace SchemaMigration.Binary64

structure Digits where
  digits : List Char
  exponent : Int

structure Interval where
  low : Nat
  value : Nat
  high : Nat
  den : Nat
  closed : Bool

def interval (significand : Nat) (exponent : Int) : Interval :=
  let scale := if 0 ≤ exponent then pow2 exponent.toNat else 1
  let below := if significand == pow2 52 && leastExponent < exponent then 1 else 2
  { low := (4 * significand - below) * scale
    value := 4 * significand * scale
    high := (4 * significand + 2) * scale
    den := if 0 ≤ exponent then 4 else 4 * pow2 (-exponent).toNat
    closed := significand % 2 == 0 }

def Interval.holds (i : Interval) (count : Nat) (grid : Int) : Bool :=
  let point := if 0 ≤ grid then count * pow10 grid.toNat * i.den else count * i.den
  let unit := if 0 ≤ grid then 1 else pow10 (-grid).toNat
  if i.closed then i.low * unit ≤ point && point ≤ i.high * unit
  else i.low * unit < point && point < i.high * unit

/-- The neighbour of the value on the grid `10 ^ grid` that lies in the interval, the nearer of two
and the even one of two equally near. -/
def Interval.onGrid? (i : Interval) (grid : Int) : Option Nat :=
  let num := if 0 ≤ grid then i.value else i.value * pow10 (-grid).toNat
  let den := if 0 ≤ grid then i.den * pow10 grid.toNat else i.den
  let lower := num / den
  let nearest := roundDiv num den
  let other := if nearest == lower then lower + 1 else lower
  if i.holds nearest grid then some nearest
  else if i.holds other grid then some other
  else none

def Interval.search (i : Interval) : Nat → Int → Nat × Int
  | 0, grid => (roundDiv (i.value * pow10 (-grid).toNat) i.den, grid)
  | steps + 1, grid =>
    match i.onGrid? grid with
    | some count => if count == 0 then i.search steps (grid - 1) else (count, grid)
    | none => i.search steps (grid - 1)

def decimalBound (num den : Nat) : Int :=
  if den ≤ num then digitCount (num / den) else 1 - digitCount (den / num)

def shortest (significand : Nat) (exponent : Int) : Digits :=
  let i := interval significand exponent
  let (count, grid) := i.search 20 (decimalBound i.value i.den)
  let written := Nat.toDigits 10 count
  let digits := (written.reverse.dropWhile (· == '0')).reverse
  { digits := digits, exponent := grid + written.length - 1 }

def exponentText (e : Int) : List Char :=
  let digits := Nat.toDigits 10 e.natAbs
  (if e < 0 then '-' else '+') :: (if digits.length < 2 then '0' :: digits else digits)

def Digits.text (d : Digits) : List Char :=
  if d.exponent < -4 || 16 ≤ d.exponent then
    match d.digits with
    | [] => []
    | [digit] => digit :: 'e' :: exponentText d.exponent
    | digit :: more => digit :: '.' :: more ++ 'e' :: exponentText d.exponent
  else if d.exponent < 0 then
    '0' :: '.' :: List.replicate (-d.exponent - 1).toNat '0' ++ d.digits
  else
    let whole := d.exponent.toNat + 1
    let padded := d.digits ++ List.replicate (whole - d.digits.length) '0'
    let fraction := padded.drop whole
    padded.take whole ++ '.' :: (if fraction.isEmpty then ['0'] else fraction)

def textChars : Binary64 → List Char
  | .nan => ['n', 'a', 'n']
  | .infinite negative => (if negative then ['-'] else []) ++ ['i', 'n', 'f']
  | .finite negative significand exponent =>
    (if negative then ['-'] else []) ++
      if significand == 0 then ['0', '.', '0'] else (shortest significand exponent).text

def text (x : Binary64) : String := String.ofList x.textChars

end SchemaMigration.Binary64
