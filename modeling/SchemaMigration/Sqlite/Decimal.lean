import SchemaMigration.Number.Shortest

namespace SchemaMigration.Sqlite

structure Decimal where
  /-- Digits from the first to the last one that is not zero; the number zero has one digit. -/
  digits : List Char
  /-- How many digits stand in front of the point; a negative number counts zeros behind it. -/
  point : Int
  deriving DecidableEq, Repr

namespace Decimal

def firstPower (num den : Nat) : Int :=
  let bound := Binary64.decimalBound num den
  let reached := fun (k : Int) =>
    if 0 ≤ k then den * pow10 k.toNat ≤ num else den ≤ num * pow10 (-k).toNat
  if reached bound then bound else if reached (bound - 1) then bound - 1 else bound - 2

def scaled (num den : Nat) (power : Int) : Nat × Nat :=
  if 0 ≤ power then (num * pow10 power.toNat, den) else (num, den * pow10 (-power).toNat)

/-- The digits of a positive quotient that are told, as a whole number, and the place of the point.
A quotient below the eighteenth power of ten has eighteen digits, a greater one nineteen. -/
def told (num den : Nat) : Nat × Int :=
  let first := firstPower num den
  let power := if first < 17 then 17 - first else if 18 < first then 18 - first else 0
  let (n, d) := scaled num den power
  (n / d, first + 1)

def withoutZeros (digits : List Char) : List Char := (digits.reverse.dropWhile (· == '0')).reverse

def cutTo (count : Nat) (n : Nat) (point : Int) : Decimal :=
  let unit := pow10 (Binary64.digitCount n - count)
  let kept := (2 * n + unit) / (2 * unit)
  ⟨withoutZeros (Nat.toDigits 10 kept),
    if kept == pow10 count then point + 1 else point⟩

/-- The digits of a positive quotient: `wanted` of them if that is positive, up to so many places
behind the point if it is not, and never more than `most`. Where the first digit lies behind all
that is wanted, all digits stay. -/
def ofRatio (wanted : Int) (most num den : Nat) : Decimal :=
  let (n, point) := told num den
  let count := if 0 < wanted then wanted else point - wanted
  let size := Binary64.digitCount n
  if count == 0 && pow10 size ≤ 2 * n then ⟨['1'], point + 1⟩
  else if 0 < count && (count < size || most < size) then cutTo (min count.toNat most) n point
  else ⟨withoutZeros (Nat.toDigits 10 n), point⟩

def ofFinite (wanted : Int) (most significand : Nat) (exponent : Int) : Decimal :=
  if significand == 0 then ⟨['0'], 1⟩
  else if 0 ≤ exponent then ofRatio wanted most (significand * pow2 exponent.toNat) 1
  else ofRatio wanted most significand (pow2 (-exponent).toNat)

end Decimal

end SchemaMigration.Sqlite
