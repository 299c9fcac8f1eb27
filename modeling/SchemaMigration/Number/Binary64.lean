
namespace SchemaMigration

def pow2 (n : Nat) : Nat := Nat.pow 2 n

def pow10 (n : Nat) : Nat := Nat.pow 10 n

/-- A number of the 64-bit binary format. A finite one has the value `significand * 2 ^ exponent`;
its significand is at least `2 ^ 52` unless the exponent is the least one. -/
inductive Binary64
  | finite (negative : Bool) (significand : Nat) (exponent : Int)
  | infinite (negative : Bool)
  | nan
  deriving DecidableEq, Repr

namespace Binary64

def leastExponent : Int := -1074

def greatestExponent : Int := 971

def zero (negative : Bool) : Binary64 := .finite negative 0 leastExponent

def isZero : Binary64 → Bool
  | .finite _ significand _ => significand == 0
  | _ => false

def roundDiv (num den : Nat) : Nat :=
  let quotient := num / den
  let rest := num % den
  if den < 2 * rest then quotient + 1
  else if 2 * rest == den && quotient % 2 == 1 then quotient + 1
  else quotient

/-- The whole exponent `k` with `2 ^ k ≤ num / den < 2 ^ (k + 1)`, for a positive quotient. -/
def floorLog2 (num den : Nat) : Int :=
  let guess : Int := (num.log2 : Int) - den.log2
  let reached := if 0 ≤ guess then den * pow2 guess.toNat ≤ num else den ≤ num * pow2 (-guess).toNat
  if reached then guess else guess - 1

def ofRatio (negative : Bool) (num den : Nat) : Binary64 :=
  if num == 0 then zero negative
  else
    let exponent := max leastExponent (floorLog2 num den - 52)
    let significand :=
      if 0 ≤ exponent then roundDiv num (den * pow2 exponent.toNat)
      else roundDiv (num * pow2 (-exponent).toNat) den
    let (significand, exponent) :=
      if significand == pow2 53 then (pow2 52, exponent + 1) else (significand, exponent)
    if greatestExponent < exponent then .infinite negative
    else .finite negative significand exponent

def digitCount (n : Nat) : Nat := (Nat.toDigits 10 n).length

/-- The number nearest to `digits * 10 ^ exponent`. Magnitudes far outside the format are told by
their size alone. -/
def ofDecimal (negative : Bool) (digits : Nat) (exponent : Int) : Binary64 :=
  let magnitude := exponent + digitCount digits
  if digits == 0 then zero negative
  else if 400 < magnitude then .infinite negative
  else if magnitude < -400 then zero negative
  else if 0 ≤ exponent then ofRatio negative (digits * pow10 exponent.toNat) 1
  else ofRatio negative digits (pow10 (-exponent).toNat)

end Binary64

end SchemaMigration
