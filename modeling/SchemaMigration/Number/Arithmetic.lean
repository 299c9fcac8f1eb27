import SchemaMigration.Number.Binary64

namespace SchemaMigration.Binary64

def isNegative : Binary64 → Bool
  | .finite negative _ _ => negative
  | .infinite negative => negative
  | .nan => false

def isNan : Binary64 → Bool
  | .nan => true
  | _ => false

def neg : Binary64 → Binary64
  | .finite negative significand exponent => .finite (!negative) significand exponent
  | .infinite negative => .infinite (!negative)
  | .nan => .nan

@[simp] theorem neg_neg (x : Binary64) : x.neg.neg = x := by
  cases x <;> simp [neg]

def signedBy (negative : Bool) (n : Nat) : Int := if negative then -(n : Int) else n

def ofScaled (ifZero : Bool) (n exponent : Int) : Binary64 :=
  if n == 0 then zero ifZero
  else if 0 ≤ exponent then ofRatio (n < 0) (n.natAbs * pow2 exponent.toNat) 1
  else ofRatio (n < 0) n.natAbs (pow2 (-exponent).toNat)

def ofInt (n : Int) : Binary64 := ofRatio (n < 0) n.natAbs 1

def add : Binary64 → Binary64 → Binary64
  | .nan, _ | _, .nan => .nan
  | .infinite a, .infinite b => if a == b then .infinite a else .nan
  | .infinite a, _ | _, .infinite a => .infinite a
  | .finite a m i, .finite b n j =>
    let least := min i j
    let sum :=
      signedBy a m * pow2 (i - least).toNat + signedBy b n * pow2 (j - least).toNat
    ofScaled (a && b) sum least

def sub (x y : Binary64) : Binary64 := x.add y.neg

def mul : Binary64 → Binary64 → Binary64
  | .nan, _ | _, .nan => .nan
  | .infinite a, y => if y.isZero then .nan else .infinite (a != y.isNegative)
  | x, .infinite b => if x.isZero then .nan else .infinite (x.isNegative != b)
  | .finite a m i, .finite b n j => ofScaled (a != b) (signedBy (a != b) (m * n)) (i + j)

def div? (x y : Binary64) : Option Binary64 :=
  match x, y with
  | .nan, _ | _, .nan => some .nan
  | .infinite _, .infinite _ => some .nan
  | .infinite a, y => if y.isZero then none else some (.infinite (a != y.isNegative))
  | x, .infinite b => some (zero (x.isNegative != b))
  | .finite a m i, .finite b n j =>
    if n == 0 then none
    else
      let scale := i - j
      some (if 0 ≤ scale then ofRatio (a != b) (m * pow2 scale.toNat) n
        else ofRatio (a != b) m (n * pow2 (-scale).toNat))

def compare? : Binary64 → Binary64 → Option Ordering
  | .nan, _ | _, .nan => none
  | .infinite a, .infinite b => some (compare b.toNat a.toNat)
  | .infinite a, _ => some (if a then .lt else .gt)
  | _, .infinite b => some (if b then .gt else .lt)
  | .finite a m i, .finite b n j =>
    let least := min i j
    some (compare (signedBy a m * pow2 (i - least).toNat) (signedBy b n * pow2 (j - least).toNat))

def truncated? : Binary64 → Option Int
  | .finite negative significand exponent =>
    some (signedBy negative
      (if 0 ≤ exponent then significand * pow2 exponent.toNat
        else significand / pow2 (-exponent).toNat))
  | _ => none

end SchemaMigration.Binary64
