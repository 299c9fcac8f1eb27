import SchemaMigration.Number.Binary64

namespace SchemaMigration.Binary64

def padded (width n : Nat) : List Char :=
  let digits := Nat.toDigits 10 n
  List.replicate (width - digits.length) '0' ++ digits

def fixedChars (places : Nat) : Binary64 → List Char
  | .nan => ['n', 'a', 'n']
  | .infinite negative => (if negative then ['-'] else []) ++ ['i', 'n', 'f']
  | .finite negative significand exponent =>
    let scaled := significand * pow10 places
    let units :=
      if 0 ≤ exponent then
        scaled * pow2 exponent.toNat else roundDiv scaled (pow2 (-exponent).toNat)
    (if negative then ['-'] else []) ++ Nat.toDigits 10 (units / pow10 places) ++
      (if places == 0 then [] else '.' :: padded places (units % pow10 places))

def fixed (places : Nat) (x : Binary64) : String := String.ofList (x.fixedChars places)

end SchemaMigration.Binary64
