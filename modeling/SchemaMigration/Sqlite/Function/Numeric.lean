import SchemaMigration.Number.Elementary
import SchemaMigration.Sqlite.Cell

namespace SchemaMigration.Sqlite.Numeric

open Binary64

def ofOne : List (String × (Binary64 → Binary64)) := [
  ("acos", acos), ("acosh", acosh), ("asin", asin), ("asinh", asinh), ("atan", atan),
  ("atanh", atanh), ("cos", cos), ("cosh", cosh),
  ("degrees", fun x => x.mul (((ofInt 180).div? circle).getD nan)),
  ("exp", exp), ("radians", fun x => x.mul ((circle.div? (ofInt 180)).getD nan)), ("sin", sin),
  ("sinh", sinh), ("sqrt", sqrt), ("tan", tan), ("tanh", tanh)]

def ofTwo : List (String × (Binary64 → Binary64 → Binary64)) :=
  [("atan2", atan2), ("mod", Binary64.remainder), ("pow", pow), ("power", pow)]

def ofPlaces : List (String × (Binary64 → Binary64)) :=
  [("ceil", ceil), ("ceiling", ceil), ("floor", floor), ("trunc", trunc)]

def logarithms : List (String × (Binary64 → Binary64)) :=
  [("ln", ln), ("log", log10), ("log10", log10), ("log2", log2)]

def functions : List (String × Nat × Option Nat) :=
  (ofOne.map fun (name, _) => (name, 1, some 1)) ++
    (ofTwo.map fun (name, _) => (name, 2, some 2)) ++
    (ofPlaces.map fun (name, _) => (name, 1, some 1)) ++
    [("ln", 1, some 1), ("log", 1, some 2), ("log10", 1, some 1), ("log2", 1, some 1),
      ("pi", 0, some 0)]

def numberOf? : Cell → Option Cell
  | .text s => Cell.numberOf? s
  | .int n => some (.int n)
  | .real x => some (.real x)
  | _ => none

def realOf? (c : Cell) : Option Binary64 := (numberOf? c).map Cell.toReal

def isPositive (x : Binary64) : Bool := x.compare? (zero false) == some .gt

def logarithm? (f : Binary64 → Binary64) (x : Binary64) : Option Binary64 :=
  if isPositive x then some (f x) else none

def logarithmIn? (base x : Binary64) : Option Binary64 := do
  let b ← logarithm? ln base
  let a ← if isPositive b then logarithm? ln x else none
  a.div? b

def signOf (c : Cell) : Cell :=
  match numberOf? c with
  | some (.int n) => .int n.sign
  | some (.real x) => .int (if x.isZero then 0 else if x.isNegative then -1 else 1)
  | _ => .null

def apply (name : String) (cells : List Cell) : Cell :=
  let found : Option Binary64 :=
    match cells with
    | [] => some circle
    | [c] => do
      let x ← realOf? c
      match ofOne.lookup name with
      | some f => some (f x)
      | none => (logarithms.lookup name).bind fun f => logarithm? f x
    | a :: b :: _ => do
      let x ← realOf? a
      if name == "log" then logarithmIn? x b.toReal
      else
        let y ← realOf? b
        (ofTwo.lookup name).map fun f => f x y
  match ofPlaces.lookup name, cells with
  | some f, [c] =>
    match numberOf? c with
    | some (.real x) => .real (f x)
    | some n => n
    | none => .null
  | _, _ => (found.map Cell.ofReal).getD .null

end SchemaMigration.Sqlite.Numeric
