import SchemaMigration.Number.Arithmetic

namespace SchemaMigration

structure Grid where
  bits : Nat
  deriving DecidableEq, Repr

namespace Grid

def one (g : Grid) : Int := pow2 g.bits

def mul (g : Grid) (a b : Int) : Int := (a * b).tdiv g.one

def div (g : Grid) (a b : Int) : Int := (a * g.one).tdiv b

def ofFinite (g : Grid) (n exponent : Int) : Int :=
  let scale := exponent + g.bits
  if 0 ≤ scale then n * pow2 scale.toNat else n.tdiv (pow2 (-scale).toNat)

def rootFrom (n : Nat) : Nat → Nat → Nat
  | 0, x => x
  | fuel + 1, x =>
    let y := (x + n / x) / 2
    if y < x then rootFrom n fuel y else x

def wholeRoot (n : Nat) : Nat := if n == 0 then
  0 else rootFrom n (n.log2 + 2) (pow2 (n.log2 / 2 + 1))

def root (g : Grid) (a : Int) : Int := wholeRoot (a.toNat * pow2 g.bits)

def series (next weigh : Nat → Int → Int) : Nat → Nat → Int → Int
  | 0, _, _ => 0
  | fuel + 1, n, x => if x == 0 then 0 else weigh n x + series next weigh fuel (n + 1) (next n x)

def terms (g : Grid) : Nat := 2 * g.bits + 8

def sum (g : Grid) (next : Nat → Int → Int) (first : Int) : Int :=
  series next (fun _ x => x) g.terms 0 first

def areaTangent (g : Grid) (z : Int) : Int :=
  let square := g.mul z z
  series (fun _ x => g.mul x square) (fun n x => x.tdiv (2 * n + 1 : Nat)) g.terms 0 z

def ln2 (g : Grid) : Int := 2 * g.areaTangent (g.div 1 3)

def angle (g : Grid) (t : Int) : Int :=
  let square := g.mul t t
  let ratio := g.div square (g.one + square)
  g.sum (fun n x => (g.mul x ratio * (2 * n + 2 : Nat)).tdiv (2 * n + 3 : Nat))
    (g.div t (g.one + square))

def pi (g : Grid) : Int := 4 * g.angle g.one

def angleOf (g : Grid) (high wide : Int) : Int :=
  if high ≤ wide then g.angle (g.div high wide) else g.pi / 2 - g.angle (g.div wide high)

def exp (g : Grid) (a : Int) : Int × Int :=
  let q := (a + g.ln2 / 2).fdiv g.ln2
  let rest := a - q * g.ln2
  (g.sum (fun n x => (g.mul x rest).tdiv (n + 1 : Nat)) g.one, q)

def wholeExp (g : Grid) (a : Int) : Int :=
  let (x, q) := g.exp a
  if 0 ≤ q then x * pow2 q.toNat else x / pow2 (-q).toNat

def ln (g : Grid) (n : Nat) (exponent : Int) : Int :=
  let low := n.log2
  let power := if 2 * n * n < pow2 (2 * low + 2) then low else low + 1
  let unit : Int := pow2 power
  (exponent + power) * g.ln2 + 2 * g.areaTangent (g.div (n - unit) (n + unit))

def waves (g : Grid) (a : Int) : Int × Int :=
  let quarter := g.pi / 2
  let q := (a + quarter / 2).fdiv quarter
  let rest := a - q * quarter
  let square := g.mul rest rest
  let sine := g.sum (fun n x => (-(g.mul x square)).tdiv ((2 * n + 2) * (2 * n + 3) : Nat)) rest
  let cosine := g.sum (fun n x => (-(g.mul x square)).tdiv ((2 * n + 1) * (2 * n + 2) : Nat)) g.one
  if q % 4 == 0 then (sine, cosine)
  else if q % 4 == 1 then (cosine, -sine)
  else if q % 4 == 2 then (-sine, -cosine)
  else (-cosine, sine)

end Grid

namespace Binary64

def spareBits : Nat := 256

def magnitude : Binary64 → Int
  | .finite _ significand exponent => significand.log2 + exponent
  | _ => 0

def grid (x : Binary64) : Grid := ⟨spareBits + (magnitude x).natAbs⟩

def steps (g : Grid) : Binary64 → Int
  | .finite negative significand exponent => g.ofFinite (signedBy negative significand) exponent
  | _ => 0

def ofSteps (g : Grid) (n : Int) : Binary64 := ofScaled false n (-(g.bits : Int))

def abs (x : Binary64) : Binary64 := if x.isNegative then x.neg else x

def odd (f : Binary64 → Binary64) (x : Binary64) : Binary64 :=
  if x.isNan || x.isZero then x else if x.isNegative then (f x.neg).neg else f x

def isAbove (x : Binary64) (n : Int) : Bool := x.compare? (ofInt n) == some .gt

def isBelow (x : Binary64) (n : Int) : Bool := x.compare? (ofInt n) == some .lt

def circle : Binary64 := let g : Grid := ⟨spareBits⟩; ofSteps g g.pi

/-- The whole number next to a number on the side of zero, or on another side; a zero keeps the
sign. -/
def wholePart (side : Bool → Nat → Nat → Nat) : Binary64 → Binary64
  | .finite negative significand exponent =>
    if 0 ≤ exponent then .finite negative significand exponent
    else
      let den := pow2 (-exponent).toNat
      ofRatio negative (side negative significand den) 1
  | x => x

def trunc : Binary64 → Binary64 := wholePart fun _ n den => n / den

def floor : Binary64 → Binary64 :=
  wholePart fun negative n den => if negative then (n + den - 1) / den else n / den

def ceil : Binary64 → Binary64 :=
  wholePart fun negative n den => if negative then n / den else (n + den - 1) / den

def remainder (x y : Binary64) : Binary64 :=
  match x, y with
  | .finite a m i, .finite _ n j =>
    if n == 0 then .nan
    else
      let least := min i j
      ofScaled a (Int.tmod (signedBy a (m * pow2 (i - least).toNat)) (n * pow2 (j - least).toNat))
        least
  | .finite a m i, .infinite _ => .finite a m i
  | _, _ => .nan

def sqrt (x : Binary64) : Binary64 :=
  match x with
  | .finite negative significand exponent =>
    if significand == 0 then x
    else if negative then .nan
    else
      let extra := if exponent % 2 == 0 then 200 else 201
      let n := Grid.wholeRoot (significand * pow2 extra)
      let isExact := n * n == significand * pow2 extra
      ofScaled false (if isExact then 2 * n else 2 * n + 1) ((exponent - extra) / 2 - 1)
  | .infinite false => x
  | _ => .nan

def expOfSteps (g : Grid) (a : Int) : Binary64 :=
  if 710 * g.one < a then .infinite false
  else if a < -(746 * g.one) then zero false
  else
    let (x, q) := g.exp a
    ofScaled false x (q - g.bits)

def exp (x : Binary64) : Binary64 :=
  match x with
  | .nan => .nan
  | .infinite negative => if negative then zero false else x
  | x => if isAbove x 710 then .infinite false else if isBelow x (-746) then zero false
    else expOfSteps x.grid (x.steps x.grid)

def lnSteps (g : Grid) : Binary64 → Int
  | .finite _ significand exponent => g.ln significand exponent
  | _ => 0

def logOver (base : Grid → Int) (x : Binary64) : Binary64 :=
  match x with
  | .infinite false => x
  | .finite false significand _ =>
    if significand == 0 then .infinite true
    else
      let g : Grid := ⟨spareBits⟩
      ofSteps g (g.div (lnSteps g x) (base g))
  | _ => .nan

def ln : Binary64 → Binary64 := logOver Grid.one

def log2 : Binary64 → Binary64 := logOver Grid.ln2

def log10 : Binary64 → Binary64 := logOver fun g => g.ln 10 0

def whole? (x : Binary64) : Option Int :=
  x.truncated?.bind fun n => if x.compare? (ofInt n) == some .eq then some n else none

def wholePower (negative : Bool) (significand : Nat) (exponent n : Int) : Binary64 :=
  let power := Nat.pow significand n.natAbs
  let scale := exponent * n.natAbs
  let sign := negative && n % 2 != 0
  let one := ofScaled sign (signedBy sign power) scale
  if 0 ≤ n then one
  else if 0 ≤ scale then ofRatio sign 1 (power * pow2 scale.toNat)
  else ofRatio sign (pow2 (-scale).toNat) power

def exactPower : Nat := 64

def positivePower (x y : Binary64) : Binary64 :=
  let g : Grid := ⟨2 * spareBits + (magnitude y).natAbs⟩
  match y with
  | .finite negative significand exponent =>
    expOfSteps g (g.mul (g.ofFinite (signedBy negative significand) exponent) (lnSteps g x))
  | _ => .nan

def extremePower (isGreat negative : Bool) (y : Binary64) : Binary64 :=
  let sign := negative && ((whole? y).map fun n => n % 2 != 0).getD false
  if isGreat != y.isNegative then .infinite sign else zero sign

def pow (x y : Binary64) : Binary64 :=
  let unit := ofInt 1
  if y.isZero || x == unit then unit
  else
    match x, y with
    | .nan, _ | _, .nan => .nan
    | x, .infinite negative =>
      match x.abs.compare? unit with
      | some .eq => unit
      | some ord => if (ord == .gt) != negative then .infinite false else zero false
      | none => .nan
    | .infinite negative, y => extremePower true negative y
    | .finite negative significand exponent, y =>
      if significand == 0 then extremePower false negative y
      else
        match whole? y with
        | some n =>
          if n.natAbs ≤ exactPower then wholePower negative significand exponent n
          else
            let p := positivePower x.abs y
            if negative && n % 2 != 0 then p.neg else p
        | none => if negative then .nan else positivePower x y

def ofAngle (f : Grid → Int × Int → Binary64) (x : Binary64) : Binary64 :=
  match x with
  | .finite .. => f x.grid (x.grid.waves (x.steps x.grid))
  | _ => .nan

def sin : Binary64 → Binary64 := odd (ofAngle fun g w => ofSteps g w.1)

def cos : Binary64 → Binary64 := ofAngle fun g w => ofSteps g w.2

def tan : Binary64 → Binary64 := odd (ofAngle fun g w => ofSteps g (g.div w.1 w.2))

def ratioGrid (x y : Binary64) : Grid :=
  ⟨spareBits + (magnitude x).natAbs + (magnitude y).natAbs⟩

/-- The angle of a point from its height and its distance to the side, both as magnitudes, turned to
the other side if the distance is negative. -/
def turned (high wide : Binary64) (isBehind : Bool) : Binary64 :=
  let g := match high, wide with
    | .finite .., .finite .. => ratioGrid high wide
    | _, _ => ⟨spareBits⟩
  let quarter := g.pi / 2
  let angle := match high, wide with
    | .infinite _, .infinite _ => quarter / 2
    | .infinite _, _ => quarter
    | _, .infinite _ => 0
    | high, wide =>
      if wide.isZero then (if high.isZero then 0 else quarter)
      else if high.isZero then 0
      else g.angleOf (high.steps g) (wide.steps g)
  ofSteps g (if isBehind then 2 * quarter - angle else angle)

def atan2 (y x : Binary64) : Binary64 :=
  if y.isNan || x.isNan then .nan
  else
    let angle := turned y.abs x.abs x.isNegative
    if y.isNegative then angle.neg else angle

def atan (x : Binary64) : Binary64 := odd (fun x => turned x (ofInt 1) false) x

def besides (f : Grid → Int → Int → Int) (x : Binary64) : Binary64 :=
  if isAbove x.abs 1 || x.isNan then .nan
  else
    let g := x.grid
    let a := x.abs.steps g
    ofSteps g (f g a (g.root (g.one - g.mul a a)))

def asin : Binary64 → Binary64 := odd (besides fun g a b => g.angleOf a b)

def acos (x : Binary64) : Binary64 :=
  besides (fun g a b => if x.isNegative then g.pi - g.angleOf b a else g.angleOf b a) x

def ofExp (limit : Binary64) (f : Grid → Int → Int → Int) (x : Binary64) : Binary64 :=
  if x.isNan then .nan
  else if isAbove x 711 then limit
  else ofSteps x.grid (f x.grid (x.grid.wholeExp (x.steps x.grid))
    (x.grid.wholeExp (-(x.steps x.grid))))

def sinh : Binary64 → Binary64 := odd (ofExp (.infinite false) fun _ a b => (a - b) / 2)

def cosh (x : Binary64) : Binary64 := ofExp (.infinite false) (fun _ a b => (a + b) / 2) x.abs

def tanh : Binary64 → Binary64 := odd (ofExp (ofInt 1) fun g a b => g.div (a - b) (a + b))

def lnOf (g : Grid) (a : Int) : Int := g.ln a.toNat (-(g.bits : Int))

def areaOf (unit : Int) (x : Binary64) : Binary64 :=
  match x with
  | .finite .. =>
    let g := x.grid
    let a := x.steps g
    ofSteps g (lnOf g (a + g.root (g.mul a a + unit * g.one)))
  | x => x

def asinh : Binary64 → Binary64 := odd (areaOf 1)

def acosh (x : Binary64) : Binary64 :=
  if x.isNan || isBelow x 1 then .nan else areaOf (-1) x

def atanh : Binary64 → Binary64 := odd fun x =>
  if isAbove x 1 then .nan
  else if !isBelow x 1 then .infinite false
  else
    let g := x.grid
    let a := x.steps g
    ofSteps g (lnOf g (g.div (g.one + a) (g.one - a)) / 2)

end Binary64

end SchemaMigration
