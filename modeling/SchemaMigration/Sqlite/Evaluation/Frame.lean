import SchemaMigration.Sqlite.Evaluation.Order

namespace SchemaMigration.Sqlite

inductive Edge
  | first
  | last
  | current
  | before (distance : Cell)
  | behind (distance : Cell)
  deriving DecidableEq, Repr

structure PartView where
  by_ : List (Direction × Collation)
  keys : List (List Cell)
  place : Nat

namespace PartView

def groupNumbers (by_ : List (Direction × Collation)) : Nat → List (List Cell) → List Nat
  | _, [] => []
  | n, [_] => [n]
  | n, a :: b :: rest =>
    n :: groupNumbers by_ (if Evaluation.compareKeys by_ a b == .eq then n else n + 1) (b :: rest)

def groups (v : PartView) : List Nat := groupNumbers v.by_ 0 v.keys

def size (v : PartView) : Nat := v.keys.length

def groupAt (v : PartView) (place : Nat) : Nat := v.groups[place]?.getD 0

def group (v : PartView) : Nat := v.groupAt v.place

def rowsBefore (v : PartView) : Nat := (v.groups.filter fun n => decide (n < v.group)).length

def rowsUpTo (v : PartView) : Nat := (v.groups.filter fun n => decide (n ≤ v.group)).length

/-- The number of a part when all rows are dealt out to some parts of the same size, the first ones
of which get one row more if there are rows left. -/
def dealt (v : PartView) (parts : Nat) : Nat :=
  let small := v.size / parts
  let great := v.size % parts
  let limit := great * (small + 1)
  if v.place < limit then v.place / (small + 1) + 1
  else great + (v.place - limit) / small + 1

def ratio (a b : Nat) : Cell := .ofReal (if b == 0 then .zero false else .ofRatio false a b)

def number? (v : PartView) (name : String) : Option Cell :=
  match name with
  | "row_number" => some (.int (v.place + 1))
  | "rank" => some (.int (v.rowsBefore + 1))
  | "dense_rank" => some (.int (v.group + 1))
  | "percent_rank" => some (ratio v.rowsBefore (v.size - 1))
  | "cume_dist" => some (ratio v.rowsUpTo v.size)
  | _ => none

def tile (v : PartView) (parts : Cell) : Except Fault Cell :=
  if parts.toInt ≤ 0 then .error (.late "argument of ntile must be a positive integer")
  else .ok (.int (v.dealt parts.toInt.toNat))

def positive (c : Cell) : Except Fault Nat :=
  match Affinity.integer.apply c with
  | .int n => if 0 < n then .ok n.toNat else .error notPositive
  | _ => .error notPositive
where
  notPositive : Fault := .late "second argument to nth_value must be a positive integer"

def otherPlace (v : PartView) (isBefore : Bool) (distance : Cell) : Option Nat :=
  match Affinity.integer.apply distance with
  | .int n =>
    let place : Int := if isBefore then v.place - n else v.place + n
    if 0 ≤ place && place < v.size then some place.toNat else none
  | _ => none

def badDistance : Fault := .late "frame offset must be a non-negative number"

def wholeDistance (c : Cell) : Except Fault Int :=
  match Affinity.integer.apply c with
  | .int n => if 0 ≤ n then .ok n else .error badDistance
  | _ => .error badDistance

def edgePlace? (here : Nat) : Edge → Except Fault (Option Int)
  | .first | .last => .ok none
  | .current => .ok (some here)
  | .before c => (wholeDistance c).map fun n => some (here - n)
  | .behind c => (wholeDistance c).map fun n => some (here + n)

def edgeKey? (v : PartView) (e : Edge) : Except Fault (Option (List Cell)) :=
  let own := v.keys[v.place]?.getD []
  let moved := fun (c : Cell) (forward : Bool) =>
    match c, own, v.by_ with
    | .int _, [key], [(d, _)] | .real _, [key], [(d, _)] =>
      if c.toReal.isNegative && !c.toReal.isZero then .error badDistance
      else if key.rank != 1 then .ok (some own)
      else if forward == d.descends then
        .ok (some [Cell.calculate (· - ·) Binary64.sub key c])
      else .ok (some [Cell.calculate (· + ·) Binary64.add key c])
    | .int _, _, _ | .real _, _, _ => .error (.operational "RANGE requires one ORDER BY expression")
    | _, _, _ => .error badDistance
  match e with
  | .first | .last => .ok none
  | .current => .ok (some own)
  | .before c => moved c false
  | .behind c => moved c true

/-- The order of rows and an edge, by the place of a row. An end of all rows is before or behind
them. -/
def sides (v : PartView) (unit : FrameUnit) (e : Edge) : Except Fault (Nat → Ordering) :=
  let end_ : Ordering := if e == .first then .gt else .lt
  let byNumber (here : Nat) (numberOf : Nat → Nat) : Except Fault (Nat → Ordering) :=
    (edgePlace? here e).map fun edge n => edge.elim end_ fun k => compare (numberOf n : Int) k
  match unit with
  | .rows => byNumber v.place id
  | .groups => byNumber v.group v.groupAt
  | .range =>
    (v.edgeKey? e).map fun edge n =>
      edge.elim end_ fun k => Evaluation.compareKeys v.by_ (v.keys[n]?.getD []) k

def isLeftOut (v : PartView) (e : Exclusion) (n : Nat) : Bool :=
  match e with
  | .nothing => false
  | .current => n == v.place
  | .group => v.groupAt n == v.group
  | .ties => v.groupAt n == v.group && n != v.place

def fits : Edge → Edge → Bool
  | .last, _ | _, .first | .current, .before _ | .behind _, .before _ | .behind _, .current => false
  | _, _ => true

def frame (v : PartView) (unit : FrameUnit) (opening closing : Edge) (e : Exclusion) :
    Except Fault (List Nat) := do
  if !fits opening closing then .error (.operational "unsupported frame specification")
  let start ← v.sides unit opening
  let stop ← v.sides unit closing
  return (List.range v.size).filter fun n => start n != .lt && stop n != .gt && !v.isLeftOut e n

end PartView

namespace Window

def resolved (windows : List (String × Window)) : Nat → Window → Except Fault Window
  | 0, _ => .error (.operational "no such window")
  | _, .mk none parts order frame => .ok (.mk none parts order frame)
  | fuel + 1, .mk (some n) parts order frame => do
    match windows.find? fun (m, _) => sameName m n with
    | none => .error (.operational ("no such window: " ++ n))
    | some (_, base) =>
      let .mk _ baseParts baseOrder baseFrame ← resolved windows fuel base
      if !parts.isEmpty || (!order.isEmpty && !baseOrder.isEmpty) then
        .error (.operational ("cannot override window: " ++ n))
      return .mk none baseParts (if order.isEmpty then baseOrder else order)
        (frame.orElse fun _ => baseFrame)

end Window

namespace Function

def ofWindows : List (String × Nat × Nat) := [
  ("cume_dist", 0, 0), ("dense_rank", 0, 0), ("first_value", 1, 1), ("lag", 1, 3),
  ("last_value", 1, 1), ("lead", 1, 3), ("nth_value", 2, 2), ("ntile", 1, 1),
  ("percent_rank", 0, 0), ("rank", 0, 0), ("row_number", 0, 0)]

def windowFault? (name : String) (count : Nat) : Option Fault :=
  match ofWindows.lookup name.toLower with
  | some (least, greatest) =>
    if takes count least (some greatest) then none
    else some (.operational ("wrong number of arguments to function " ++ name ++ "()"))
  | none =>
    if isOfGroup name count then none
    else some (.operational (name ++ "() may not be used as a window function"))

end Function

end SchemaMigration.Sqlite
