import SchemaMigration.Sqlite.Function

namespace SchemaMigration.Sqlite

/-- A sum under way: whole as long as all that was added is, then a binary number beside the part of
it that was lost by rounding. -/
structure Sum where
  count : Nat := 0
  whole : Int := 0
  isReal : Bool := false
  isBeyond : Bool := false
  real : Binary64 := .zero false
  lost : Binary64 := .zero false
  deriving DecidableEq, Repr

namespace Sum

def addReal (s : Sum) (x : Binary64) : Sum :=
  let t := s.real.add x
  let rest :=
    if s.real.abs.compare? x.abs == some .gt then (s.real.sub t).add x else (x.sub t).add s.real
  { s with real := t, lost := s.lost.add rest }

def smallLimit : Nat := 4503599627370496

def split (n : Int) : Binary64 × Binary64 :=
  if n.natAbs < smallLimit then (.ofInt n, .zero false)
  else (.ofInt (n - n.tmod 16384), .ofInt (n.tmod 16384))

def addWhole (s : Sum) (n : Int) : Sum :=
  if n.natAbs < smallLimit then s.addReal (.ofInt n)
  else (s.addReal (split n).1).addReal (split n).2

def turned (s : Sum) : Sum :=
  { s with isReal := true, real := (split s.whole).1, lost := (split s.whole).2 }

def add (s : Sum) (c : Cell) : Sum :=
  match c, Numeric.numberOf? c with
  | .null, _ => s
  | _, some (.int n) =>
    let s := { s with count := s.count + 1 }
    if s.isReal then s.addWhole n
    else if Cell.isInt (s.whole + n) then { s with whole := s.whole + n }
    else { s.turned.addWhole n with isBeyond := true }
  | c, _ =>
    let s := { s with count := s.count + 1 }
    if s.isReal then { s.addReal c.toReal with isBeyond := false } else s.turned.addReal c.toReal

def ofCells (cells : List Cell) : Sum := cells.foldl add {}

def toReal (s : Sum) : Binary64 :=
  if !s.isReal then .ofInt s.whole
  else
    match s.lost with
    | .finite .. => s.real.add s.lost
    | _ => s.real

def toCell (s : Sum) : Except Fault Cell :=
  if s.count == 0 then .ok .null
  else if !s.isReal then .ok (.int s.whole)
  else if s.isBeyond then .error (.late "integer overflow")
  else .ok (Cell.ofReal s.toReal)

def mean (s : Sum) : Cell :=
  if s.count == 0 then .null
  else Cell.ofReal ((s.toReal.div? (Binary64.ofInt s.count)).getD .nan)

end Sum

namespace Function

def ofGroups : List (String × Nat × Nat) := [
  ("avg", 1, 1), ("count", 0, 1), ("group_concat", 1, 2), ("json_group_array", 1, 1),
  ("json_group_object", 2, 2), ("max", 1, 1), ("min", 1, 1), ("string_agg", 2, 2), ("sum", 1, 1),
  ("total", 1, 1)]

def isOfGroup (name : String) (count : Nat) : Bool :=
  ((ofGroups.lookup name.toLower).map fun (least, greatest) =>
    takes count least (some greatest)).getD false

def fault? (name : String) (count : Nat) : Option Fault :=
  match arities.lookup name.toLower with
  | some (least, greatest) =>
    if takes count least greatest || isOfGroup name count then none else some wrongCount
  | none =>
    if isOfGroup name count then none
    else if (ofGroups.lookup name.toLower).isSome then some wrongCount
    else some (.operational ("no such function: " ++ name))
where
  wrongCount : Fault := .operational ("wrong number of arguments to function " ++ name ++ "()")

def joined (rows : List (List Cell)) : Cell :=
  let texts := rows.filterMap fun
    | .null :: _ | [] => none
    | c :: between => some ((between.head?.map Cell.toText).getD ",", c.toText)
  match texts with
  | [] => .null
  | (_, first) :: more => .text (more.foldl (fun s (between, t) => s ++ between ++ t) first)

def extremeOf (collation : Collation) (wanted : Ordering) : List Cell → Cell
  | [] => .null
  | c :: cells => extreme collation wanted false c cells

def applyToGroup (name : String) (collation : Collation) (rows : List (List Argument)) :
    Except Fault Cell :=
  let firsts := (rows.filterMap List.head?).map Argument.cell
  let given := firsts.filter fun c => !c.isNull
  match name.toLower with
  | "count" => .ok (.int (if rows.all List.isEmpty then rows.length else given.length))
  | "max" => .ok (extremeOf collation .gt given)
  | "min" => .ok (extremeOf collation .lt given)
  | "sum" => (Sum.ofCells given).toCell
  | "total" => .ok (Cell.ofReal (Sum.ofCells given).toReal)
  | "avg" => .ok (Sum.ofCells given).mean
  | "group_concat" | "string_agg" => .ok (joined (rows.map fun r => r.map Argument.cell))
  | "json_group_array" => Document.listOfGroup (rows.filterMap List.head?)
  | "json_group_object" =>
    Document.objectOfGroup (rows.filterMap fun
      | [k, v] => some (k.cell, v)
      | _ => none)
  | n => .error (.operational ("no such function: " ++ n))

end Function

end SchemaMigration.Sqlite
