import SchemaMigration.Sqlite.Scope

namespace SchemaMigration.Sqlite.Evaluation

def compareKey (d : Direction) (collation : Collation) (a b : Cell) : Ordering :=
  let plain := Cell.compareWith collation a b
  if a.isNull || b.isNull then
    match d.nullsFirst with
    | some true => plain
    | some false => plain.swap
    | none => if d.descends then plain.swap else plain
  else if d.descends then plain.swap else plain

def compareKeys : List (Direction × Collation) → List Cell → List Cell → Ordering
  | (d, collation) :: rest, a :: as, b :: bs =>
    match compareKey d collation a b with
    | .eq => compareKeys rest as bs
    | ord => ord
  | _, _, _ => .eq

def sortedBy {α : Type} (by_ : List (Direction × Collation)) (rows : List (α × List Cell)) :
    List (α × List Cell) :=
  rows.mergeSort fun a b => compareKeys by_ a.2 b.2 != .gt

def upwards (collations : List Collation) : List (Direction × Collation) :=
  collations.map fun c => ({}, c)

def firstOfEach {α : Type} (by_ : List (Direction × Collation)) (rows : List (α × List Cell)) :
    List (α × List Cell) :=
  (rows.foldl (fun kept row =>
    if kept.any fun k => compareKeys by_ k.2 row.2 == .eq then kept else row :: kept) []).reverse

def groupsOf {α : Type} (by_ : List (Direction × Collation)) :
    List (α × List Cell) → List (List (α × List Cell))
  | [] => []
  | row :: rest =>
    match groupsOf by_ rest with
    | [] => [[row]]
    | g :: more =>
      if (g.head?.map fun r => compareKeys by_ row.2 r.2 == .eq).getD false then (row :: g) :: more
      else [row] :: g :: more

def collationsOf (columns : List Slot) : List Collation :=
  columns.map fun c => c.collation.getD .binary

def combine (c : Combination) (a b : Rows) : Except Fault Rows :=
  if a.columns.length != b.columns.length then
    .error (.operational "SELECTs do not have the same number of result columns")
  else
    let by_ := upwards (collationsOf a.columns)
    let isIn := fun (r : List Cell) (rows : List (List Cell)) =>
      rows.any fun s => compareKeys by_ r s == .eq
    let sorted := fun (rows : List (List Cell)) =>
      (sortedBy by_ (firstOfEach by_ (rows.map fun r => (r, r)))).map (·.1)
    .ok { a with
      rows :=
        match c with
        | .unionAll => a.rows ++ b.rows
        | .union => sorted (a.rows ++ b.rows)
        | .intersect => sorted (a.rows.filter fun r => isIn r b.rows)
        | .except => sorted (a.rows.filter fun r => !isIn r b.rows) }

/-- The result of a function on groups from its arguments in all rows that are taken, each with what
the rows are ordered by. -/
def collected (s : Scope) (name : String) (isDistinct : Bool) (args : List Term)
    (order : List (Term × Direction)) (found : List (Option (List Argument × List Cell))) :
    Except Fault Cell :=
  let taken := found.filterMap id
  let by_ := order.map fun (t, d) => (d, (s.collation? t).getD .binary)
  let rows := (sortedBy by_ taken).map (·.1)
  let collation := ((args.head?.bind s.collation?).getD .binary)
  let rows :=
    if isDistinct then
      (firstOfEach (upwards [collation]) (rows.map fun r => (r, r.map Argument.cell))).map (·.1)
    else rows
  Function.applyToGroup name collation rows

def limitOf (c : Cell) : Except Fault Int :=
  match Affinity.integer.apply c with
  | .int n => .ok n
  | _ => .error (.operational "datatype mismatch")

def limited {α : Type} (limit offset : Option Int) (rows : List α) : List α :=
  let rows := rows.drop (offset.getD 0).toNat
  match limit with
  | some n => if n < 0 then rows else rows.take n.toNat
  | none => rows

end SchemaMigration.Sqlite.Evaluation
