import SchemaMigration.Sqlite.Scope

namespace SchemaMigration.Sqlite.Evaluation

def misuse (name : String) : Fault := .operational ("misuse of aggregate: " ++ name ++ "()")

def holds (o : Operator) (ord : Ordering) : Bool :=
  match o with
  | .equal | .same => ord == .eq
  | .unequal | .notSame => ord != .eq
  | .less => ord == .lt
  | .atMost => ord != .gt
  | .greater => ord == .gt
  | .atLeast => ord != .lt
  | _ => false

def operate (o : Operator) (affinity : Option Affinity) (collation : Collation) (a b : Cell) :
    Except Fault Cell :=
  match o with
  | .or => .ok (.ofTruth (Cell.or a.truth b.truth))
  | .and => .ok (.ofTruth (Cell.and a.truth b.truth))
  | .same | .notSame =>
    .ok (.ofBool (holds o (if a.isNull || b.isNull then (if a.isNull && b.isNull then .eq else .lt)
      else (Cell.compareOperands? affinity collation a b).getD .eq)))
  | .equal | .unequal | .less | .atMost | .greater | .atLeast =>
    .ok (.ofTruth ((Cell.compareOperands? affinity collation a b).map (holds o)))
  | .bitAnd => .ok (Cell.onBits (· &&& ·) a b)
  | .bitOr => .ok (Cell.onBits (· ||| ·) a b)
  | .shiftLeft => .ok (Cell.shift a b true)
  | .shiftRight => .ok (Cell.shift a b false)
  | .add => .ok (Cell.calculate (· + ·) Binary64.add a b)
  | .subtract => .ok (Cell.calculate (· - ·) Binary64.sub a b)
  | .multiply => .ok (Cell.calculate (· * ·) Binary64.mul a b)
  | .divide => .ok (Cell.divide a b)
  | .remainder => .ok (Cell.remainder a b)
  | .join => .ok (Cell.join a b)
  | .part => Document.operand false a b
  | .partCell => Document.operand true a b

def postponed {α : Type} : Except Fault α → Except Fault (Except Fault α)
  | .ok a => .ok (.ok a)
  | .error f => if f.isLate then .ok (.error f) else .error f

def possible {α : Type} (result : Except Fault α) : Except Fault Unit :=
  (postponed result).map fun _ => ()

def firstGiven : List (Except Fault Cell) → Except Fault Cell
  | [] => .ok .null
  | found :: rest => do
    let c ← found
    if c.isNull then firstGiven rest else return c

def chosen (otherwise : Except Fault Cell) :
    List (Except Fault Bool × Except Fault Cell) → Except Fault Cell
  | [] => otherwise
  | (holds, c) :: rest => do
    let isChosen ← holds
    if isChosen then c else chosen otherwise rest

def sparing : List String := ["coalesce", "ifnull", "iif"]

def spared (name : String) (found : List (Except Fault Cell)) : Except Fault Cell :=
  match name, found with
  | "iif", [t, a, b] => do
    let c ← t
    if c.truth == some true then a else b
  | _, found => firstGiven found

def rowMisuse : Fault := .operational "row value misused"

def compareSlots (o : Operator) (a b : Slot) : Except Fault Cell :=
  operate o (Cell.commonAffinity? a.affinity b.affinity)
    ((a.collation.orElse fun _ => b.collation).getD .binary) a.cell b.cell

/-- Whether two rows are equal: every cell to the one in its place, up to the first that is not. -/
def rowsEqual (o : Operator) : List (Except Fault Slot) → List (Except Fault Slot) →
    Except Fault (Option Bool)
  | a :: as, b :: bs => do
    let x ← a
    let y ← b
    let c ← compareSlots o x y
    if c.truth == some false then return some false
    let more ← rowsEqual o as bs
    return Cell.and c.truth more
  | _, _ => .ok (some true)

/-- Whether a row comes before another one, by the first cells that are not equal, or is equal to it
if that counts, too. -/
def rowsOrdered (o : Operator) (whenEqual : Bool) : List (Except Fault Slot) →
    List (Except Fault Slot) → Except Fault (Option Bool)
  | a :: as, b :: bs => do
    let x ← a
    let y ← b
    let isBefore ← compareSlots o x y
    let isSame ← compareSlots .equal x y
    if isBefore.truth == some true || isSame.truth == some false then return isBefore.truth
    let more ← rowsOrdered o whenEqual as bs
    return Cell.or isBefore.truth (Cell.and isSame.truth more)
  | _, _ => .ok (some whenEqual)

def compareRows (o : Operator) (a b : List (Except Fault Slot)) : Except Fault Cell :=
  let negated := fun (b : Option Bool) => Cell.ofTruth (b.map (!·))
  if a.length != b.length then .error rowMisuse
  else
    match o with
    | .equal | .same => (rowsEqual o a b).map Cell.ofTruth
    | .unequal => (rowsEqual .equal a b).map negated
    | .notSame => (rowsEqual .same a b).map negated
    | .less | .greater => (rowsOrdered o false a b).map Cell.ofTruth
    | .atMost => (rowsOrdered .less true a b).map Cell.ofTruth
    | .atLeast => (rowsOrdered .greater true a b).map Cell.ofTruth
    | _ => .error rowMisuse

def isAmong (negated : Bool) (affinity : Option Affinity) (collation : Collation) (x : Cell)
    (cells : List Cell) : Cell :=
  let found := cells.any fun c => Cell.compareOperands? affinity collation x c == some .eq
  if cells.isEmpty then .ofBool negated
  else if found then .ofBool !negated
  else if x.isNull || cells.any Cell.isNull then .null
  else .ofBool negated

def isRowAmong (negated : Bool) (row : List (Except Fault Slot)) (columns : List Slot)
    (rows : List (List Cell)) :
    Except Fault Cell := do
  if row.length != columns.length then
    .error (.operational "sub-select returns another number of columns")
  let _ ← row.mapM id
  let found ← rows.mapM fun r =>
    rowsEqual .equal row (List.zipWith (fun (c : Slot) cell =>
      .ok { c with cell := cell }) columns r)
  let among := found.foldl Cell.or (some false)
  return .ofTruth (among.map (· != negated))

end SchemaMigration.Sqlite.Evaluation
