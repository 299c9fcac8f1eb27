import SchemaMigration.Sqlite.Creation

namespace SchemaMigration.Sqlite

namespace Column

def admits (c : Column) (cell : Cell) : Bool :=
  match c.type.toUpper, cell with
  | _, .null | "ANY", _ => true
  | "INT", .int _ | "INTEGER", .int _ | "REAL", .real _ | "TEXT", .text _ | "BLOB", .bytes _ => true
  | _, _ => false

def defaultCell (c : Column) : Except Fault Cell :=
  match c.default? with
  | some t => (t.evaluate { content := {} }).map c.affinity.apply
  | none => .ok .null

end Column

namespace Table

def withGenerated (t : Table) (row : Row) : Except Fault Row :=
  (t.columns.zipIdx).foldlM (fun row (c, n) =>
    match c.generated with
    | none => return row
    | some u => do
      let cell ← u.evaluate (t.scope row)
      return { row with cells := row.cells.set n (c.affinity.apply cell) }) row

def rowFault? (t : Table) (row : Row) : Except Fault Unit := do
  for (c, cell) in t.columns.zip row.cells do
    if c.isNotNull && cell.isNull then
      .error (.integrity ("NOT NULL constraint failed: " ++ t.name ++ "." ++ c.name))
    if t.definition.isStrict && !c.admits cell then
      .error (.integrity ("cannot store a value in column " ++ t.name ++ "." ++ c.name))
  for u in t.checks do
    let cell ← u.evaluate (t.scope row)
    if cell.truth == some false then .error (.integrity "CHECK constraint failed")

def indexKey (t : Table) (i : Index) (row : Row) : Except Fault (Option (List Cell)) := do
  let taken ← i.condition.mapM fun u => u.evaluate (t.scope row)
  if (taken.map fun c => c.truth == some true).getD true then
    let cells ← i.terms.mapM fun (u, _) => u.evaluate (t.scope row)
    return some cells
  else return none

def sameKey (collations : List Collation) (a b : List Cell) : Bool :=
  !(a ++ b).any Cell.isNull &&
    Evaluation.compareKeys (Evaluation.upwards collations) a b == .eq

def sharesKey (t : Table) (i : Index) (row : Row) (others : List Row) : Except Fault Bool := do
  match ← t.indexKey i row with
  | none => return false
  | some key =>
    let keys ← others.mapM (t.indexKey i)
    return keys.any fun k => (k.map (sameKey (i.terms.map (·.2)) key)).getD false

def sharedFault? (t : Table) (indexes : List Index) (row : Row) (others : List Row) :
    Except Fault Unit := do
  if others.any fun r => r.id == row.id then
    .error (.integrity ("UNIQUE constraint failed: " ++ t.name))
  for i in t.keyIndexes ++ indexes do
    if i.isUnique then
      let isShared ← t.sharesKey i row others
      if isShared then .error (.integrity ("UNIQUE constraint failed: " ++ t.name))

def numbered (t : Table) (given : Option Cell) (cells : List Cell) : Except Fault Row := do
  let id ←
    match given with
    | none | some .null => .ok t.nextId
    | some c =>
      match Affinity.integer.apply c with
      | .int n => .ok n
      | _ => .error (.integrity "datatype mismatch")
  match t.rowColumn with
  | none => return ⟨id, cells⟩
  | some n =>
    return ⟨id, List.zipWith (fun (c : Column) cell =>
      if sameName c.name n then .int id else cell) t.columns cells⟩

def insert (t : Table) (indexes : List Index) (given : List (String × Cell)) :
    Except Fault Table := do
  let cellOf := fun (n : String) => (given.find? fun (m, _) => sameName m n).map (·.2)
  let cells ← t.columns.mapM fun c =>
    match cellOf c.name with
    | some cell => .ok (c.affinity.apply cell)
    | none => c.defaultCell
  let id :=
    match t.rowColumn with
    | some n => cellOf n
    | none =>
      (rowNames.filter fun n => (t.column? n).isNone).findSome? cellOf
  let row ← t.numbered id cells
  let row ← t.withGenerated row
  t.rowFault? row
  t.sharedFault? indexes row t.rows
  return { t with rows := t.rows ++ [row] }

def changed (t : Table) (row : Row) (given : List (String × Cell)) : Except Fault Row := do
  let cells := List.zipWith (fun (c : Column) cell =>
    match given.find? fun (m, _) => sameName m c.name with
    | some (_, new) => c.affinity.apply new
    | none => cell) t.columns row.cells
  let moved := given.find? fun (m, _) =>
    match t.rowColumn with
    | some n => sameName m n
    | none => rowNames.any (sameName m) && (t.column? m).isNone
  match moved with
  | some (_, c) => t.numbered (some c) cells
  | none => return ⟨row.id, cells⟩

def updateRows (t : Table) (indexes : List Index)
    (change : Row → Except Fault (Option (List (String × Cell)))) :
    List Row → List Row → Except Fault (List Row)
  | done, [] => .ok done
  | done, row :: rest => do
    match ← change row with
    | none => t.updateRows indexes change (done ++ [row]) rest
    | some given =>
      let row ← t.changed row given
      let row ← t.withGenerated row
      t.rowFault? row
      t.sharedFault? indexes row (done ++ rest)
      t.updateRows indexes change (done ++ [row]) rest

def existingFault? (t : Table) (i : Index) : List Row → Except Fault Unit
  | [] => .ok ()
  | row :: rest => do
    let isShared ← t.sharesKey i row rest
    if i.isUnique && isShared then
      .error (.integrity ("UNIQUE constraint failed: " ++ t.name))
    t.existingFault? i rest

end Table

namespace Content

def targets (t : Table) (names : List String) : Except Fault (List String) :=
  if names.isEmpty then .ok ((t.columns.filter fun c => c.generated.isNone).map Column.name)
  else
    names.mapM fun n =>
      match t.column? n with
      | some c =>
        if c.generated.isSome then
          .error (.operational ("cannot INSERT into generated column \"" ++ n ++ "\""))
        else .ok n
      | none =>
        if rowNames.any (sameName n) then .ok n
        else .error (.operational ("table " ++ t.name ++ " has no column named " ++ n))

def mustBeOrdinary (t : Table) : Except Fault Unit :=
  if Place.temp.catalogNames.any (sameName t.name) then
    .error (.operational ("table " ++ t.name ++ " may not be modified"))
  else .ok ()

structure Taken where
  table : Table
  name : String
  rows : List Row

def told (c : Content) (taken : Taken) (columns : List ResultColumn) : Except Fault (Option Rows) :=
  if columns.isEmpty then .ok none
  else
    let slots := fun (row : Row) => (Seat.ofRow none taken.name taken.table row).slots
    let seen : Rows := ⟨slots ⟨0, []⟩, taken.rows.map fun row => (slots row).map Slot.cell⟩
    (Evaluation.rows Evaluation.enough { content := c, views := [(taken.name, .rows seen)] }
      (.select false columns (some (.table none taken.name none)) none [] none [])).map some

def insert (c : Content) (schema : Option String) (table : String) (names : List String)
    (q : Option Query) : Except Fault (Content × Taken) := do
  let (p, t) ← c.findTable schema table
  mustBeOrdinary t
  let names ← targets t names
  let indexes := c.indexesOf p t.name
  let rows ←
    match q with
    | none => .ok [[]]
    | some q => do
      let result ← q.evaluate c
      if result.columns.length != names.length then
        .error (.operational "another number of values than columns")
      .ok result.rows
  let after ← rows.foldlM (fun t row => t.insert indexes (names.zip row)) t
  let last := if rows.isEmpty || t.isKeyOrdered then none else (after.rows.getLast?).map Row.id
  return ((c.putTable p t.name after).counted rows.length last,
    ⟨t, t.name, after.rows.drop t.rows.length⟩)

def rowScope (c : Content) (p : Place) (name : String) (t : Table) (row : Row) : Scope :=
  { content := c, levels := [{ seats := [Seat.ofRow (some p.name) name t row] }] }

def takes (s : Scope) (condition : Option Term) : Except Fault Bool := do
  let cell ← condition.mapM fun t => t.evaluate s
  return (cell.map fun c => c.truth == some true).getD true

def update (c : Content) (schema : Option String) (table : String) (alias_ : Option String)
    (sets : List (String × Term)) (condition : Option Term) : Except Fault (Content × Taken) := do
  let (p, t) ← c.findTable schema table
  mustBeOrdinary t
  let name := alias_.getD t.name
  for (n, _) in sets do
    if (t.column? n).isNone && !rowNames.any (sameName n) then .error (Fault.noColumn n)
    if ((t.column? n).bind Column.generated).isSome then
      .error (.operational ("cannot UPDATE generated column \"" ++ n ++ "\""))
  let cellsFor := fun (row : Row) => sets.mapM fun (n, u) => do
    let cell ← u.evaluate (c.rowScope p name t row)
    return (n, cell)
  Evaluation.possible (takes (c.rowScope p name t ⟨0, []⟩) condition)
  Evaluation.possible (cellsFor ⟨0, []⟩)
  let rows ← t.updateRows (c.indexesOf p t.name) (fun row => do
    let isTaken ← takes (c.rowScope p name t row) condition
    if isTaken then
      let given ← cellsFor row
      return some given
    else return none) [] t.rows
  let changed ← (t.rows.zip rows).filterM fun (row, _) => takes (c.rowScope p name t row) condition
  return ((c.putTable p t.name { t with rows := rows }).counted changed.length none,
    ⟨t, name, changed.map (·.2)⟩)

def delete (c : Content) (schema : Option String) (table : String) (alias_ : Option String)
    (condition : Option Term) : Except Fault (Content × Taken) := do
  let (p, t) ← c.findTable schema table
  mustBeOrdinary t
  let name := alias_.getD t.name
  Evaluation.possible (takes (c.rowScope p name t ⟨0, []⟩) condition)
  let marked ← t.rows.mapM fun row => do
    let isTaken ← takes (c.rowScope p name t row) condition
    return (row, isTaken)
  let gone := (marked.filter (·.2)).map (·.1)
  let rows := (marked.filter (!·.2)).map (·.1)
  return ((c.putTable p t.name { t with rows := rows }).counted gone.length none, ⟨t, name, gone⟩)

end Content

end SchemaMigration.Sqlite
