import SchemaMigration.Datum
import SchemaMigration.History.Store
import SchemaMigration.Sqlite.Binding
import SchemaMigration.Sqlite.Function.Group
import SchemaMigration.Sqlite.OwnName

namespace SchemaMigration

def defaultHistoryTable : String := "DATABASECHANGELOG"

inductive NameFault
  | missing
  | noText
  deriving DecidableEq, Repr

/-- The name of the table. Without a schema the text of anything that can be a key serves as one. -/
def historyTableName (table : Datum) (hasSchema : Bool) : Except NameFault String :=
  match table.text? with
  | some s => .ok s
  | none =>
    if hasSchema || !table.isKey then .error .noText
    else if table.isNull then .error .missing
    else .ok table.display

def historySchemaName (schema : Datum) : Option String :=
  if schema.isNull then none else some schema.display

structure TableStore where
  table : String := defaultHistoryTable
  schema : Option String := none
  createsTable : Bool := true
  reachable : Bool := true
  initialized : Bool := false
  rows : Option (List Record) := none

namespace TableStore

def mainSchema : String := "main"

def fault (text : String) : String := "(sqlite3.OperationalError) " ++ text

/-- Whether the table is looked for before it is created: only the exact name of the schema leads to
the tables in it. -/
def looksFirst (t : TableStore) : Bool :=
  match t.schema with
  | none => true
  | some s => s == mainSchema

def isOccupied (t : TableStore) : Bool :=
  Sqlite.catalogs.contains t.table.toLower || (t.looksFirst && Sqlite.isTableFunction t.table)

def faultText (t : TableStore) : String :=
  if !t.reachable then fault "unable to open database file"
  else if t.isOccupied then fault "no such column: ID"
  else fault ("no such table: " ++ t.table)

def temporarySchema : String := "temp"

def hasSchema (t : TableStore) : Bool :=
  match t.schema with
  | none => true
  | some s => s == "" || [mainSchema, temporarySchema].contains s.toLower

def exists? (t : TableStore) : Bool := t.isOccupied || t.rows.isSome

def obstacle? (t : TableStore) : Option String :=
  if !t.reachable then some t.faultText
  else if !t.hasSchema then some (fault ("unknown database " ++ t.schema.getD ""))
  else if t.exists? then
    if t.looksFirst then none else some (fault ("table " ++ t.table ++ " already exists"))
  else if Sqlite.isOwnName t.table then
    some (fault ("object name reserved for internal use: " ++ t.table))
  else none

def prepare (t : TableStore) : Except StoreError Unit × TableStore :=
  if t.initialized then (.ok (), t)
  else if !t.createsTable then (.ok (), { t with initialized := true })
  else
    match t.obstacle? with
    | some text => (.error (.refused StoreOperation.prepare text), t)
    | none =>
      (.ok (), { t with
        initialized := true
        rows := if t.exists? then t.rows else some [] })

inductive RowFault
  | overflow
  | incomplete
  | unsupported
  deriving DecidableEq, Repr

namespace RowFault

def ofBinding : Sqlite.BindingFault → RowFault
  | .overflow => overflow
  | .unsupported => unsupported

def toError (operation : String) : RowFault → StoreError
  | .overflow => .overflow
  | .incomplete => .refused operation "(sqlite3.IntegrityError) NOT NULL constraint failed"
  | .unsupported => .refused operation "(sqlite3.ProgrammingError) type is not supported"

end RowFault

def onRows {α : Type} (t : TableStore) (operation : String)
    (action : List Record → Except RowFault (α × List Record)) : Except StoreError α × TableStore :=
  match t.prepare with
  | (.error e, t) => (.error e, t)
  | (.ok (), t) =>
    match t.reachable, t.rows with
    | true, some rows =>
      match action rows with
      | .ok (result, rows) => (.ok result, { t with rows := some rows })
      | .error f => (.error (f.toError operation), t)
    | _, _ => (.error (.refused operation t.faultText), t)

def cellOf (v : Value) : Sqlite.Cell :=
  match Sqlite.Cell.ofValue v with
  | .ok c => c
  | .error _ => .null

def notAfter (a b : Record) : Bool :=
  match (cellOf a.order).compareWith .binary (cellOf b.order) with
  | .lt => true
  | .gt => false
  | .eq =>
    match a.date, b.date with
    | none, _ => true
    | some _, none => false
    | some d, some e => d.micros ≤ e.micros

def inOrder (rows : List Record) : List Record := rows.mergeSort notAfter

def descriptionWidth : Nat := 255

/-- One more than the greatest order of the rows, as the table counts: beyond 64 bits with binary
numbers, and a text for the number that it starts with. -/
def nextOrder (rows : List Record) : Value :=
  let greatest := rows.foldl (fun best r =>
    let c := cellOf r.order
    if best.compareWith .binary c == .lt then c else best) Sqlite.Cell.null
  let last := if greatest.isNull then .int 0 else greatest
  (last.calculate (· + ·) Binary64.add (.int 1)).toValue

def storedText (v : Value) : Except RowFault Value :=
  (Sqlite.Affinity.text.stored v).mapError RowFault.ofBinding

def storedOrder (v : Value) : Except RowFault Value :=
  (Sqlite.Affinity.integer.stored v).mapError RowFault.ofBinding

def storedIdentity (i : Identity) : Except RowFault Identity := do
  let id ← storedText i.id
  let author ← storedText i.author
  let path ← storedText i.path
  return ⟨id, author, path⟩

def isWhole (i : Identity) : Bool := !i.id.isNull && !i.author.isNull && !i.path.isNull

def updateRows (i : Identity) (checksum : Value) (rows : List Record) :
    Except RowFault (Unit × List Record) := do
  let checksum ← storedText checksum
  let i ← storedIdentity i
  return ((), rows.map fun r => if r.identity == i then { r with checksum := checksum } else r)

def rowOfRun (now : Timestamp) (c : ChangeSet) (i : Identity) (rows : List Record) : Record :=
  let full := Record.ofRun c i.path now (nextOrder rows)
  { full with
    id := i.id
    author := i.author
    description := .text (c.description.take descriptionWidth).toString }

/-- All rows of the identity are renewed; without one, a row is inserted, and for that the identity
has to be whole. -/
def markRows (now : Timestamp) (c : ChangeSet) (path : Value) (rows : List Record) :
    Except RowFault (Unit × List Record) := do
  let i ← storedIdentity (c.recordedAs path)
  let row := rowOfRun now c i rows
  if rows.any fun r => r.identity == i then
    return ((), rows.map fun r => if r.identity == i then row else r)
  else if isWhole i then return ((), rows ++ [row])
  else .error .incomplete

def removeRows (i : Identity) (rows : List Record) : Except RowFault (Unit × List Record) := do
  let i ← storedIdentity i
  return ((), rows.filter fun r => r.identity != i)

def rowOf (r : Record) : Except RowFault Record := do
  let i ← storedIdentity r.identity
  let order ← storedOrder r.order
  let checksum ← storedText r.checksum
  let description ← storedText r.description
  match r.date with
  | some d =>
    if order.isNull || !isWhole i then .error .incomplete
    else return {
      id := i.id
      author := i.author
      path := i.path
      checksum := checksum
      date := some { d with offset := none }
      order := order
      description := description }
  | none => .error .incomplete

def rowsOf : List Record → Except RowFault (List Record)
  | [] => .ok []
  | r :: rest => do
    let row ← rowOf r
    let rows ← rowsOf rest
    return row :: rows

end TableStore

instance : HistoryStore TableStore where
  load t := t.onRows StoreOperation.read fun rows => .ok (TableStore.inOrder rows, rows)
  updateChecksum t i checksum :=
    t.onRows StoreOperation.updateChecksum (TableStore.updateRows i checksum)
  markRan t now c path := t.onRows StoreOperation.write (TableStore.markRows now c path)
  remove t c path := t.onRows StoreOperation.delete (TableStore.removeRows (c.recordedAs path))

end SchemaMigration
