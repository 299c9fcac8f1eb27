import SchemaMigration.Database
import SchemaMigration.History.Table
import SchemaMigration.Sqlite.Binding
import SchemaMigration.Sqlite.Connection
import SchemaMigration.Timestamp.Reading

namespace SchemaMigration.Sqlite

structure HistoryTable where
  connection : Connection
  table : String := defaultHistoryTable
  schema : Option String := none
  isPrepared : Bool := false

namespace HistoryTable

def style : Identifier.Style := .of (some .sqlite)

def target (h : HistoryTable) : String :=
  match h.schema with
  | some s =>
    if s == "" then style.quote h.table else style.quoteSchema s ++ "." ++ style.quote h.table
  | none => style.quote h.table

def columns : List (String × String) := [
  ("ID", "VARCHAR(255) NOT NULL"), ("AUTHOR", "VARCHAR(255) NOT NULL"),
  ("FILENAME", "VARCHAR(255) NOT NULL"), ("DATEEXECUTED", "DATETIME NOT NULL"),
  ("ORDEREXECUTED", "INTEGER NOT NULL"), ("MD5SUM", "VARCHAR(35)"), ("DESCRIPTION", "VARCHAR(255)")]

def column (h : HistoryTable) (name : String) : String := h.target ++ "." ++ style.quote name

def creation (h : HistoryTable) : String :=
  "CREATE TABLE " ++ h.target ++ " (\n" ++
    Text.join ", \n" (columns.map fun (n, type) => "\t" ++ style.quote n ++ " " ++ type) ++ "\n)"

def textLiteral (s : String) : String :=
  if s.toList.contains '\x00' then
    "CAST(" ++ (Cell.bytes (s.toUTF8.toList.map UInt8.toNat)).quoted ++ " AS TEXT)"
  else Database.textLiteral s

def realLiteral : Binary64 → String
  | .nan => "NULL"
  | .infinite negative => if negative then "-9e999" else "9e999"
  | x => x.text

inductive SendFault
  | binding (f : BindingFault)
  | fault (f : Fault)

namespace SendFault

def toError (operation : String) : SendFault → StoreError
  | .binding .overflow => .overflow
  | .binding .unsupported =>
    .refused operation (Fault.programming "type is not supported").message
  | .fault f => .refused operation f.message

end SendFault

def literal (v : Value) : Except SendFault String :=
  match Cell.ofValue v with
  | .ok .null => .ok "NULL"
  | .ok (.int n) => .ok (toString n)
  | .ok (.real x) => .ok (realLiteral x)
  | .ok c => .ok (textLiteral c.toText)
  | .error f => .error (.binding f)

def equals (h : HistoryTable) (name : String) (v : Value) : Except SendFault String := do
  let s ← literal v
  return h.column name ++ (if v.isNull then " IS " else " = ") ++ s

def condition (h : HistoryTable) (i : Identity) : Except SendFault String := do
  let id ← h.equals "ID" i.id
  let author ← h.equals "AUTHOR" i.author
  let path ← h.equals "FILENAME" i.path
  return " WHERE " ++ id ++ " AND " ++ author ++ " AND " ++ path

def timeText (t : Timestamp) : String :=
  String.ofList (Timestamp.dateChars t.year t.month t.day ++ ' ' :: Timestamp.two t.hour ++
    ':' :: Timestamp.two t.minute ++ ':' :: Timestamp.two t.second ++ '.' ::
      Binary64.padded 6 t.micro)

def selection (h : HistoryTable) : String :=
  "SELECT " ++ Text.join ", " (columns.map fun (n, _) => h.column n) ++ " FROM " ++ h.target ++
    " ORDER BY " ++ h.column "ORDEREXECUTED" ++ ", " ++ h.column "DATEEXECUTED"

def orderQuery (h : HistoryTable) : String :=
  "SELECT coalesce(max(" ++ h.column "ORDEREXECUTED" ++ "), 0) + 1 FROM " ++ h.target

def assignments (cells : List (String × String)) : String :=
  Text.join ", " (cells.map fun (n, literal) => style.quote n ++ "=" ++ literal)

def updating (h : HistoryTable) (cells : List (String × String)) (condition : String) : String :=
  "UPDATE " ++ h.target ++ " SET " ++ assignments cells ++ condition

def inserting (h : HistoryTable) (cells : List (String × String)) : String :=
  "INSERT INTO " ++ h.target ++ " (" ++ Text.join ", " (cells.map fun (n, _) => style.quote n) ++
    ") VALUES (" ++ Text.join ", " (cells.map (·.2)) ++ ")"

def transact (h : HistoryTable) (statements : List String) : Except SendFault Unit × HistoryTable :=
  let (sent, fault) := statements.foldl (fun (sent, fault) sql =>
    match fault with
    | some f => (sent, some f)
    | none =>
      match ((h.connection.sent sent).now).execute sql with
      | .ok _ => (sent ++ [sql], none)
      | .error f => (sent ++ [sql], some f)) ([], (none : Option Fault))
  let t : Transaction := ⟨fault.isNone, sent⟩
  (fault.elim (.ok ()) fun f => .error (.fault f),
    { h with connection := h.connection.after t })

def prepare (h : HistoryTable) : Except StoreError Unit × HistoryTable :=
  if h.isPrepared then (.ok (), h)
  else
    match h.connection.columnsIn? h.schema h.table with
    | .error f => (.error (.refused StoreOperation.prepare f.message), h)
    | .ok (some _) => (.ok (), { h with isPrepared := true })
    | .ok none =>
      match h.transact [h.creation] with
      | (.ok (), h) => (.ok (), { h with isPrepared := true })
      | (.error f, h) => (.error (f.toError StoreOperation.prepare), h)

def attempt {α : Type} (h : HistoryTable) (operation : String)
    (action : HistoryTable → Except SendFault α × HistoryTable) :
    Except StoreError α × HistoryTable :=
  match h.prepare with
  | (.error e, h) => (.error e, h)
  | (.ok (), h) =>
    let (result, h) := action h
    (result.mapError (SendFault.toError operation), h)

def ask (h : HistoryTable) (sql : String) : Except SendFault (List (List Cell)) := do
  let (_, answer) ← (h.connection.execute sql).mapError .fault
  return (answer.map Rows.rows).getD []

def dateOf (c : Cell) : Option Timestamp := (Timestamp.ofText c.toText).toOption

def recordOf : List Cell → Option Record
  | [id, author, path, date, order, checksum, description] => some {
      id := id.toValue
      author := author.toValue
      path := path.toValue
      checksum := checksum.toValue
      date := dateOf date
      order := order.toValue
      description := description.toValue }
  | _ => none

def load (h : HistoryTable) : Except StoreError (List Record) × HistoryTable :=
  h.attempt StoreOperation.read fun h =>
    ((h.ask h.selection).map fun rows => rows.filterMap recordOf, h)

def onIdentity (h : HistoryTable) (i : Identity)
    (statements : String → Except SendFault (List String)) : Except SendFault Unit × HistoryTable :=
  match (h.condition i).bind statements with
  | .ok sql => h.transact sql
  | .error f => (.error f, h)

def updateChecksum (h : HistoryTable) (i : Identity) (checksum : Value) :
    Except StoreError Unit × HistoryTable :=
  h.attempt StoreOperation.updateChecksum fun h =>
    h.onIdentity i fun condition => do
      let s ← literal checksum
      return [h.updating [("MD5SUM", s)] condition]

def marking (h : HistoryTable) (now : Timestamp) (c : ChangeSet) (i : Identity)
    (condition : String) :
    Except SendFault (List String) := do
  let order ← h.ask h.orderQuery
  let found ← h.ask ("SELECT count(*) FROM " ++ h.target ++ condition)
  let cells := [("DATEEXECUTED", textLiteral (timeText now)),
    ("ORDEREXECUTED", (((order.head?.bind List.head?).getD .null)).quoted),
    ("MD5SUM", textLiteral c.checksum),
    ("DESCRIPTION", textLiteral (c.description.take TableStore.descriptionWidth).toString)]
  let update := h.updating cells condition
  if found != [[.int 0]] then return [update]
  else
    let id ← literal i.id
    let author ← literal i.author
    let path ← literal i.path
    return [update, h.inserting ([("ID", id), ("AUTHOR", author), ("FILENAME", path)] ++ cells)]

def markRan (h : HistoryTable) (now : Timestamp) (c : ChangeSet) (path : Value) :
    Except StoreError Unit × HistoryTable :=
  h.attempt StoreOperation.write fun h =>
    h.onIdentity (c.recordedAs path) (h.marking now c (c.recordedAs path))

def remove (h : HistoryTable) (c : ChangeSet) (path : Value) :
    Except StoreError Unit × HistoryTable :=
  h.attempt StoreOperation.delete fun h =>
    h.onIdentity (c.recordedAs path) fun condition => .ok ["DELETE FROM " ++ h.target ++ condition]

end HistoryTable

instance : HistoryStore HistoryTable where
  load := HistoryTable.load
  updateChecksum := HistoryTable.updateChecksum
  markRan := HistoryTable.markRan
  remove := HistoryTable.remove
  follow h t := { h with connection := h.connection.after t }
  view h _ _ := (engine h.connection, [])

end SchemaMigration.Sqlite
