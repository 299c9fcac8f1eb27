import SchemaMigration.Sqlite.Definition
import SchemaMigration.Sqlite.Fault
import SchemaMigration.Sqlite.Occasion

namespace SchemaMigration.Sqlite

structure Column where
  name : String
  type : String := ""
  affinity : Affinity := .blob
  collation : Collation := .binary
  isNotNull : Bool := false
  default? : Option Term := none
  generated : Option Term := none

structure Row where
  id : Int
  cells : List Cell
  deriving DecidableEq, Repr

abbrev Unique := List (String × Collation)

structure Table where
  definition : TableDefinition
  columns : List Column
  key : List String := []
  rowColumn : Option String := none
  uniques : List Unique := []
  checks : List Term := []
  sql : Option String := none
  rows : List Row := []

namespace Table

def name (t : Table) : String := t.definition.name

def isKeyOrdered (t : Table) : Bool := t.definition.isKeyOrdered

end Table

structure Index where
  name : String
  table : String
  isUnique : Bool := false
  terms : List (Term × Collation) := []
  condition : Option Term := none
  sql : Option String := none

inductive Entry
  | table (t : Table)
  | index (i : Index)

namespace Entry

def name : Entry → String
  | .table t => t.name
  | .index i => i.name

def tableName : Entry → String
  | .table t => t.name
  | .index i => i.table

def sql : Entry → Option String
  | .table t => t.sql
  | .index i => i.sql

def kindName : Entry → String
  | .table _ => "table"
  | .index _ => "index"

end Entry

inductive Place
  | main
  | temp
  deriving DecidableEq, Repr

structure Content where
  main : List Entry := []
  temp : List Entry := []
  occasion : Occasion := {}

namespace Place

def name : Place → String
  | .main => "main"
  | .temp => "temp"

def ofName? (s : String) : Option Place := [Place.main, .temp].find? fun p => sameName p.name s

def catalogNames : Place → List String
  | .main => ["sqlite_master", "sqlite_schema"]
  | .temp => ["sqlite_temp_master", "sqlite_temp_schema", "sqlite_master", "sqlite_schema"]

end Place

namespace Table

def column? (t : Table) (name : String) : Option Column := t.columns.find? (sameName ·.name name)

def nextId (t : Table) : Int := ((t.rows.map Row.id).max?.getD 0) + 1

def catalog (name : String) (entries : List Entry) : Table where
  definition := ⟨name, [], [], false, false⟩
  columns :=
    [("type", Affinity.text), ("name", .text), ("tbl_name", .text), ("rootpage", .integer),
      ("sql", .text)].map fun (n, a) =>
        { name := n, type := if a == .text then "TEXT" else "INT", affinity := a }
  rows := entries.zipIdx.map fun (e, n) =>
    ⟨n + 1, [.text e.kindName, .text e.name, .text e.tableName, .int (n + 2),
      (e.sql.map Cell.text).getD .null]⟩

end Table

namespace Content

def entries (c : Content) : Place → List Entry
  | .main => c.main
  | .temp => c.temp

def setEntries (c : Content) (p : Place) (es : List Entry) : Content :=
  match p with
  | .main => { c with main := es }
  | .temp => { c with temp := es }

def storedTable? (c : Content) (p : Place) (name : String) : Option Table :=
  (c.entries p).findSome? fun
    | .table t => if sameName t.name name then some t else none
    | .index _ => none

def index? (c : Content) (p : Place) (name : String) : Option Index :=
  (c.entries p).findSome? fun
    | .index i => if sameName i.name name then some i else none
    | .table _ => none

def tableIn? (c : Content) (p : Place) (name : String) : Option Table :=
  if p.catalogNames.any (sameName name) then some (.catalog name (c.entries p))
  else c.storedTable? p name

def searched : List Place := [.temp, .main]

/-- The table of a name. Without a schema the entries of the one that stays come first, else what is
temporary. -/
def findTable (c : Content) (schema : Option String) (name : String) :
    Except Fault (Place × Table) :=
  match schema with
  | some s =>
    match Place.ofName? s with
    | none => .error (Fault.noTable (s ++ "." ++ name))
    | some p =>
      match c.tableIn? p name with
      | some t => .ok (p, t)
      | none => .error (Fault.noTable (s ++ "." ++ name))
  | none =>
    if Place.main.catalogNames.any (sameName name) then .ok (.main, .catalog name c.main)
    else
      match searched.findSome? fun p => (c.tableIn? p name).map fun t => (p, t) with
      | some found => .ok found
      | none => .error (Fault.noTable name)

def putTable (c : Content) (p : Place) (name : String) (t : Table) : Content :=
  c.setEntries p ((c.entries p).map fun
    | .table u => if sameName u.name name then .table t else .table u
    | e => e)

def add (c : Content) (p : Place) (e : Entry) : Content := c.setEntries p (c.entries p ++ [e])

def indexesOf (c : Content) (p : Place) (table : String) : List Index :=
  (c.entries p).filterMap fun
    | .index i => if sameName i.table table then some i else none
    | .table _ => none

def counted (c : Content) (count : Nat) (lastRow : Option Int) : Content :=
  { c with occasion := c.occasion.after count lastRow }

def kept (c : Content) : Content := { c with temp := [], occasion := {} }

end Content

end SchemaMigration.Sqlite
