import SchemaMigration.Engine
import SchemaMigration.Sqlite.Command

namespace SchemaMigration.Sqlite

inductive Connection
  | unreachable
  | foreign
  | opened (isReadOnly : Bool) (content : Content)

namespace Command

def changedSchema? : Command → Option (Option String)
  | .createTable schema isTemporary .. => some (if isTemporary then some "temp" else schema)
  | .createIndex d => some d.schema
  | .dropTable schema .. | .dropIndex schema .. | .renameTable schema .. | .renameColumn schema ..
  | .addColumn schema .. | .dropColumn schema .. | .insert schema .. | .update schema ..
  | .delete schema .. => some schema
  | .query _ | .pragma .. | .control _ | .explain _ | .nothing => none

def writesFile (c : Command) : Bool :=
  match c.changedSchema? with
  | some (some s) => !sameName s "temp"
  | some none => true
  | none => false

end Command

namespace Connection

def readOnlyFault : Fault := .operational "attempt to write a readonly database"

def foreignFault : Fault := .operational "file is not a database"

def unreachableFault : Fault := .operational "unable to open database file"

def run (k : Connection) (c : Command) : Except Fault (Connection × Answer) :=
  match k with
  | .unreachable => .error unreachableFault
  | .foreign => .error foreignFault
  | .opened isReadOnly content =>
    if isReadOnly && c.writesFile then .error readOnlyFault
    else (c.run content).map fun (content, answer) => (.opened isReadOnly content, answer)

def execute (k : Connection) (sql : String) : Except Fault (Connection × Answer) := do
  let c ← Command.read sql
  k.run c

structure Progress where
  now : Connection
  start : Option Connection := none

def Progress.next (p : Progress) (sql : String) : Progress :=
  match Command.read sql with
  | .error _ => p
  | .ok c =>
    let p := if c.changesRows && p.start.isNone then { p with start := some p.now } else p
    match p.now.run c with
    | .ok (k, _) => { p with now := k }
    | .error _ => p

def sent (k : Connection) (statements : List String) : Progress :=
  statements.foldl Progress.next { now := k }

def content? : Connection → Option Content
  | .opened _ content => some content
  | _ => none

def on (k : Connection) (o : Occasion) : Connection :=
  match k with
  | .opened isReadOnly content => .opened isReadOnly { content with occasion := o }
  | k => k

def after (k : Connection) (t : Transaction) : Connection :=
  let p := k.sent t.statements
  if t.committed then p.now
  else (p.start.getD p.now).on ((p.now.content?.map Content.occasion).getD {})

def afterAll (k : Connection) (log : List Transaction) : Connection := log.foldl after k

def fault? : Connection → Option Fault
  | .unreachable => some unreachableFault
  | .foreign => some foreignFault
  | .opened .. => none

/-- The table of a name in a schema, which has to be the exact name of the one that stays; without
one also what is temporary counts. -/
def table? (k : Connection) (schema : Option String) (name : String) :
    Except Fault (Option Table) :=
  match k with
  | .unreachable => .error unreachableFault
  | .foreign => .error foreignFault
  | .opened _ content =>
    match schema with
    | some s => .ok (if s == Place.main.name then content.tableIn? .main name else none)
    | none => .ok ((content.tableIn? .main name).orElse fun _ => content.tableIn? .temp name)

end Connection

/-- The columns of a table as a look at it finds them. Unless the schema is another one than that
which stays, also what is no table but a function of its name counts. -/
def Connection.columnsIn? (k : Connection) (schema : Option String) (name : String) :
    Except Fault (Option (List String)) :=
  (k.table? schema name).map fun
    | some t => some (t.columns.map Column.name)
    | none => if schema.getD Place.main.name == Place.main.name then functionColumns? name else none

def Cell.toDatum : Cell → Datum
  | .null => .null
  | .int n => .plain (.int n)
  | .real x => .plain (.float x)
  | .text s => .text s
  | .bytes content => .bytes content

def noRows : String := "This result object does not return rows. It has been closed automatically."

def scalarOf : Answer → Except EngineFault Datum
  | none => .error (.database noRows)
  | some rows => .ok (((rows.rows.head?.bind List.head?).getD .null).toDatum)

def Connection.columns? (k : Connection) (schema table : Name) :
    Except EngineFault (Option (List Name)) :=
  match k with
  | .unreachable => .error (.database Connection.unreachableFault.message)
  | k =>
    if !schema.isNull && schema != .text Place.main.name then .ok none
    else
      match table with
      | .text name =>
        ((k.columnsIn? schema.text? name).map fun names => names.map fun ns =>
          ns.map .text).mapError
          fun f => .database f.message
      | other => .error (.lacking other "replace")

def Connection.scalar (k : Connection) (query : Value) : Except EngineFault Datum :=
  match k, query with
  | .unreachable, _ => .error (.database Connection.unreachableFault.message)
  | k, .text sql =>
    match k.execute sql with
    | .ok (_, answer) => scalarOf answer
    | .error f => .error (.database f.message)
  | _, other =>
    let kind := if other.isNull then "None" else other.kindName
    .error (.foreign "TypeError" ("execute() argument 1 must be str, not " ++ kind))

def engine (k : Connection) : Engine where
  defaultSchema := .text Place.main.name
  openFault? log :=
    match k.afterAll log with
    | .unreachable => some (.database Connection.unreachableFault.message)
    | _ => none
  fault? log before sql :=
    match ((k.afterAll log).sent before).now.execute sql with
    | .ok _ => none
    | .error f => some (.database f.message)
  commitFault? _ _ := none
  columns? log schema table := (k.afterAll log).columns? schema table
  scalar log query := (k.afterAll log).scalar query

end SchemaMigration.Sqlite
