import SchemaMigration.Sqlite.Command
import SchemaMigration.Value.Basic

namespace SchemaMigration.Sqlite

namespace Table

def storedCells (t : Table) (r : Row) : List Cell :=
  ((t.columns.zip r.cells).filter fun (c, _) => c.generated.isNone).map (·.2)

def insertion (t : Table) (r : Row) : String :=
  "INSERT INTO " ++ quotedName t.name ++ " VALUES (" ++
    Text.join ", " ((t.storedCells r).map Cell.quoted) ++ ")"

end Table

/-- The statements that make an entry. An index that belongs to a constraint is made with its table,
and so is a table that the database keeps for itself. -/
def Entry.script (e : Entry) : List String :=
  match e, e.sql with
  | .table t, some sql => if isOwnName t.name then [] else sql :: t.rows.map t.insertion
  | .index _, some sql => [sql]
  | _, none => []

def Entry.ownScript (e : Entry) : List String :=
  match e with
  | .table t =>
    if isOwnName t.name then ("DELETE FROM " ++ quotedName t.name) :: t.rows.map t.insertion else []
  | .index _ => []

namespace Content

def script (c : Content) : List String :=
  c.main.flatMap Entry.script ++ c.main.flatMap Entry.ownScript

def ofScript (statements : List String) : Except Fault Content :=
  statements.foldlM (fun c sql => (c.execute sql).map (·.1)) {}

end Content

end SchemaMigration.Sqlite
