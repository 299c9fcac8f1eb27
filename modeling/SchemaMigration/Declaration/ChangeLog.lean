import SchemaMigration.ChangeLog
import SchemaMigration.Declaration.Precondition
import SchemaMigration.History.Record

namespace SchemaMigration

open Declaration

def Guard.ofField (fs : List (String × Value)) : Except DeclarationError (Option Guard) :=
  match value fs "preconditions" .null with
  | .null => .ok none
  | v => (Guard.ofValue v).map some

namespace ChangeSet

/-- A changeset as a changelog declares it. It belongs to the path of the changelog unless it names
another one. -/
def ofValue (path : Value) (v : Value) : Except DeclarationError ChangeSet := do
  let fs ← fields v
  let changes ← listed fs "changes"
  let changes ← items Change.ofEntry changes
  let guard ← Guard.ofField fs
  let rollback ← listed fs "rollback_changes"
  let rollback ← items Change.ofEntry rollback
  onlyFields ["id", "author", "file_path", "changes", "run_always", "run_on_change", "comments",
    "preconditions", "rollback_changes"] fs
  let id ← needed fs "id"
  let author ← needed fs "author"
  fitting (ChangeSet.normalized {
    id := id
    author := author
    path := value fs "file_path" path
    changes := changes
    runAlways := value fs "run_always" (.bool false)
    runOnChange := value fs "run_on_change" (.bool false)
    comments := value fs "comments" .null
    guard := guard
    rollback := rollback })

end ChangeSet

namespace ChangeLog

def ofValue (path : String) (v : Value) : Except DeclarationError ChangeLog := do
  let fs ← fields v
  let log ← fitting (ChangeLog.normalized { path := value fs "path" (.text path) })
  let guard ← Guard.ofField fs
  let log := { log with guard := guard }
  let declared ← listed fs "changesets"
  let changeSets ← items (ChangeSet.ofValue log.path) declared
  return changeSets.foldl add log

end ChangeLog

namespace Record

def fieldNames : List String :=
  ["id", "author", "file_path", "checksum", "date_executed", "order_executed", "description"]

def ofValue (v : Value) : Except DeclarationError Record := do
  let fs ← fields v
  onlyFields fieldNames fs
  let id ← needed fs "id"
  let author ← needed fs "author"
  let path ← needed fs "file_path"
  let date ← timeOf (value fs "date_executed" .null)
  return {
    id := id
    author := author
    path := path
    checksum := value fs "checksum" .null
    date := date
    order := value fs "order_executed" .null
    description := value fs "description" .null }

end Record

end SchemaMigration
