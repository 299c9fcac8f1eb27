import SchemaMigration.CommandLine.Outcome
import SchemaMigration.CommandLine.Site
import SchemaMigration.Migration
import SchemaMigration.Sqlite.History

namespace SchemaMigration.CommandLine

structure Session where
  settings : Settings
  place : DatabasePlace
  connection : Sqlite.Connection

namespace Session

def start (site : Site) (i : Invocation) : Except Trouble Session := do
  let s ← (site.settings i).mapError .settings
  let place ← (Url.resolve s.url).mapError .url
  return ⟨s, place, site.connect place⟩

def schema (s : Session) : Option String := historySchemaName s.settings.defaultSchema

def history (s : Session) : Except Trouble Sqlite.HistoryTable := do
  let table ← (historyTableName s.settings.historyTable s.schema.isSome).mapError .table
  return { connection := s.connection, table := table, schema := s.schema }

/-- The database as changes see it. Its own schema is asked for only if the settings name none, and
for that it has to be opened. -/
def database (s : Session) : Except Trouble Database :=
  match s.connection, s.schema with
  | .unreachable, none => .error (.database Sqlite.Connection.unreachableFault)
  | k, schema => .ok (Database.ofEngine .sqlite (Sqlite.engine k) (.ofText? schema))

def work (m : Migration) (s : Session) (i : Invocation) :
    Action Sqlite.HistoryTable (List String) := do
  let dryRun := i.dryRun || s.settings.dryRun.isTrue
  match i.command with
  | .update =>
    let report ← m.update dryRun
    return if dryRun then sqlLines report.statements else updateLines report
  | .updateSql =>
    let statements ← m.updateSql
    return sqlLines statements
  | .rollback =>
    let report ← m.rollback ((i.count?.getD 1 : Nat) : Int) dryRun
    return if dryRun then sqlLines report.statements else rollbackLines report
  | .status =>
    let pending ← m.status
    return statusLines pending
  | .history => return []

def migrate (site : Site) (s : Session) (i : Invocation) : Except Trouble (Outcome × Site) := do
  let database ← s.database
  let history ← s.history
  let log ← (site.modules.resolve s.settings.changelog).mapError .reference
  let m : Migration := {
    changeLog := log
    database := database
    ignoreCase := s.settings.ignoreCase.isTrue
    now := site.now }
  let (result, world) := (work m s i).run { store := history }
  let outcome := match result with
    | .ok printed => .done (lines printed)
    | .error e => .ofTrouble (.failure e)
  return (outcome, site.keep s.place world.store.connection)

def readHistory (site : Site) (s : Session) (i : Invocation) : Except Trouble (Outcome × Site) := do
  let history ← s.history
  let (result, history) := HistoryStore.load history
  let outcome := match result with
    | .ok records =>
      .done (if i.json then historyJson records ++ "\n" else lines (historyLines records))
    | .error e => .ofTrouble (.failure (.store e))
  return (outcome, site.keep s.place history.connection)

end Session

def carryOut (site : Site) (i : Invocation) : Except Trouble (Outcome × Site) := do
  let s ← Session.start site i
  if i.command == .history then s.readHistory site i else s.migrate site i

def run (site : Site) (args : List String) : Outcome × Site :=
  match Invocation.ofArguments args with
  | none => (.misused, site)
  | some i =>
    match carryOut site i with
    | .ok done => done
    | .error t => (.ofTrouble t, site)

end SchemaMigration.CommandLine
