import SchemaMigration.Action
import SchemaMigration.Report
import SchemaMigration.Selection

namespace SchemaMigration

structure Migration where
  changeLog : ChangeLog
  database : Database
  registry : Registry := Registry.bundled
  ignoreCase : Bool := false
  now : Timestamp

namespace Migration

open SchemaMigration.Action

variable {σ : Type} [HistoryStore σ]

def select (m : Migration) : Action σ Selection :=
  onStore fun store => Selection.ofStore store m.ignoreCase

def render (m : Migration) (changes : List Change) : Except Failure (List String) :=
  match Change.allStatements m.database m.registry changes with
  | .error e => .error (.change e)
  | .ok statements =>
    (m.registry.generateAll m.database statements).mapError fun e => .change (.render e)

def inverseStatements (m : Migration) : List Change → Except ChangeError (List Statement)
  | [] => .ok []
  | change :: rest => do
    let s ← change.inverseStatements m.database m.registry
    let more ← m.inverseStatements rest
    return s ++ more

def renderRollback (m : Migration) (c : ChangeSet) : Except Failure (List String) :=
  if !c.rollback.isEmpty then m.render c.rollback
  else
    match m.inverseStatements c.changes.reverse with
    | .error e => .error (.change e)
    | .ok statements =>
      (m.registry.generateAll m.database statements).mapError fun e => .change (.render e)

def faultOf (c : ChangeSet) (statement : Option String) : EngineFault → Failure
  | .database message => .migration c.key message statement
  | .foreign kind message => .engine (.foreign kind message)

def faultLines (c : ChangeSet) : EngineFault → List LogLine
  | .database message => [⟨.error, "Changeset " ++ c.key ++ " failed: " ++ message⟩]
  | .foreign .. => []

def execute (m : Migration) (c : ChangeSet) (sql : List String) : Action σ Unit := do
  let (database, log) ← observe (World.view m.database)
  match database.engine with
  | none => fail (.noEngine c.key)
  | some engine =>
    let (transaction, fault) := engine.transact log sql
    record transaction
    match fault with
    | none => pure ()
    | some (statement, fault) =>
      writeLog (faultLines c fault)
      fail (faultOf c statement fault)

def pass (m : Migration) (guard : Option Guard) : Action σ Passage := do
  match guard with
  | none => pure .proceed
  | some guard =>
    let (database, log) ← observe (World.view m.database)
    let (passage, lines) := guard.run ⟨database, log, some m.changeLog.path⟩
    writeLog lines
    ofExcept (passage.mapError Failure.guard)

def status (m : Migration) : Action σ (List ChangeSet) := do
  let selection ← m.select
  if m.changeLog.changeSets.any selection.snapshot.isObstructed then
    fail (.store (.misfit .lacking))
  else return m.changeLog.changeSets.filter selection.snapshot.mustRun

inductive Step
  | skipped
  | markedRan
  | applied (sql : List String)
  deriving DecidableEq, Repr

def reconcile (selection : Selection) (c : ChangeSet) : Action σ Selection := do
  let (_, selection) ← onStore fun store => selection.reconcile store c
  return selection

def markRan (m : Migration) (c : ChangeSet) (path : Value) : Action σ Unit :=
  onStore fun store => HistoryStore.markRan store m.now c path

def applyOne (m : Migration) (dryRun : Bool) (path : Value) (c : ChangeSet) :
    Action σ Step := do
  match ← m.pass c.guard with
  | .skip => return .skipped
  | .markRan =>
    if !dryRun then m.markRan c path
    return .markedRan
  | .proceed =>
    let sql ← ofExcept (m.render c.changes)
    if !dryRun then
      m.execute c sql
      m.markRan c path
      let texts ← ofExcept (c.confirmations.mapError .change)
      writeLog (texts.map fun text => ⟨.info, c.key ++ ": " ++ text⟩)
    return .applied sql

def updateOne (m : Migration) (dryRun : Bool) (selection : Selection) (c : ChangeSet) :
    Action σ (Step × Selection) := do
  let selection ← if dryRun then pure selection else reconcile selection c
  if selection.snapshot.isObstructed c then fail (.store (.misfit .lacking))
  else if !selection.snapshot.mustRun c then return (.skipped, selection)
  else
    let step ← m.applyOne dryRun (((selection.snapshot.find? c).map Record.path).getD .null) c
    return (step, selection)

def updateAll (m : Migration) (dryRun : Bool) :
    Selection → List ChangeSet → Action σ (List (ChangeSet × Step))
  | _, [] => pure []
  | selection, c :: rest => do
    let (step, selection) ← m.updateOne dryRun selection c
    let more ← m.updateAll dryRun selection rest
    return (c, step) :: more

def keysOf (steps : List (ChangeSet × Step)) (kind : Step → Bool) : List String :=
  (steps.filter fun (_, step) => kind step).map fun (c, _) => c.key

def Step.isSkipped : Step → Bool
  | .skipped => true
  | _ => false

def Step.isMarkedRan : Step → Bool
  | .markedRan => true
  | _ => false

def Step.isApplied : Step → Bool
  | .applied _ => true
  | _ => false

def Step.sql : Step → List String
  | .applied sql => sql
  | _ => []

def reportOf (m : Migration) (dryRun : Bool) (steps : List (ChangeSet × Step)) : Report where
  start := m.now
  finish := some m.now
  applied := keysOf steps Step.isApplied
  skipped := keysOf steps Step.isSkipped
  markedRan := keysOf steps Step.isMarkedRan
  statements := steps.flatMap fun (_, step) => step.sql
  dryRun := dryRun

def modeText (dryRun : Bool) : String := if dryRun then " (dry run)" else ""

def update (m : Migration) (dryRun : Bool) : Action σ Report := do
  info ("Updating " ++ m.database.name ++ " from " ++ m.changeLog.path.display ++ modeText dryRun)
  match ← m.pass m.changeLog.guard with
  | .proceed =>
    let selection ← m.select
    let steps ← m.updateAll dryRun selection m.changeLog.changeSets
    let report := m.reportOf dryRun steps
    info ("Update complete" ++ modeText dryRun ++ ": " ++ toString report.applied.length ++
      " applied, " ++ toString report.skipped.length ++ " skipped in " ++
      report.duration.fixed 2 ++ "s")
    return report
  | _ =>
    info "Changelog preconditions not met; nothing to update"
    return m.reportOf dryRun (m.changeLog.changeSets.map fun c => (c, .skipped))

def updateSql (m : Migration) : Action σ (List String) := do
  let report ← m.update true
  return report.statements

def recorded (snapshot : Snapshot) (changeSets : List ChangeSet) : List (ChangeSet × Record) :=
  changeSets.filterMap fun c => (snapshot.find? c).map fun r => (c, r)

def orderOf (r : Record) : Value := if r.order.isTrue then r.order else .int 0

def newestFirst (recorded : List (ChangeSet × Record)) : List (ChangeSet × Record) :=
  recorded.mergeSort fun a b => (orderOf a.2).order? (orderOf b.2) != some .lt

def targets (m : Migration) (count : Nat) : Action σ (List (ChangeSet × Record)) := do
  let selection ← m.select
  let found := recorded selection.snapshot m.changeLog.changeSets
  if m.changeLog.changeSets.any selection.snapshot.isObstructed then
    fail (.store (.misfit .lacking))
  else if Value.areOrdered (found.map fun (_, r) => orderOf r) then
    return (newestFirst found).take count
  else fail (.store (.misfit .unfit))

def plan (m : Migration) :
    List (ChangeSet × Record) → Except Failure (List (ChangeSet × Record × List String))
  | [] => .ok []
  | (c, r) :: rest => do
    let sql ← m.renderRollback c
    let more ← m.plan rest
    return (c, r, sql) :: more

def undoAll (m : Migration) : List (ChangeSet × Record × List String) → Action σ Unit
  | [] => pure ()
  | (c, r, sql) :: rest => do
    m.execute c sql
    onStore fun store => HistoryStore.remove store c r.path
    info ("Rolled back " ++ c.key)
    m.undoAll rest

def rollback (m : Migration) (count : Int) (dryRun : Bool) : Action σ Report := do
  if count < 0 then fail (.negativeCount count)
  else
    let targets ← m.targets count.toNat
    let plan ← ofExcept (m.plan targets)
    if !dryRun then m.undoAll plan
    return {
      operation := "rollback"
      start := m.now
      finish := some m.now
      rolledBack := plan.map fun (c, _, _) => c.key
      statements := plan.flatMap fun (_, _, sql) => sql
      dryRun := dryRun }

end Migration

end SchemaMigration
