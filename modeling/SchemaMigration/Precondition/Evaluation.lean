import SchemaMigration.Log
import SchemaMigration.Precondition.Basic

namespace SchemaMigration

structure Scene where
  database : Database
  transactions : List Transaction := []
  changelog : Option Value := none

structure ErrorEntry where
  fault : CheckFault
  changelog : Option Value
  precondition : Precondition

structure FailureEntry where
  message : String
  changelog : Option Value
  precondition : Precondition

def changelogName (path : Option Value) : Value := path.getD (.text "<unknown>")

def ErrorEntry.shown (e : ErrorEntry) : String :=
  (changelogName e.changelog).display ++ " : " ++ e.precondition.shown ++ ": " ++ e.fault.message

def ErrorEntry.cause (e : ErrorEntry) : String := e.fault.kind ++ ": " ++ e.fault.message

def FailureEntry.shown (e : FailureEntry) : String :=
  (changelogName e.changelog).display ++ " : " ++ e.message

def ErrorEntry.toValue (e : ErrorEntry) : Value :=
  .object [("changelog", changelogName e.changelog),
    ("precondition", .text e.precondition.shown), ("cause", .text e.cause)]

def FailureEntry.toValue (e : FailureEntry) : Value :=
  .object [("changelog", changelogName e.changelog),
    ("precondition", .text e.precondition.shown), ("message", .text e.message)]

inductive CheckResult
  | pass
  | fail (message : String)
  | broken (fault : CheckFault)
  | failures (entries : List FailureEntry)
  | errors (entries : List ErrorEntry) (failures : List FailureEntry)

def batchLines {α : Type} (count : String) (shown : α → String) (entries : List α) : List String :=
  (toString entries.length ++ count) :: entries.map fun e => "  " ++ shown e

def failureLines (failures : List FailureEntry) : List String :=
  batchLines " precondition(s) failed:" FailureEntry.shown failures

def CheckResult.message : CheckResult → String
  | .pass => ""
  | .fail message => message
  | .broken fault => fault.message
  | .failures entries => Text.join "\n" (failureLines entries)
  | .errors entries failed =>
    Text.join "\n" (batchLines " precondition(s) raised errors:" ErrorEntry.shown entries ++
      if failed.isEmpty then [] else failureLines failed)

def CheckResult.details? : CheckResult → Option Value
  | .failures entries => some (.object [("failures", .list (entries.map FailureEntry.toValue))])
  | .errors entries failed =>
    some (.object [("errors", .list (entries.map ErrorEntry.toValue)),
      ("failures", .list (failed.map FailureEntry.toValue))])
  | _ => none

structure Findings where
  errors : List ErrorEntry := []
  failures : List FailureEntry := []

namespace Findings

def isEmpty (f : Findings) : Bool := f.errors.isEmpty && f.failures.isEmpty

def append (f g : Findings) : Findings := ⟨f.errors ++ g.errors, f.failures ++ g.failures⟩

instance : Append Findings := ⟨append⟩

def result (f : Findings) : CheckResult :=
  if !f.errors.isEmpty then .errors f.errors f.failures
  else if !f.failures.isEmpty then .failures f.failures
  else .pass

def ofResult (changelog : Option Value) (p : Precondition) : CheckResult → Findings
  | .pass => {}
  | .fail message => { failures := [⟨message, changelog, p⟩] }
  | .broken fault => { errors := [⟨fault, changelog, p⟩] }
  | .failures entries => { failures := entries }
  | .errors entries failed => { errors := entries, failures := failed }

end Findings

namespace Check

def schemaIn (schema : Name) (db : Database) : Name :=
  if schema.isTrue then schema else db.defaultSchema

def lookUp (scene : Scene) (check : String) (schema table : Name)
    (verdict : List Name → Verdict) : Verdict :=
  match scene.database.engine with
  | none => .error (.noConnection check)
  | some engine =>
    match engine.columns? scene.transactions (schemaIn schema scene.database) table with
    | .error fault => .error (.engine fault)
    | .ok none => .fail ("Table " ++ table.display ++ " does not exist")
    | .ok (some columns) => verdict columns

def verdict (scene : Scene) : Check → Verdict
  | .fixed _ _ verdict => verdict
  | .dbms (.text types) =>
    let allowed :=
      ((Text.splitOn ',' types.toList).filter fun t => !(Text.trimChars t).isEmpty).map fun t =>
        Dialect.normalizeName (String.ofList t)
    if allowed.contains scene.database.name then .pass
    else
      .fail ("DBMS precondition failed: expected " ++ types ++ ", got " ++ scene.database.name)
  | .dbms types => .error (.engine (.lacking types "split"))
  | .tableExists table schema => lookUp scene "tableExists" schema table fun _ => .pass
  | .columnExists table column schema =>
    lookUp scene "columnExists" schema table fun columns =>
      if !column.isKey then .error (.engine (.noKey column))
      else if columns.any column.same then .pass
      else .fail ("Column " ++ table.display ++ "." ++ column.display ++ " does not exist")
  | .sqlCheck query expected =>
    match scene.database.engine with
    | none => .error (.noConnection "sqlCheck")
    | some engine =>
      match engine.scalar scene.transactions query with
      | .error fault => .error (.engine fault)
      | .ok result =>
        if result.display == expected.display then .pass
        else
          .fail ("SQL check failed: " ++ query.shown ++ " returned " ++ result.shown ++
            ", expected " ++ expected.shown)

end Check

def Verdict.result : Verdict → CheckResult
  | .pass => .pass
  | .fail message => .fail message
  | .error fault => .broken fault

namespace Precondition

def negated (p : Precondition) : CheckResult → CheckResult
  | .pass => .fail ("Expected " ++ p.shown ++ " to fail")
  | .fail _ => .pass
  | .failures _ => .pass
  | broken => broken

mutual
def evaluate (scene : Scene) : Precondition → CheckResult × List Check
  | .check c => ((c.verdict scene).result, [c])
  | .not p =>
    let (result, made) := evaluate scene p
    (negated p result, made)
  | .and ps =>
    let (findings, made) := evaluateAll scene ps
    (findings.result, made)
  | .or ps => evaluateAny scene {} ps
  | .guard _ ps =>
    let (findings, made) := evaluateAll scene ps
    (findings.result, made)

def evaluateAll (scene : Scene) : List Precondition → Findings × List Check
  | [] => ({}, [])
  | p :: rest =>
    let (result, made) := evaluate scene p
    let (findings, more) := evaluateAll scene rest
    (Findings.ofResult scene.changelog p result ++ findings, made ++ more)

def evaluateAny (scene : Scene) (before : Findings) : List Precondition → CheckResult × List Check
  | [] => (before.result, [])
  | p :: rest =>
    let (result, made) := evaluate scene p
    let findings := Findings.ofResult scene.changelog p result
    if findings.isEmpty then (.pass, made)
    else
      let (result, more) := evaluateAny scene (before ++ findings) rest
      (result, made ++ more)
end

end Precondition

inductive Passage
  | proceed
  | skip
  | markRan
  deriving DecidableEq, Repr

def Passage.name : Passage → String
  | .proceed => "proceed"
  | .skip => "skip"
  | .markRan => "mark_ran"

namespace Guard

def evaluate (scene : Scene) (g : Guard) : CheckResult × List Check :=
  g.toPrecondition.evaluate scene

/-- The reaction of a guard to a result that is no pass. The error is its report when it halts. -/
def react (reaction : Reaction) (message : Value) (result : CheckResult) :
    Except CheckResult Passage × List LogLine :=
  let detail := if message.isTrue then message.display ++ ": " ++ result.message else result.message
  match reaction with
  | .halt => (.error result, [])
  | .warn => (.ok .proceed, [⟨.warning, detail⟩])
  | .retry => (.ok .skip, [⟨.info, "Preconditions not met (continue): " ++ detail⟩])
  | .markRan => (.ok .markRan, [⟨.info, "Preconditions not met (mark_ran): " ++ detail⟩])

def run (scene : Scene) (g : Guard) : Except CheckResult Passage × List LogLine :=
  match (g.evaluate scene).1 with
  | .pass => (.ok .proceed, [])
  | .errors entries failed =>
    react g.policy.onError g.policy.errorMessage (.errors entries failed)
  | .failures entries => react g.policy.onFail g.policy.failMessage (.failures entries)
  | result => (.error result, [])

end Guard

end SchemaMigration
