import SchemaMigration.Timestamp.Basic
import SchemaMigration.Value.Basic

namespace SchemaMigration

/-- What a run did, by the keys of changesets, and the SQL of it in order. In a rehearsal the SQL is
only what would have been executed. -/
structure Report where
  operation : String := "update"
  start : Timestamp
  finish : Option Timestamp := none
  applied : List String := []
  skipped : List String := []
  markedRan : List String := []
  rolledBack : List String := []
  statements : List String := []
  dryRun : Bool := false
  deriving DecidableEq, Repr

namespace Report

/-- The seconds between start and finish, zero if there is no finish. Only a clock that knows its
distance from universal time and one that does not have no seconds between them. -/
def durationOf? (start : Timestamp) (finish : Option Timestamp) : Option Binary64 :=
  match finish with
  | some t => Timestamp.secondsBetween? start t
  | none => some (Binary64.zero false)

def duration (r : Report) : Binary64 := (durationOf? r.start r.finish).getD (Binary64.zero false)

def isFinished (r : Report) : Bool := r.finish.isSome

def textList (texts : List String) : Value := .list (texts.map Value.text)

def listNames : List String :=
  ["changesets_applied", "changesets_skipped", "changesets_marked_ran", "changesets_rolled_back",
    "statements"]

def outline (start : Timestamp) (finish : Option Timestamp) (duration : Binary64)
    (field : String → Value) : Value :=
  .object ([("operation", field "operation"), ("start_time", .text start.text),
      ("end_time", .ofText? (finish.map Timestamp.text)), ("duration_seconds", .float duration)] ++
    listNames.map (fun name => (name, field name)) ++
    [("dry_run", field "dry_run"), ("success", .bool finish.isSome)])

def field (r : Report) : String → Value
  | "operation" => .text r.operation
  | "changesets_applied" => textList r.applied
  | "changesets_skipped" => textList r.skipped
  | "changesets_marked_ran" => textList r.markedRan
  | "changesets_rolled_back" => textList r.rolledBack
  | "statements" => textList r.statements
  | "dry_run" => .bool r.dryRun
  | _ => .null

def toValue (r : Report) : Value := outline r.start r.finish r.duration r.field

end Report

end SchemaMigration
