import SchemaMigration.Declaration.Basic
import SchemaMigration.Precondition.Basic

namespace SchemaMigration

open Declaration

mutual
def Value.depth : Value → Nat
  | .list items => depthOfItems items + 1
  | .object fields => depthOfFields fields + 1
  | _ => 1

def Value.depthOfItems : List Value → Nat
  | [] => 0
  | v :: rest => max v.depth (depthOfItems rest)

def Value.depthOfFields : List (String × Value) → Nat
  | [] => 0
  | (_, v) :: rest => max v.depth (depthOfFields rest)
end

def Reaction.ofValue (v : Value) : Except DeclarationError Reaction :=
  match v with
  | .text name =>
    match Reaction.ofName? name with
    | some reaction => .ok reaction
    | none => .error (.unknownReaction v)
  | _ => .error (.unknownReaction v)

def Policy.ofValue (v : Value) : Except DeclarationError Policy := do
  let fs ← fields v
  onlyFields ["on_fail", "on_error", "on_fail_message", "on_error_message"] fs
  let onFail ← Reaction.ofValue (value fs "on_fail" (.text Reaction.halt.name))
  let onError ← Reaction.ofValue (value fs "on_error" (.text Reaction.halt.name))
  return ⟨onFail, onError, value fs "on_fail_message" .null, value fs "on_error_message" .null⟩

def Verdict.ofFields (label : String) (fs : List (String × Value)) :
    Except DeclarationError Verdict := do
  let outcome ← text (value fs "outcome" (.text "pass"))
  let kind ← text (value fs "error" (.text "RuntimeError"))
  match outcome with
  | "pass" => return .pass
  | "fail" => return .fail (label ++ " is false")
  | "error" => return .error (.stated kind (label ++ " exploded"))
  | _ => .error unfit

def Check.ofFields (number : Nat) (kind : String) (fs : List (String × Value)) :
    Except DeclarationError Check := do
  match kind with
  | "stub" =>
    let label ← textNeeded fs "label"
    let verdict ← Verdict.ofFields label fs
    return .fixed number label verdict
  | "dbms" =>
    let types ← needed fs "type"
    return .dbms types
  | "tableExists" =>
    let table ← needed fs "table"
    return .tableExists table (value fs "schema" .null)
  | "columnExists" =>
    let table ← needed fs "table"
    let column ← needed fs "column"
    return .columnExists table column (value fs "schema" .null)
  | "sqlCheck" =>
    let query ← needed fs "sql"
    return .sqlCheck query (value fs "expected" .null)
  | _ => .error unfit

namespace Precondition

mutual
def stubs : Precondition → List (Nat × String)
  | .check (.fixed number label _) => [(number, label)]
  | .check _ => []
  | .not p => stubs p
  | .and ps => stubsOfAll ps
  | .or ps => stubsOfAll ps
  | .guard _ ps => stubsOfAll ps

def stubsOfAll : List Precondition → List (Nat × String)
  | [] => []
  | p :: rest => stubs p ++ stubsOfAll rest
end

def readItems (read : Nat → Value → Except DeclarationError Precondition) :
    Nat → List Value → Except DeclarationError (List Precondition)
  | _, [] => .ok []
  | number, v :: rest => do
    let p ← read number v
    let ps ← readItems read (number + p.stubs.length) rest
    return p :: ps

def read : Nat → Nat → Value → Except DeclarationError Precondition
  | 0, _, _ => .error unfit
  | depth + 1, number, v => do
    let fs ← fields v
    let kind ← textNeeded fs "kind"
    match kind with
    | "not" =>
      let p ← read depth number (value fs "item" .null)
      return .not p
    | "and" =>
      let declared ← listed fs "items"
      let ps ← readItems (read depth) number declared
      return .and ps
    | "or" =>
      let declared ← listed fs "items"
      let ps ← readItems (read depth) number declared
      return .or ps
    | "container" =>
      let declared ← listed fs "items"
      let ps ← readItems (read depth) number declared
      let policy ← Policy.ofValue (value fs "options" (.object []))
      return .guard policy ps
    | _ =>
      let c ← Check.ofFields number kind fs
      return .check c

def ofValue (v : Value) : Except DeclarationError Precondition := read v.depth 0 v

end Precondition

def Guard.ofValue (v : Value) : Except DeclarationError Guard := do
  let fs ← fields v
  let declared ← listed fs "items"
  let ps ← Precondition.readItems (Precondition.read v.depth) 0 declared
  let policy ← Policy.ofValue (value fs "options" (.object []))
  return ⟨policy, ps⟩

end SchemaMigration
