import SchemaMigration.Declaration.Basic

namespace SchemaMigration

open Declaration

namespace EngineScript

def columnsOf : List (String × Value) → Except DeclarationError (List (String × List Name))
  | [] => .ok []
  | (table, .list columns) :: rest => do
    let more ← columnsOf rest
    return (table, columns) :: more
  | _ => .error unfit

def faultOf (v : Value) : Except DeclarationError (String × EngineFault) := do
  let fs ← fields v
  let part ← textNeeded fs "contains"
  let message ← textNeeded fs "message"
  if value fs "kind" .null == .text "runtime" then return (part, .foreign "RuntimeError" message)
  else return (part, .database message)

def ofValue (v : Value) : Except DeclarationError EngineScript := do
  let fs ← fields v
  let tables ← fields (value fs "tables" (.object []))
  let tables ← columnsOf tables
  let inspectError := (value fs "inspect_error" .null).text?
  let faults ← listed fs "fail_on"
  let faults ← items faultOf faults
  let scalars ← fields (value fs "scalars" (.object []))
  let schema := value fs "default_schema" .null
  return ⟨tables, inspectError.map .database, faults, scalars, schema⟩

end EngineScript

end SchemaMigration
