import SchemaMigration.Datum
import SchemaMigration.Value.Misfit

namespace SchemaMigration

/-- The statements sent in one transaction, in order, and whether it was committed. A statement that
failed is the last one of its transaction, and one that could not be opened has none. -/
structure Transaction where
  committed : Bool
  statements : List String
  deriving DecidableEq, Repr

/-- What an engine answers with when it refuses: a fault that the database reported, or one of
another origin, named by its kind. -/
inductive EngineFault
  | database (message : String)
  | foreign (kind message : String)
  deriving DecidableEq, Repr

def EngineFault.message : EngineFault → String
  | .database message => message
  | .foreign _ message => message

def EngineFault.lacking (v : Value) (operation : String) : EngineFault :=
  .foreign "AttributeError" ("'" ++ v.kindName ++ "' object has no attribute '" ++ operation ++ "'")

def EngineFault.noKey (v : Value) : EngineFault :=
  .foreign "TypeError" ("unhashable type: '" ++ v.kindName ++ "'")

def EngineFault.notIterable (v : Value) : EngineFault :=
  .foreign "TypeError" ("argument of type '" ++ v.kindName ++ "' is not iterable")

/-- A live database by its answers. Each is given the log of all transactions so far. What is asked
for may be any value; it is up to the engine what becomes of one that is no name. -/
structure Engine where
  defaultSchema : Value
  openFault? : List Transaction → Option EngineFault
  fault? : List Transaction → List String → String → Option EngineFault
  /-- The fault of a commit, given the statements of the transaction, which are rolled back then. -/
  commitFault? : List Transaction → List String → Option EngineFault
  columns? : List Transaction → Name → Name → Except EngineFault (Option (List Name))
  scalar : List Transaction → Value → Except EngineFault Datum

namespace Engine

def sendFrom (engine : Engine) (log : List Transaction) (sent : List String) :
    List String → List String × Option (String × EngineFault)
  | [] => (sent, none)
  | statement :: rest =>
    match engine.fault? log sent statement with
    | some fault => (sent ++ [statement], some (statement, fault))
    | none => engine.sendFrom log (sent ++ [statement]) rest

/-- Statements executed in one transaction. What keeps it from being committed comes with the last
statement sent by then, which is none if it could not even be opened. -/
def transact (engine : Engine) (log : List Transaction) (statements : List String) :
    Transaction × Option (Option String × EngineFault) :=
  match engine.openFault? log with
  | some fault => (⟨false, []⟩, some (none, fault))
  | none =>
    match engine.sendFrom log [] statements with
    | (sent, some (statement, fault)) => (⟨false, sent⟩, some (some statement, fault))
    | (sent, none) =>
      match engine.commitFault? log sent with
      | some fault => (⟨false, sent⟩, some (sent.getLast?, fault))
      | none => (⟨true, sent⟩, none)

end Engine

structure EngineScript where
  tables : List (String × List Name) := []
  inspectFault : Option EngineFault := none
  faults : List (String × EngineFault) := []
  scalars : List (String × Value) := []
  defaultSchema : Value := .null

namespace EngineScript

def fault? (script : EngineScript) (statement : String) : Option EngineFault :=
  (script.faults.find? fun (part, _) => Text.contains part.toList statement.toList).map (·.2)

def tableKey (schema table : Name) : Name :=
  if schema.isTrue then .text (schema.display ++ "." ++ table.display) else table

def columns? (script : EngineScript) (schema table : Name) :
    Except EngineFault (Option (List Name)) :=
  let key := tableKey schema table
  match script.inspectFault with
  | some fault => .error fault
  | none =>
    if !key.isKey then .error (.noKey key)
    else .ok (key.text?.bind fun name => script.tables.lookup name)

/-- The fault of a query that is no text, if one of its parts is a text that makes statements
fail. -/
def partFault? (script : EngineScript) (query : Value) : Except EngineFault (Option EngineFault) :=
  match query.elements with
  | .ok parts =>
    .ok ((script.faults.find? fun (part, _) => parts.any (Value.text part).same).map (·.2))
  | .error _ => if script.faults.isEmpty then .ok none else .error (.notIterable query)

def scalar (script : EngineScript) (query : Value) : Except EngineFault Datum := do
  let fault ←
    match query with
    | .text sql => .ok (script.fault? sql)
    | query => script.partFault? query
  match fault with
  | some fault => .error fault
  | none =>
    if !query.isKey then .error (.noKey query)
    else
      match query.text?.bind fun sql => script.scalars.lookup sql with
      | some v => return .ofValue v
      | none => .error (.database ("no result for " ++ query.display))

def engine (script : EngineScript) : Engine where
  defaultSchema := script.defaultSchema
  openFault? _ := none
  fault? _ _ statement := script.fault? statement
  commitFault? _ _ := none
  columns? _ := script.columns?
  scalar _ := script.scalar

end EngineScript

end SchemaMigration
