import SchemaMigration.Database

namespace SchemaMigration

inductive CheckFault
  | noConnection (check : String)
  /-- The engine refuses to answer, or a part of the check is something else than it should be. -/
  | engine (fault : EngineFault)
  | stated (kind message : String)
  deriving DecidableEq, Repr

def CheckFault.message : CheckFault → String
  | .noConnection check => check ++ " requires a database connection"
  | .engine fault => fault.message
  | .stated kind message => if kind == "KeyError" then Text.quoted message else message

def CheckFault.kind : CheckFault → String
  | .noConnection _ => "SchemaShiftError"
  | .engine (.database _) => "SQLAlchemyError"
  | .engine (.foreign kind _) => kind
  | .stated kind _ => kind

inductive Verdict
  | pass
  | fail (message : String)
  | error (fault : CheckFault)
  deriving DecidableEq, Repr

inductive Check
  /-- A check whose verdict is given beforehand. The number tells it from others of its label. -/
  | fixed (number : Nat) (label : String) (verdict : Verdict)
  | dbms (types : Value)
  | tableExists (table schema : Name)
  | columnExists (table column schema : Name)
  | sqlCheck (query expected : Value)

inductive Reaction
  | halt
  | warn
  | retry
  | markRan
  deriving DecidableEq, Repr

def Reaction.name : Reaction → String
  | .halt => "halt"
  | .warn => "warn"
  | .retry => "continue"
  | .markRan => "mark_ran"

def Reaction.ofName? (name : String) : Option Reaction :=
  [Reaction.halt, .warn, .retry, .markRan].find? (·.name == name)

structure Policy where
  onFail : Reaction := .halt
  onError : Reaction := .halt
  failMessage : Value := .null
  errorMessage : Value := .null
  deriving DecidableEq, Repr

inductive Precondition
  | check (c : Check)
  | not (p : Precondition)
  | and (ps : List Precondition)
  | or (ps : List Precondition)
  | guard (policy : Policy) (ps : List Precondition)

structure Guard where
  policy : Policy := {}
  preconditions : List Precondition := []

def Guard.toPrecondition (g : Guard) : Precondition := .guard g.policy g.preconditions

def Check.name : Check → String
  | .fixed _ label _ => label
  | .dbms _ => "dbms"
  | .tableExists .. => "tableExists"
  | .columnExists .. => "columnExists"
  | .sqlCheck .. => "sqlCheck"

def Check.shown : Check → String
  | .fixed _ label _ => label
  | .dbms types => "dbms(" ++ types.display ++ ")"
  | .tableExists table _ => "tableExists(" ++ table.display ++ ")"
  | .columnExists table column _ => "columnExists(" ++ table.display ++ "." ++ column.display ++ ")"
  | .sqlCheck query _ => "sqlCheck(" ++ query.display ++ ")"

namespace Precondition

mutual
def shown : Precondition → String
  | .check c => c.shown
  | .not p => "not(" ++ shown p ++ ")"
  | .and ps => "and(" ++ Text.join ", " (shownAll ps) ++ ")"
  | .or ps => "or(" ++ Text.join ", " (shownAll ps) ++ ")"
  | .guard _ ps => "preconditions(" ++ Text.join ", " (shownAll ps) ++ ")"

def shownAll : List Precondition → List String
  | [] => []
  | p :: rest => shown p :: shownAll rest
end

def add (p part : Precondition) : Except Misfit Precondition :=
  match p with
  | .and ps => .ok (.and (ps ++ [part]))
  | .or ps => .ok (.or (ps ++ [part]))
  | .guard policy ps => .ok (.guard policy (ps ++ [part]))
  | .check _ => .error .lacking
  | .not _ => .error .lacking

def children? : Precondition → Option (List Precondition)
  | .and ps => some ps
  | .or ps => some ps
  | .guard _ ps => some ps
  | _ => none

end Precondition

end SchemaMigration
