
namespace SchemaMigration.Sqlite

inductive Fault
  | operational (text : String)
  | integrity (text : String)
  | programming (text : String)
  | late (text : String)
  | data (text : String)
  deriving DecidableEq, Repr

namespace Fault

def message : Fault → String
  | .operational text => "(sqlite3.OperationalError) " ++ text
  | .integrity text => "(sqlite3.IntegrityError) " ++ text
  | .programming text => "(sqlite3.ProgrammingError) " ++ text
  | .late text => "(sqlite3.OperationalError) " ++ text
  | .data text => "(sqlite3.DataError) " ++ text

def isLate : Fault → Bool
  | .late _ | .data _ => true
  | _ => false

def isStatic : Fault → Bool
  | .operational _ | .programming _ => true
  | _ => false

def syntaxError : Fault := .operational "syntax error"

def noTable (name : String) : Fault := .operational ("no such table: " ++ name)

def noColumn (name : String) : Fault := .operational ("no such column: " ++ name)

end Fault

end SchemaMigration.Sqlite
