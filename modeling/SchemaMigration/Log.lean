
namespace SchemaMigration

inductive Level
  | info
  | warning
  | error
  deriving DecidableEq, Repr

def Level.name : Level → String
  | .info => "INFO"
  | .warning => "WARNING"
  | .error => "ERROR"

structure LogLine where
  level : Level
  text : String
  deriving DecidableEq, Repr

end SchemaMigration
