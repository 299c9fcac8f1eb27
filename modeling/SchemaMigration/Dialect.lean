import SchemaMigration.Text.Blank
import SchemaMigration.Text.Case

namespace SchemaMigration

inductive Dialect
  | postgresql
  | mysql
  | mariadb
  | sqlite
  | oracle
  | mssql
  deriving DecidableEq, Repr

namespace Dialect

def name : Dialect → String
  | .postgresql => "postgresql"
  | .mysql => "mysql"
  | .mariadb => "mariadb"
  | .sqlite => "sqlite"
  | .oracle => "oracle"
  | .mssql => "mssql"

def all : List Dialect := [.mariadb, .mssql, .mysql, .oracle, .postgresql, .sqlite]

def ofName? (name : String) : Option Dialect := all.find? (·.name == name)

@[simp] theorem ofName?_name (d : Dialect) : ofName? d.name = some d := by
  cases d <;> decide

def aliases : List (String × String) :=
  [("postgres", "postgresql"), ("pg", "postgresql"), ("sqlserver", "mssql"),
    ("sql_server", "mssql")]

def normalizeName (name : String) : String :=
  let key := Text.lower (Text.trim name)
  ((aliases.find? (·.1 == key)).map (·.2)).getD key

end Dialect

end SchemaMigration
