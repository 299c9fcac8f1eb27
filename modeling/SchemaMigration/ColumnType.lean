import SchemaMigration.Dialect

namespace SchemaMigration.ColumnType

def isBaseStart (c : Char) : Bool :=
  ('a' ≤ c && c ≤ 'z') || ('A' ≤ c && c ≤ 'Z') || c == '_'

def isBaseChar (c : Char) : Bool := isBaseStart c || ('0' ≤ c && c ≤ '9') || c == ' '

def isParameters (s : List Char) : Bool :=
  match s with
  | '(' :: rest => rest.getLast? == some ')' && !rest.contains '\n'
  | _ => false

/-- A base and its parameters, each of them as written. The base ends with its last character that
is no blank; blanks may stand between the two and around them. -/
def parts? (declared : List Char) : Option (List Char × List Char) :=
  let core := Text.trimChars declared
  match core with
  | [] => none
  | c :: _ =>
    let written := core.takeWhile isBaseChar
    let rest := (core.dropWhile isBaseChar).dropWhile Text.isBlank
    if isBaseStart c && (rest.isEmpty || isParameters rest) then
      some ((written.reverse.dropWhile (· == ' ')).reverse, rest)
    else none

/-- The base of a type in upper case and its parameters without spaces. A text of another form is
all base. -/
def split (declared : String) : String × String :=
  match parts? declared.toList with
  | some (base, parameters) =>
    (Text.upper (String.ofList base), String.ofList (parameters.filter (· != ' ')))
  | none => (Text.upper (Text.trim declared), "")

structure Mapping where
  name : String
  types : List (String × String)
  generated : List (String × String) := []

def standardTypes : List (String × String) := [
  ("BOOLEAN", "BOOLEAN"), ("BOOL", "BOOLEAN"), ("TINYINT", "SMALLINT"), ("SMALLINT", "SMALLINT"),
  ("INT", "INT"), ("INTEGER", "INT"), ("BIGINT", "BIGINT"), ("FLOAT", "FLOAT"),
  ("DOUBLE", "DOUBLE PRECISION"), ("DECIMAL", "DECIMAL"), ("NUMBER", "DECIMAL"),
  ("NUMERIC", "DECIMAL"), ("CURRENCY", "DECIMAL(18,4)"), ("CHAR", "CHAR"), ("VARCHAR", "VARCHAR"),
  ("NVARCHAR", "NVARCHAR"), ("TEXT", "CLOB"), ("CLOB", "CLOB"), ("BLOB", "BLOB"), ("DATE", "DATE"),
  ("TIME", "TIME"), ("DATETIME", "TIMESTAMP"), ("TIMESTAMP", "TIMESTAMP"), ("UUID", "CHAR(36)")]

def postgresqlTypes : List (String × String) := [
  ("NVARCHAR", "VARCHAR"), ("TEXT", "TEXT"), ("CLOB", "TEXT"), ("BLOB", "BYTEA"),
  ("DATETIME", "TIMESTAMP WITHOUT TIME ZONE"), ("UUID", "UUID"), ("CURRENCY", "DECIMAL")]

def mysqlTypes : List (String × String) := [
  ("BOOLEAN", "TINYINT(1)"), ("BOOL", "TINYINT(1)"), ("TINYINT", "TINYINT"), ("DOUBLE", "DOUBLE"),
  ("TEXT", "TEXT"), ("CLOB", "LONGTEXT"), ("BLOB", "LONGBLOB"), ("DATETIME", "DATETIME"),
  ("NVARCHAR", "VARCHAR")]

def sqliteTypes : List (String × String) := [
  ("INT", "INTEGER"), ("INTEGER", "INTEGER"), ("TINYINT", "INTEGER"), ("SMALLINT", "INTEGER"),
  ("BIGINT", "INTEGER"), ("DOUBLE", "REAL"), ("FLOAT", "REAL"), ("TEXT", "TEXT"), ("CLOB", "TEXT"),
  ("DATETIME", "TEXT"), ("TIMESTAMP", "TEXT"), ("UUID", "TEXT"), ("NVARCHAR", "VARCHAR")]

def oracleTypes : List (String × String) := [
  ("BOOLEAN", "NUMBER(1)"), ("BOOL", "NUMBER(1)"), ("TINYINT", "NUMBER(3)"),
  ("SMALLINT", "NUMBER(5)"), ("INT", "INTEGER"), ("INTEGER", "INTEGER"), ("BIGINT", "NUMBER(38,0)"),
  ("DOUBLE", "FLOAT(24)"), ("NUMBER", "NUMBER"), ("VARCHAR", "VARCHAR2"), ("NVARCHAR", "NVARCHAR2"),
  ("UUID", "RAW(16)")]

def mssqlTypes : List (String × String) := [
  ("BOOLEAN", "BIT"), ("BOOL", "BIT"), ("TINYINT", "TINYINT"), ("DOUBLE", "FLOAT"),
  ("TEXT", "NVARCHAR(MAX)"), ("CLOB", "NVARCHAR(MAX)"), ("BLOB", "VARBINARY(MAX)"),
  ("DATETIME", "DATETIME2"), ("TIMESTAMP", "DATETIME2"), ("UUID", "UNIQUEIDENTIFIER"),
  ("CURRENCY", "MONEY")]

def postgresqlGenerated : List (String × String) := [
  ("SMALLINT", "SMALLSERIAL"), ("INT", "SERIAL"), ("INTEGER", "SERIAL"), ("BIGINT", "BIGSERIAL")]

def sqliteGenerated : List (String × String) := [
  ("INT", "INTEGER"), ("INTEGER", "INTEGER"), ("BIGINT", "INTEGER"), ("SMALLINT", "INTEGER")]

def Mapping.of : Option Dialect → Mapping
  | some .postgresql => ⟨"postgresql", postgresqlTypes ++ standardTypes, postgresqlGenerated⟩
  | some .mysql => ⟨"mysql", mysqlTypes ++ standardTypes, []⟩
  | some .mariadb => ⟨"mysql", mysqlTypes ++ standardTypes, []⟩
  | some .sqlite => ⟨"sqlite", sqliteTypes ++ standardTypes, sqliteGenerated⟩
  | some .oracle => ⟨"oracle", oracleTypes ++ standardTypes, []⟩
  | some .mssql => ⟨"mssql", mssqlTypes ++ standardTypes, []⟩
  | none => ⟨"*", standardTypes, []⟩

def Mapping.resolve (m : Mapping) (declared : String) (generated : Bool) : String :=
  let (base, parameters) := split declared
  match (if generated then m.generated.lookup base else none) with
  | some stored => stored
  | none =>
    match m.types.lookup base with
    | none => Text.trim declared
    | some stored =>
      if parameters != "" && !stored.toList.contains '(' then stored ++ parameters else stored

end SchemaMigration.ColumnType
