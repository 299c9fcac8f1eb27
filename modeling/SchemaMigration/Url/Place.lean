import SchemaMigration.Datum
import SchemaMigration.Path
import SchemaMigration.Text.Blank
import SchemaMigration.Url.Basic

namespace SchemaMigration

inductive FileMode
  | create
  | existing
  | readOnly
  deriving DecidableEq, Repr

/-- Where a database is: in memory, for as long as it is used, or in a file. -/
inductive DatabasePlace
  | memory
  | file (path : String) (mode : FileMode)
  | nowhere
  deriving DecidableEq, Repr

inductive OptionError
  | notTruth (text : String)
  | number (e : NumberError)
  | repeated
  | large
  | noFile
  | badName
  deriving DecidableEq, Repr

def OptionError.message : OptionError → String
  | .notTruth text => "String is not true/false: " ++ Text.quoted text
  | .number e => e.message
  | .repeated => "an option has several values"
  | .large => "an option is too large"
  | .noFile => "options need a file"
  | .badName => "embedded null byte"

inductive UrlError
  | notText (d : Datum)
  | unreadable
  | badNumber (e : NumberError)
  | unknownPlugin (name : String)
  | unknownDialect (name : String)
  | longName
  | noDialect
  | noDriver (name : String)
  | hasHost (url : String)
  | option (e : OptionError)

def UrlError.message : UrlError → String
  | .notText d => "Expected string or URL object, got " ++ d.shown
  | .unreadable => "Could not parse SQLAlchemy URL from given URL string"
  | .badNumber e => e.message
  | .unknownPlugin name => "Can't load plugin: sqlalchemy.plugins:" ++ name
  | .unknownDialect name => "Can't load plugin: sqlalchemy.dialects:" ++ name
  | .longName => "too many values to unpack (expected 2)"
  | .noDialect => "the name is that of something else"
  | .noDriver name => "No driver for " ++ name
  | .hasHost url =>
    "Invalid SQLite URL: " ++ url ++ "\nValid SQLite URL forms are:\n" ++
      " sqlite:///:memory: (or, sqlite://)\n" ++ " sqlite:///relative/path/to/file.db\n" ++
      " sqlite:////absolute/path/to/file.db"
  | .option e => e.message

namespace Url

def drivers : List (String × List String) := [
  ("postgresql", ["asyncpg", "base", "pg8000", "psycopg", "psycopg2", "psycopg2cffi"]),
  ("mysql", ["aiomysql", "asyncmy", "base", "cymysql", "mariadbconnector", "mysqlconnector",
    "mysqldb", "pymysql", "pyodbc"]),
  ("mariadb", ["aiomysql", "asyncmy", "base", "cymysql", "mariadbconnector", "mysqlconnector",
    "mysqldb", "pymysql", "pyodbc"]),
  ("oracle", ["base", "cx_oracle", "oracledb"]),
  ("mssql", ["aioodbc", "base", "pymssql", "pyodbc"]),
  ("sqlite", ["aiosqlite", "base", "pysqlcipher", "pysqlite"])]

def otherNames : List (String × List String) := [
  ("postgresql", ["array", "dialect", "dml", "ext", "hstore", "json", "named_types", "operators",
    "ranges", "types"]),
  ("mysql", ["dialect", "dml", "enumerated", "expression", "json", "mariadb", "reflection",
    "types"]),
  ("mariadb", ["dml", "enumerated", "expression", "json", "mariadb", "reflection", "types"]),
  ("oracle", ["dialect", "dictionary", "types", "vector"]),
  ("mssql", ["dialect", "information_schema", "json"]),
  ("sqlite", ["BLOB", "BOOLEAN", "CHAR", "DATE", "DATETIME", "DECIMAL", "FLOAT",
    "INTEGER", "Insert",
    "JSON", "NUMERIC", "REAL", "SMALLINT", "TEXT", "TIME", "TIMESTAMP", "VARCHAR", "dialect", "dml",
    "insert", "json"])]

def commonNames : List String :=
  ["__all__", "__builtins__", "__class__", "__dict__", "__doc__", "__file__",
    "__loader__", "__name__", "__package__", "__path__", "__spec__"]

def sqliteDrivers : List String := ["base", "pysqlite"]

def checkName (name : String) : Except UrlError Unit :=
  let parts := (Text.splitOn '+' name.toList).map String.ofList
  let dialect := parts.headD ""
  let driver := (parts[1]?).getD "base"
  let dotted := Text.join "." parts
  if 2 < parts.length then .error .longName
  else
    match drivers.lookup dialect with
    | none => .error (.unknownDialect dotted)
    | some known =>
      if known.contains driver then
        if dialect == "sqlite" && sqliteDrivers.contains driver then .ok ()
        else .error (.noDriver name)
      else if ((otherNames.lookup dialect).getD []).contains driver ||
          (dialect != "mariadb" && commonNames.contains driver) then .error .noDialect
      else .error (.unknownDialect dotted)

def trueWords : List String := ["true", "yes", "on", "y", "t", "1"]

def falseWords : List String := ["false", "no", "off", "n", "f", "0"]

def truthOf : List String → Except OptionError Bool
  | [text] =>
    let word := Text.lower (Text.trim text)
    if trueWords.contains word then .ok true
    else if falseWords.contains word then .ok false
    else .error (.notTruth word)
  | values => .ok (!values.isEmpty)

def binaryOf : List String → Except OptionError Unit
  | [] => .ok ()
  | [text] => ((Number.ofBinary text).map fun _ => ()).mapError .number
  | _ => .error .repeated

def wholeOf : List String → Except OptionError Unit
  | [] => .ok ()
  | [text] => do
    let n ← (Number.ofBase 10 text).mapError .number
    if -0x80000000 ≤ n && n < 0x80000000 then .ok () else .error .large
  | _ => .error .repeated

def driverOptions : List String :=
  ["uri", "timeout", "isolation_level", "detect_types", "check_same_thread", "cached_statements"]

def values (u : Url) (name : String) : List String := (u.query.lookup name).getD []

def isUri (u : Url) : Except OptionError Bool := do
  let isUri ← truthOf (u.values "uri")
  binaryOf (u.values "timeout")
  wholeOf (u.values "detect_types")
  let _ ← truthOf (u.values "check_same_thread")
  wholeOf (u.values "cached_statements")
  return isUri

def localPath? (s : List Char) : Option (List Char) :=
  match s with
  | '/' :: '/' :: rest =>
    let host := rest.takeWhile (· != '/')
    if host.isEmpty || host == "localhost".toList then some (rest.drop host.length) else none
  | _ => some s

def placeIn (path : String) (options : List (String × List String)) : DatabasePlace :=
  let last (name : String) : Option String := ((options.lookup name).getD []).getLast?
  let knowsCache := ((last "cache").map fun c => c == "shared" || c == "private").getD true
  if !knowsCache || (last "vfs").isSome then .nowhere
  else
    let place (mode : FileMode) : DatabasePlace :=
      if path == "" || path == ":memory:" then .memory else .file path mode
    match last "mode" with
    | none => place .create
    | some "rwc" => place .create
    | some "rw" => place .existing
    | some "ro" => place .readOnly
    | some "memory" => .memory
    | some _ => .nowhere

def placeOfUri (uri : List Char) : DatabasePlace :=
  match localPath? uri with
  | none => .nowhere
  | some rest =>
    let rest := rest.takeWhile (· != '#')
    let path := rest.takeWhile (· != '?')
    placeIn (unescaped path) (queryOf ((rest.drop path.length).drop 1))

def withOptions (u : Url) (path : String) : String :=
  let options := (u.query.filter fun (k, _) => !driverOptions.contains k).mergeSort fun a b =>
    decide (a.1 ≤ b.1)
  if options.isEmpty then path
  else path ++ "?" ++ Text.join "&" (options.map fun (k, vs) => k ++ "=" ++ Text.join "" vs)

def place (u : Url) : Except UrlError DatabasePlace := do
  let hasText (s : Option String) : Bool := (s.map (· != "")).getD false
  if hasText u.username || hasText u.password || hasText u.host ||
      (u.hostNumber.map (· != 0)).getD false then .error (.hasHost u.shown)
  let isUri ← u.isUri.mapError .option
  let path := u.database.getD ""
  if path.toList.contains '\x00' then .error (.option .badName)
  else if isUri then
    match u.database with
    | none => .error (.option .noFile)
    | some path =>
      let path := u.withOptions path
      if "file:".toList.isPrefixOf path.toList then return placeOfUri (path.toList.drop 5)
      else if path == "" || path == ":memory:" then return .memory
      else return .file path .create
  else return if path == "" || path == ":memory:" then .memory else .file path .create

def resolve (d : Datum) : Except UrlError DatabasePlace :=
  match d.text? with
  | none => .error (.notText d)
  | some url =>
    match ofText url with
    | .error .unreadable => .error .unreadable
    | .error (.badNumber e) => .error (.badNumber e)
    | .ok u => do
      match u.values "plugin" with
      | plugin :: _ => .error (.unknownPlugin plugin)
      | [] =>
        checkName u.name
        u.place

end Url

end SchemaMigration
