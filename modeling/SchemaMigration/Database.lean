import SchemaMigration.ColumnType
import SchemaMigration.Engine
import SchemaMigration.Identifier.Quoting
import SchemaMigration.Value.Misfit

namespace SchemaMigration

structure Database where
  name : String
  style : Identifier.Style
  defaultSchema : Name := .null
  engine : Option Engine := none

namespace Database

structure UnknownDialect where
  written : String

def UnknownDialect.message (e : UnknownDialect) : String :=
  "Unknown dialect: " ++ e.written ++ ". Supported: " ++
    Text.join ", " (Dialect.all.map Dialect.name)

def ofName (written : String) (defaultSchema : Name) (engine : Option Engine) :
    Except UnknownDialect Database :=
  let name := Dialect.normalizeName written
  match Dialect.ofName? name with
  | some d => .ok ⟨name, Identifier.Style.of (some d), defaultSchema, engine⟩
  | none => .error ⟨written⟩

def generic (written : String) (defaultSchema : Name) (engine : Option Engine) : Database :=
  ⟨Dialect.normalizeName written, Identifier.Style.of none, defaultSchema, engine⟩

/-- The database behind an engine of a dialect. Its schema is that of the engine, unless another
one is given. MariaDB presents itself as MySQL. -/
def ofEngine (dialect : Dialect) (engine : Engine) (defaultSchema : Name) : Database :=
  let dialect := if dialect == .mariadb then .mysql else dialect
  ⟨dialect.name, Identifier.Style.of (some dialect), defaultSchema.unlessNull engine.defaultSchema,
    some engine⟩

def dialect? (db : Database) : Option Dialect := Dialect.ofName? db.name

def types (db : Database) : ColumnType.Mapping := .of db.dialect?

def columnType (db : Database) (declared : String) (generated : Bool) : String :=
  db.types.resolve declared generated

def quote (db : Database) (name : String) : String := db.style.quote name

def qualify (db : Database) (schema : Option String) (name : String) : String :=
  match schema with
  | some s => if s == "" then db.quote name else db.style.quoteSchema s ++ "." ++ db.quote name
  | none => db.quote name

def quoteName (db : Database) (name : Name) : Except Misfit String := name.nameText.map db.quote

def qualifyName (db : Database) (schema name : Name) : Except Misfit String :=
  if schema.isTrue then do
    let schema ← schema.nameText
    let name ← name.nameText
    return db.qualify (some schema) name
  else db.quoteName name

@[simp] theorem quoteName_text (db : Database) (s : String) :
    db.quoteName (.text s) = .ok (db.quote s) := rfl

def textLiteral (s : String) : String :=
  String.ofList ('\'' :: Text.replaceChar '\'' ['\'', '\''] s.toList ++ ['\''])

def boolLiteral (db : Database) (b : Bool) : String :=
  if db.dialect? == some .postgresql then (if b then "TRUE" else "FALSE")
  else (if b then "1" else "0")

def literal (db : Database) : Value → String
  | .null => "NULL"
  | .bool b => db.boolLiteral b
  | .int n => toString n
  | .float x => x.text
  | v => textLiteral v.display

def shown (db : Database) : String :=
  "Database(dialect=" ++ Text.quoted db.name ++ ", default_schema=" ++
    db.defaultSchema.shown ++ ", bound=" ++ Value.boolText db.engine.isSome ++ ")"

end Database

end SchemaMigration
