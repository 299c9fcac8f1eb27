import SchemaMigration.Registry

namespace SchemaMigration

structure ColumnConstraints where
  nullable : Value := .null
  primaryKey : Value := .null
  primaryKeyName : Name := .null
  unique : Value := .null
  uniqueName : Name := .null
  references : Value := .null
  foreignKeyName : Name := .null
  deleteCascade : Value := .null
  deferrable : Value := .null
  initiallyDeferred : Value := .null
  deriving BEq, Repr, Inhabited

def ColumnConstraints.isNotNull (c : ColumnConstraints) : Bool :=
  !c.nullable.isNull && !c.nullable.isTrue

structure Column where
  name : Name := .null
  type : Value := .null
  autoIncrement : Value := .null
  default? : Value := .null
  computedDefault : Value := .null
  remarks : Value := .null
  constraints : Option ColumnConstraints := none
  deriving BEq, Repr, Inhabited

namespace Column

def isGenerated (c : Column) : Bool := c.autoIncrement.isTrue

def isKey (c : Column) : Bool := (c.constraints.map fun k => k.primaryKey.isTrue).getD false

def isUnique (c : Column) : Bool := (c.constraints.map fun k => k.unique.isTrue).getD false

def isNotNull (c : Column) : Bool := (c.constraints.map ColumnConstraints.isNotNull).getD false

def references (c : Column) : Except Misfit (Option String) :=
  ((c.constraints.map ColumnConstraints.references).getD .null).trimmed?

def defaultText (c : Column) (db : Database) : Except Misfit (Option String) :=
  if !c.computedDefault.isNull then c.computedDefault.trimmed?
  else if c.default?.isNull then .ok none
  else .ok (Text.trimmed? (db.literal c.default?))

end Column

inductive ColumnItem
  | column (c : Column)
  | other (v : Value)
  deriving BEq, Repr, Inhabited

def ColumnItem.column? : ColumnItem → Except Misfit Column
  | .column c => .ok c
  | .other _ => .error .lacking

inductive Columns
  | list (items : List ColumnItem)
  | other (v : Value)
  deriving BEq, Repr, Inhabited

namespace Columns

def of (columns : List Column) : Columns := .list (columns.map .column)

def isTrue : Columns → Bool
  | .list items => !items.isEmpty
  | .other v => v.isTrue

def items : Columns → Except Misfit (List ColumnItem)
  | .list items => .ok items
  | .other v => v.elements.map fun vs => vs.map .other

def all (c : Columns) : Except Misfit (List Column) := do
  let items ← c.items
  items.mapM ColumnItem.column?

def append (column : Column) : Columns → Except Misfit Columns
  | .list items => .ok (.list (items ++ [.column column]))
  | .other _ => .error .lacking

end Columns

structure TableSchema where
  name : Option String
  trimmed : Text.nonBlank? name = name

def TableSchema.ofDeclared (declared : Option String) : TableSchema where
  name := Text.nonBlank? declared
  trimmed := Text.nonBlank?_nonBlank? declared

instance : BEq TableSchema := ⟨fun a b => a.name == b.name⟩

structure CreateTable where
  table : Name := .null
  schema : TableSchema
  tablespace : Value := .null
  remarks : Value := .null
  columns : Columns := .list []
  deriving BEq

structure DropTable where
  table : Name := .null
  schema : Name := .null
  cascade : Value := .bool false
  deriving BEq, Repr

structure RenameTable where
  oldName : Name := .null
  newName : Name := .null
  schema : Name := .null
  deriving BEq, Repr

structure AddColumn where
  table : Name := .null
  schema : Name := .null
  columns : Columns := .list []
  deriving BEq, Repr

structure DropColumn where
  table : Name := .null
  column : Name := .null
  schema : Name := .null
  deriving BEq, Repr

structure RenameColumn where
  table : Name := .null
  oldName : Name := .null
  newName : Name := .null
  type : Value := .null
  schema : Name := .null
  deriving BEq, Repr

structure CreateIndex where
  index : Name := .null
  table : Name := .null
  columns : Value := .list []
  unique : Value := .bool false
  schema : Name := .null
  tablespace : Value := .null
  deriving BEq, Repr

structure DropIndex where
  index : Name := .null
  table : Name := .null
  schema : Name := .null
  deriving BEq, Repr

/-- A change. The last one is given as SQL text: it has no name to declare it by and no inverse. -/
inductive Change
  | createTable (c : CreateTable)
  | dropTable (c : DropTable)
  | renameTable (c : RenameTable)
  | addColumn (c : AddColumn)
  | dropColumn (c : DropColumn)
  | renameColumn (c : RenameColumn)
  | createIndex (c : CreateIndex)
  | dropIndex (c : DropIndex)
  | sql (text : Value)
  deriving BEq

namespace Change

def name : Change → String
  | .createTable _ => "createTable"
  | .dropTable _ => "dropTable"
  | .renameTable _ => "renameTable"
  | .addColumn _ => "addColumn"
  | .dropColumn _ => "dropColumn"
  | .renameColumn _ => "renameColumn"
  | .createIndex _ => "createIndex"
  | .dropIndex _ => "dropIndex"
  | .sql _ => "change"

def names : List String :=
  ["addColumn", "createIndex", "createTable", "dropColumn", "dropIndex", "dropTable",
    "renameColumn", "renameTable"]

end Change

end SchemaMigration
