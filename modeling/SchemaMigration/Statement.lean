import SchemaMigration.Database

namespace SchemaMigration

structure ForeignKey where
  name : Name
  references : Value
  column : Name
  deleteCascade : Value := .bool false
  deferrable : Value := .bool false
  initiallyDeferred : Value := .bool false
  deriving BEq, Repr

inductive ColumnConstraint
  | notNull (column : Name)
  | foreignKey (key : ForeignKey)
  | unique (name : Name) (columns : List Name)
  | generated (column : Name)
  deriving BEq, Repr

def ColumnConstraint.isOn (column : Name) : ColumnConstraint → Bool
  | .notNull c => c.same column
  | .foreignKey key => key.column.same column
  | .unique _ columns => Value.sameItems columns [column]
  | .generated c => c.same column

inductive TablePart
  | columns
  | types
  | defaults
  | keyColumns
  deriving DecidableEq, Repr

/-- A table with its columns in order. Types and defaults are kept by column name, so of two
columns with one name the later type counts for both. -/
structure TableDefinition where
  schema : Name
  table : Name
  columns : List Name := []
  types : List (Name × Value) := []
  defaults : List (Name × Value) := []
  keyColumns : List Name := []
  keyName : Name := .null
  constraints : List ColumnConstraint := []
  tablespace : Value := .null
  /-- The parts that are declared as something else than a list or an object; they are empty
  above. -/
  strange : List (TablePart × Value) := []
  deriving BEq, Repr

namespace TableDefinition

def putAt (column : Name) (v : Value) : List (Name × Value) → List (Name × Value)
  | [] => [(column, v)]
  | (c, w) :: rest => if c.same column then (c, v) :: rest else (c, w) :: putAt column v rest

def at? (column : Name) (pairs : List (Name × Value)) : Option Value :=
  (pairs.find? fun p => p.1.same column).map (·.2)

def lacks (t : TableDefinition) (part : TablePart) : Bool := (t.strange.lookup part).isSome

def columnNames (t : TableDefinition) : Except Misfit (List Name) :=
  match t.strange.lookup .columns with
  | none => .ok t.columns
  | some v => v.elements

def keyNames (t : TableDefinition) : Except Misfit (List Name) :=
  match t.strange.lookup .keyColumns with
  | none => .ok t.keyColumns
  | some v => v.elements

def hasKey (t : TableDefinition) : Bool :=
  match t.strange.lookup .keyColumns with
  | none => !t.keyColumns.isEmpty
  | some v => v.isTrue

/-- Whether a column belongs to the key. A key that is declared as a text has the columns whose
names are parts of it. -/
def isKeyColumn (t : TableDefinition) (column : Name) : Except Misfit Bool :=
  match t.strange.lookup .keyColumns with
  | some (.text s) => column.onlyText.map fun n => Text.contains n.toList s.toList
  | _ => t.keyNames.map fun names => names.any column.same

def addColumn (t : TableDefinition) (column : Name) (type default? : Value) : TableDefinition :=
  { t with
    columns := t.columns ++ [column]
    types := putAt column type t.types
    defaults := if default?.isNull then t.defaults else putAt column default? t.defaults }

def addKeyColumn (t : TableDefinition) (column : Name) (type default? : Value) (keyName : Name) :
    TableDefinition :=
  let t := t.addColumn column type default?
  { t with
    keyColumns := t.keyColumns ++ [column]
    keyName := if keyName.isTrue then keyName else t.keyName }

def addConstraint (t : TableDefinition) (c : ColumnConstraint) : TableDefinition :=
  { t with constraints := t.constraints ++ [c] }

def constraintsOn (t : TableDefinition) (column : Name) : List ColumnConstraint :=
  t.constraints.filter (·.isOn column)

def isNotNull (t : TableDefinition) (column : Name) : Bool :=
  t.constraints.any fun
    | .notNull c => c.same column
    | _ => false

def isGenerated (t : TableDefinition) (column : Name) : Bool :=
  t.constraints.any fun
    | .generated c => c.same column
    | _ => false

end TableDefinition

structure ColumnAddition where
  schema : Name
  table : Name
  column : Name
  type : Value
  default? : Value := .null
  nullable : Value := .bool true
  primaryKey : Value := .bool false
  unique : Value := .bool false
  generated : Value := .bool false
  deriving BEq, Repr

structure IndexDefinition where
  schema : Name
  table : Name
  index : Name
  columns : List Name
  unique : Value := .bool false
  tablespace : Value := .null
  deriving BEq, Repr

inductive Statement
  | createTable (t : TableDefinition)
  | dropTable (schema table : Name) (cascade : Value)
  | renameTable (schema table newName : Name)
  | addColumn (a : ColumnAddition)
  | dropColumn (schema table column : Name)
  | renameColumn (schema table column newName : Name) (type : Value)
  | createIndex (i : IndexDefinition)
  | dropIndex (schema table index : Name)
  | tableRemarks (schema table : Name) (remarks : Value)
  | columnRemarks (schema table column : Name) (remarks : Value)
  | sql (text : Value)
  deriving BEq, Repr

namespace Statement

inductive Kind
  | createTable
  | dropTable
  | renameTable
  | addColumn
  | dropColumn
  | renameColumn
  | createIndex
  | dropIndex
  | tableRemarks
  | columnRemarks
  | sql
  deriving DecidableEq, Repr

def Kind.all : List Kind :=
  [.createTable, .dropTable, .renameTable, .addColumn, .dropColumn, .renameColumn, .createIndex,
    .dropIndex, .tableRemarks, .columnRemarks, .sql]

def Kind.name : Kind → String
  | .createTable => "createTable"
  | .dropTable => "dropTable"
  | .renameTable => "renameTable"
  | .addColumn => "addColumn"
  | .dropColumn => "dropColumn"
  | .renameColumn => "renameColumn"
  | .createIndex => "createIndex"
  | .dropIndex => "dropIndex"
  | .tableRemarks => "setTableRemarks"
  | .columnRemarks => "setColumnRemarks"
  | .sql => "statement"

def Kind.longName : Kind → String
  | .createTable => "CreateTableStatement"
  | .dropTable => "DropTableStatement"
  | .renameTable => "RenameTableStatement"
  | .addColumn => "AddColumnStatement"
  | .dropColumn => "DropColumnStatement"
  | .renameColumn => "RenameColumnStatement"
  | .createIndex => "CreateIndexStatement"
  | .dropIndex => "DropIndexStatement"
  | .tableRemarks => "SetTableRemarksStatement"
  | .columnRemarks => "SetColumnRemarksStatement"
  | .sql => "RawSqlStatement"

def kind : Statement → Kind
  | .createTable .. => .createTable
  | .dropTable .. => .dropTable
  | .renameTable .. => .renameTable
  | .addColumn .. => .addColumn
  | .dropColumn .. => .dropColumn
  | .renameColumn .. => .renameColumn
  | .createIndex .. => .createIndex
  | .dropIndex .. => .dropIndex
  | .tableRemarks .. => .tableRemarks
  | .columnRemarks .. => .columnRemarks
  | .sql .. => .sql

def affectedTable : Statement → Name
  | .createTable t => t.table
  | .dropTable _ table _ => table
  | .renameTable _ table _ => table
  | .addColumn a => a.table
  | .dropColumn _ table _ => table
  | .renameColumn _ table _ _ _ => table
  | .createIndex i => i.table
  | .dropIndex _ table _ => table
  | .tableRemarks _ table _ => table
  | .columnRemarks _ table _ _ => table
  | .sql _ => .null

end Statement

end SchemaMigration
