import SchemaMigration.Declaration.Basic

namespace SchemaMigration

open Declaration

namespace ColumnConstraint

def toValue : ColumnConstraint → Value
  | .notNull column => .object [("type", .text "NotNullConstraint"), ("column_name", column)]
  | .foreignKey key =>
    .object [("type", .text "ForeignKeyConstraint"), ("foreign_key_name", key.name),
      ("references", key.references), ("column_name", key.column),
      ("delete_cascade", key.deleteCascade), ("deferrable", key.deferrable),
      ("initially_deferred", key.initiallyDeferred)]
  | .unique name columns =>
    .object [("type", .text "UniqueConstraint"), ("constraint_name", name),
      ("columns", .list columns)]
  | .generated column =>
    .object [("type", .text "AutoIncrementConstraint"), ("column_name", column)]

def ofFields (type : String) (fs : List (String × Value)) :
    Except DeclarationError ColumnConstraint :=
  match type with
  | "NotNullConstraint" => do
    onlyFields ["column_name"] fs
    let column ← needed fs "column_name"
    return .notNull column
  | "AutoIncrementConstraint" => do
    onlyFields ["column_name"] fs
    let column ← needed fs "column_name"
    return .generated column
  | "UniqueConstraint" => do
    onlyFields ["constraint_name", "columns"] fs
    let columns ← fitting (value fs "columns" (.list [])).elements
    return .unique (value fs "constraint_name" .null) columns
  | "ForeignKeyConstraint" => do
    onlyFields ["foreign_key_name", "references", "column_name", "delete_cascade", "deferrable",
      "initially_deferred"] fs
    let name ← needed fs "foreign_key_name"
    let references ← needed fs "references"
    let column ← needed fs "column_name"
    return .foreignKey {
      name := name
      references := references
      column := column
      deleteCascade := value fs "delete_cascade" (.bool false)
      deferrable := value fs "deferrable" (.bool false)
      initiallyDeferred := value fs "initially_deferred" (.bool false) }
  | _ => .error unfit

def ofValue (v : Value) : Except DeclarationError ColumnConstraint := do
  let fs ← fields v
  let type ← textNeeded fs "type"
  ofFields type (fs.filter (·.1 != "type"))

end ColumnConstraint

namespace Statement

def valueTable (pairs : List (Name × Value)) : Value :=
  .object (pairs.foldl (fun fields (name, v) => putPair name.display v fields) [])

def fieldOf : TablePart → String
  | .columns => "columns"
  | .types => "column_types"
  | .defaults => "default_values"
  | .keyColumns => "primary_key_columns"

def isList : TablePart → Bool
  | .columns | .keyColumns => true
  | .types | .defaults => false

def listedIn (fs : List (String × Value)) (part : TablePart) : Option (List Name) :=
  match value fs (fieldOf part) (.list []) with
  | .list names => some names
  | _ => none

/-- The values by columns in a part of a table, nothing if it is declared as something else than an
object. -/
def tableIn (fs : List (String × Value)) (part : TablePart) : Option (List (Name × Value)) :=
  match value fs (fieldOf part) (.object []) with
  | .object pairs => some (pairs.map fun (n, v) => (.text n, v))
  | _ => none

def strangeParts (fs : List (String × Value)) : List (TablePart × Value) :=
  [TablePart.columns, .types, .defaults, .keyColumns].filterMap fun part =>
    let isStrange := if isList part then (listedIn fs part).isNone else (tableIn fs part).isNone
    if isStrange then some (part, value fs (fieldOf part) .null) else none

def partValue (t : TableDefinition) (part : TablePart) (v : Value) : String × Value :=
  (fieldOf part, (t.strange.lookup part).getD v)

def Kind.ofLongName? (name : String) : Option Kind := Kind.all.find? (·.longName == name)

def fieldValues : Statement → List (String × Value)
  | .createTable t =>
    [("schema_name", t.schema), ("table_name", t.table), partValue t .columns (.list t.columns),
      partValue t .types (valueTable t.types), partValue t .defaults (valueTable t.defaults),
      partValue t .keyColumns (.list t.keyColumns), ("primary_key_name", t.keyName),
      ("constraints", .list (t.constraints.map ColumnConstraint.toValue)),
      ("tablespace", t.tablespace)]
  | .dropTable schema table cascade =>
    [("schema_name", schema), ("table_name", table), ("cascade_constraints", cascade)]
  | .renameTable schema table newName =>
    [("schema_name", schema), ("old_table_name", table), ("new_table_name", newName)]
  | .addColumn a =>
    [("schema_name", a.schema), ("table_name", a.table), ("column_name", a.column),
      ("column_type", a.type), ("default_value", a.default?), ("nullable", a.nullable),
      ("primary_key", a.primaryKey), ("unique", a.unique), ("auto_increment", a.generated)]
  | .dropColumn schema table column =>
    [("schema_name", schema), ("table_name", table), ("column_name", column)]
  | .renameColumn schema table column newName type =>
    [("schema_name", schema), ("table_name", table), ("old_column_name", column),
      ("new_column_name", newName), ("column_type", type)]
  | .createIndex i =>
    [("schema_name", i.schema), ("table_name", i.table), ("index_name", i.index),
      ("columns", .list i.columns), ("unique", i.unique), ("tablespace", i.tablespace)]
  | .dropIndex schema table index =>
    [("schema_name", schema), ("table_name", table), ("index_name", index)]
  | .tableRemarks schema table remarks =>
    [("schema_name", schema), ("table_name", table), ("remarks", remarks)]
  | .columnRemarks schema table column remarks =>
    [("schema_name", schema), ("table_name", table), ("column_name", column), ("remarks", remarks)]
  | .sql text => [("sql", text)]

def toValue (s : Statement) : Value :=
  .object (("type", .text s.kind.longName) :: s.fieldValues)

def Kind.neededFields : Kind → List String
  | .createTable => ["schema_name", "table_name"]
  | .dropTable => ["schema_name", "table_name"]
  | .renameTable => ["schema_name", "old_table_name", "new_table_name"]
  | .addColumn => ["schema_name", "table_name", "column_name", "column_type"]
  | .dropColumn => ["schema_name", "table_name", "column_name"]
  | .renameColumn => ["schema_name", "table_name", "old_column_name", "new_column_name"]
  | .createIndex => ["schema_name", "table_name", "index_name", "columns"]
  | .dropIndex => ["schema_name", "table_name", "index_name"]
  | .tableRemarks => ["schema_name", "table_name", "remarks"]
  | .columnRemarks => ["schema_name", "table_name", "column_name", "remarks"]
  | .sql => ["sql"]

def Kind.otherFields : Kind → List String
  | .createTable =>
    ["columns", "column_types", "default_values", "primary_key_columns", "primary_key_name",
      "constraints", "tablespace"]
  | .dropTable => ["cascade_constraints"]
  | .addColumn => ["default_value", "nullable", "primary_key", "unique", "auto_increment"]
  | .renameColumn => ["column_type"]
  | .createIndex => ["unique", "tablespace"]
  | _ => []

def tableOfFields (schema table : Name) (fs : List (String × Value)) :
    Except DeclarationError TableDefinition := do
  let constraints ←
    match value fs "constraints" (.list []) with
    | .list vs => items ColumnConstraint.ofValue vs
    | _ => .error unfit
  return {
    schema := schema
    table := table
    columns := (listedIn fs .columns).getD []
    types := (tableIn fs .types).getD []
    defaults := (tableIn fs .defaults).getD []
    keyColumns := (listedIn fs .keyColumns).getD []
    keyName := value fs "primary_key_name" .null
    constraints := constraints
    tablespace := value fs "tablespace" .null
    strange := strangeParts fs }

def ofFields (kind : Kind) (fs : List (String × Value)) : Except DeclarationError Statement := do
  needsFields kind.neededFields fs
  onlyFields (kind.neededFields ++ kind.otherFields) fs
  let field := fun (name : String) => value fs name .null
  let flag := fun (name : String) (default? : Bool) => value fs name (.bool default?)
  let schema := field "schema_name"
  let table := field "table_name"
  let column := field "column_name"
  match kind with
  | .createTable =>
    let t ← tableOfFields schema table fs
    return .createTable t
  | .dropTable => return .dropTable schema table (flag "cascade_constraints" false)
  | .renameTable => return .renameTable schema (field "old_table_name") (field "new_table_name")
  | .addColumn =>
    return .addColumn {
      schema := schema
      table := table
      column := column
      type := field "column_type"
      default? := field "default_value"
      nullable := flag "nullable" true
      primaryKey := flag "primary_key" false
      unique := flag "unique" false
      generated := flag "auto_increment" false }
  | .dropColumn => return .dropColumn schema table column
  | .renameColumn =>
    return .renameColumn schema table (field "old_column_name") (field "new_column_name")
      (field "column_type")
  | .createIndex =>
    let columns ← fitting (field "columns").elements
    return .createIndex
      ⟨schema, table, field "index_name", columns, flag "unique" false, field "tablespace"⟩
  | .dropIndex => return .dropIndex schema table (field "index_name")
  | .tableRemarks => return .tableRemarks schema table (field "remarks")
  | .columnRemarks => return .columnRemarks schema table column (field "remarks")
  | .sql => return .sql (field "sql")

def ofValue (v : Value) : Except DeclarationError Statement := do
  let fs ← fields v
  let type ← textNeeded fs "type"
  match Kind.ofLongName? type with
  | some kind => ofFields kind (fs.filter (·.1 != "type"))
  | none => do
    let _ ← ColumnConstraint.ofFields type (fs.filter (·.1 != "type"))
    .error (.misfit .lacking)

end Statement

end SchemaMigration
