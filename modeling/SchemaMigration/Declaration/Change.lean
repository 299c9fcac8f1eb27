import SchemaMigration.Declaration.Basic

namespace SchemaMigration

open Declaration

namespace ColumnConstraints

def fieldNames : List String :=
  ["nullable", "primary_key", "primary_key_name", "unique", "unique_constraint_name", "references",
    "foreign_key_name", "delete_cascade", "deferrable", "initially_deferred"]

def toValue (c : ColumnConstraints) : Value :=
  .object [("nullable", c.nullable), ("primary_key", c.primaryKey),
    ("primary_key_name", c.primaryKeyName), ("unique", c.unique),
    ("unique_constraint_name", c.uniqueName), ("references", c.references),
    ("foreign_key_name", c.foreignKeyName), ("delete_cascade", c.deleteCascade),
    ("deferrable", c.deferrable), ("initially_deferred", c.initiallyDeferred)]

def ofValue (v : Value) : Except DeclarationError ColumnConstraints := do
  let fs ← fields v
  onlyFields fieldNames fs
  return {
    nullable := value fs "nullable" .null
    primaryKey := value fs "primary_key" .null
    primaryKeyName := value fs "primary_key_name" .null
    unique := value fs "unique" .null
    uniqueName := value fs "unique_constraint_name" .null
    references := value fs "references" .null
    foreignKeyName := value fs "foreign_key_name" .null
    deleteCascade := value fs "delete_cascade" .null
    deferrable := value fs "deferrable" .null
    initiallyDeferred := value fs "initially_deferred" .null }

end ColumnConstraints

/-- The pair that a value writes, at a place in a list of pairs: a list, a text or an object of two,
the first of which can be looked up. -/
def Declaration.pairOf (place : Nat) (v : Value) : Except DeclarationError (Value × Value) := do
  match ← fitting v.elements with
  | [k, a] => if k.isKey then return (k, a) else .error unfit
  | parts => .error (.notPair place parts.length)

def Declaration.fieldsOrPairs (v : Value) : Except DeclarationError (List (String × Value)) :=
  match v with
  | .object fields => .ok fields
  | v => do
    let parts ← fitting v.elements
    let pairs ← parts.zipIdx.mapM fun (p, place) => pairOf place p
    let named ← pairs.mapM fun (k, a) => (text k).map fun k => (k, a)
    return named.foldl (fun fields (k, a) => putPair k a fields) []

namespace Column

def fieldNames : List String :=
  ["name", "type", "auto_increment", "default_value", "default_value_computed", "remarks",
    "constraints"]

def toValue (c : Column) : Value :=
  .object [("name", c.name), ("type", c.type),
    ("auto_increment", c.autoIncrement), ("default_value", c.default?),
    ("default_value_computed", c.computedDefault), ("remarks", c.remarks),
    ("constraints", (c.constraints.map ColumnConstraints.toValue).getD .null)]

def ofValue (v : Value) : Except DeclarationError Column := do
  let fs ← fieldsOrPairs v
  let constraints ←
    match value fs "constraints" .null with
    | .null => .ok none
    | declared => (ColumnConstraints.ofValue declared).map some
  onlyFields fieldNames fs
  return {
    name := value fs "name" .null
    type := value fs "type" .null
    autoIncrement := value fs "auto_increment" .null
    default? := value fs "default_value" .null
    computedDefault := value fs "default_value_computed" .null
    remarks := value fs "remarks" .null
    constraints := constraints }

end Column

def ColumnItem.toValue : ColumnItem → Value
  | .column c => c.toValue
  | .other v => v

namespace Columns

def toValue : Columns → Value
  | .list items => .list (items.map ColumnItem.toValue)
  | .other v => v

/-- The columns that a value declares. A list that starts with an object is one of columns;
otherwise everything is kept as it is. -/
def ofValue (v : Value) : Except DeclarationError Columns :=
  match v with
  | .list [] => .ok (.list [])
  | .list (.object fields :: rest) => do
    let columns ← Declaration.items Column.ofValue (.object fields :: rest)
    return .of columns
  | .list vs => .ok (.list (vs.map .other))
  | .object (_ :: _) => .error (.missingField "0")
  | .text _ | .object [] => .ok (.other v)
  | v => if v.isTrue then .error unfit else .ok (.other v)

def ofField (fs : List (String × Value)) : Except DeclarationError Columns :=
  ofValue (value fs "columns" (.list []))

end Columns

namespace Change

def fieldValues : Change → List (String × Value)
  | .createTable c =>
    [("table_name", c.table), ("schema_name", .ofText? c.schema.name), ("tablespace", c.tablespace),
      ("remarks", c.remarks), ("columns", c.columns.toValue)]
  | .dropTable c =>
    [("table_name", c.table), ("schema_name", c.schema), ("cascade_constraints", c.cascade)]
  | .renameTable c =>
    [("old_table_name", c.oldName), ("new_table_name", c.newName), ("schema_name", c.schema)]
  | .addColumn c =>
    [("table_name", c.table), ("schema_name", c.schema), ("columns", c.columns.toValue)]
  | .dropColumn c =>
    [("table_name", c.table), ("column_name", c.column), ("schema_name", c.schema)]
  | .renameColumn c =>
    [("table_name", c.table), ("old_column_name", c.oldName), ("new_column_name", c.newName),
      ("column_data_type", c.type), ("schema_name", c.schema)]
  | .createIndex c =>
    [("index_name", c.index), ("table_name", c.table), ("columns", c.columns), ("unique", c.unique),
      ("schema_name", c.schema), ("tablespace", c.tablespace)]
  | .dropIndex c =>
    [("index_name", c.index), ("table_name", c.table), ("schema_name", c.schema)]
  | .sql text => [("sql", text)]

def toValue (c : Change) : Value := .object (("change", .text c.name) :: c.fieldValues)

def ofFields (name : String) (columns : Columns) (fs : List (String × Value)) :
    Except DeclarationError Change :=
  let field := fun (n : String) => value fs n .null
  match name with
  | "createTable" => do
    onlyFields ["table_name", "schema_name", "tablespace", "remarks", "columns"] fs
    let schema ← fitting (field "schema_name").trimmed?
    return .createTable
      ⟨field "table_name", .ofDeclared schema, field "tablespace", field "remarks", columns⟩
  | "dropTable" => do
    onlyFields ["table_name", "schema_name", "cascade_constraints"] fs
    return .dropTable
      ⟨field "table_name", field "schema_name", value fs "cascade_constraints" (.bool false)⟩
  | "renameTable" => do
    onlyFields ["old_table_name", "new_table_name", "schema_name"] fs
    return .renameTable ⟨field "old_table_name", field "new_table_name", field "schema_name"⟩
  | "addColumn" => do
    onlyFields ["table_name", "schema_name", "columns"] fs
    return .addColumn ⟨field "table_name", field "schema_name", columns⟩
  | "dropColumn" => do
    onlyFields ["table_name", "column_name", "schema_name"] fs
    return .dropColumn ⟨field "table_name", field "column_name", field "schema_name"⟩
  | "renameColumn" => do
    onlyFields ["table_name", "old_column_name", "new_column_name", "column_data_type",
      "schema_name"] fs
    return .renameColumn ⟨field "table_name", field "old_column_name", field "new_column_name",
      field "column_data_type", field "schema_name"⟩
  | "createIndex" => do
    onlyFields ["index_name", "table_name", "columns", "unique", "schema_name", "tablespace"] fs
    return .createIndex ⟨field "index_name", field "table_name", columns.toValue,
      value fs "unique" (.bool false), field "schema_name", field "tablespace"⟩
  | "dropIndex" => do
    onlyFields ["index_name", "table_name", "schema_name"] fs
    return .dropIndex ⟨field "index_name", field "table_name", field "schema_name"⟩
  | _ => .error (.unknownChange name)

def ofValue (v : Value) : Except DeclarationError Change := do
  let fs ← fields v
  match fs.lookup "change" with
  | none => .error (.missingField "change")
  | some (.text name) =>
    if !names.contains name then .error (.unknownChange name)
    else do
      let columns ← Columns.ofField fs
      ofFields name columns (fs.filter (·.1 != "change"))
  | some (.list _) | some (.object _) => .error unfit
  | some other => .error (.unknownChange other.display)

def ofEntry (v : Value) : Except DeclarationError Change := do
  let fs ← fields v
  match fs.lookup "change" with
  | some (.text "rawSql") =>
    onlyFields ["change", "sql"] fs
    let sql ← needed fs "sql"
    return .sql sql
  | _ => ofValue v

end Change

end SchemaMigration
