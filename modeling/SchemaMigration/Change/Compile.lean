import SchemaMigration.Change.Basic
import SchemaMigration.Change.Error

namespace SchemaMigration

namespace Change

def schema : Change → Name
  | .createTable c => .ofText? c.schema.name
  | .dropTable c => c.schema
  | .renameTable c => c.schema
  | .addColumn c => c.schema
  | .dropColumn c => c.schema
  | .renameColumn c => c.schema
  | .createIndex c => c.schema
  | .dropIndex c => c.schema
  | .sql _ => .null

def resolvedSchema (c : Change) (db : Database) : Name := c.schema.unlessNull db.defaultSchema

def part {α : Type} (result : Except Misfit α) : Except ChangeError α := result.mapError .misfit

def requireName (change field : String) (v : Name) : Except ChangeError Unit :=
  match v with
  | .null => .error (.incomplete (some change) (.field field))
  | .text s =>
    if (Text.trimmed? s).isNone then .error (.incomplete (some change) (.field field)) else .ok ()
  | _ => .ok ()

def validateColumn (change : String) (column : Column) : Except ChangeError Unit := do
  let name ← part column.name.trimmed?
  if name.isNone then .error (.incomplete (some change) .columnName)
  let type ← part column.type.trimmed?
  if type.isNone then .error (.incomplete (some change) (.columnType column.name))

def validateColumns (change : String) : List ColumnItem → Except ChangeError Unit
  | [] => .ok ()
  | item :: rest => do
    let column ← part item.column?
    validateColumn change column
    validateColumns change rest

def requireColumns (change : String) (columns : Columns) : Except ChangeError Unit :=
  if !columns.isTrue then .error (.incomplete (some change) .columns)
  else do
    let items ← part columns.items
    validateColumns change items

def namesTableOfIndex (db : Database) : Bool :=
  match db.dialect? with
  | some .mysql | some .mariadb | some .mssql => true
  | _ => false

def validate (db : Database) (change : Change) : Except ChangeError Unit := do
  match change with
  | .createTable c =>
    requireName change.name "tableName" c.table
    requireColumns change.name c.columns
  | .dropTable c => requireName change.name "tableName" c.table
  | .renameTable c =>
    requireName change.name "oldTableName" c.oldName
    requireName change.name "newTableName" c.newName
  | .addColumn c =>
    requireName change.name "tableName" c.table
    requireColumns change.name c.columns
  | .dropColumn c =>
    requireName change.name "tableName" c.table
    requireName change.name "columnName" c.column
  | .renameColumn c =>
    requireName change.name "tableName" c.table
    requireName change.name "oldColumnName" c.oldName
    requireName change.name "newColumnName" c.newName
  | .createIndex c =>
    requireName change.name "indexName" c.index
    requireName change.name "tableName" c.table
    if !c.columns.isTrue then .error (.incomplete (some change.name) .columns)
  | .dropIndex c =>
    requireName change.name "indexName" c.index
    if namesTableOfIndex db then
      let table ← part c.table.trimmed?
      if table.isNone then .error (.incomplete (some change.name) (.tableOn db.name))
  | .sql _ => .ok ()

def columnType (db : Database) (type : Value) (generated : Bool) : Except ChangeError String :=
  part (type.onlyText.map fun s => db.columnType s generated)

def columnConstraints (column : Column) : Except ChangeError (List ColumnConstraint) := do
  let k := column.constraints.getD {}
  let notNull := if k.isNotNull then [.notNull column.name] else []
  let target ← part column.references
  let foreignKey ←
    if target.isNone then .ok []
    else do
      let name ← part k.foreignKeyName.trimmed?
      if name.isNone then .error (.unnamedKey column.name)
      else
        .ok [.foreignKey
          { name := k.foreignKeyName
            references := k.references
            column := column.name
            deleteCascade := .bool k.deleteCascade.isTrue
            deferrable := .bool k.deferrable.isTrue
            initiallyDeferred := .bool k.initiallyDeferred.isTrue }]
  let unique := if k.unique.isTrue then [.unique k.uniqueName [column.name]] else []
  let generated := if column.isGenerated then [.generated column.name] else []
  return notNull ++ foreignKey ++ unique ++ generated

def defineColumn (db : Database) (t : TableDefinition) (column : Column) :
    Except ChangeError TableDefinition := do
  let type ← columnType db column.type column.isGenerated
  let default? ← part (column.defaultText db)
  if !column.name.isKey then .error (.misfit .unfit)
  let t :=
    if column.isKey then
      t.addKeyColumn column.name (.text type) (.ofText? default?)
        ((column.constraints.map (·.primaryKeyName)).getD .null)
    else t.addColumn column.name (.text type) (.ofText? default?)
  let constraints ← columnConstraints column
  return constraints.foldl TableDefinition.addConstraint t

def defineColumns (db : Database) : TableDefinition → List ColumnItem →
    Except ChangeError TableDefinition
  | t, [] => .ok t
  | t, item :: rest => do
    let column ← part item.column?
    let t ← defineColumn db t column
    defineColumns db t rest

def columnRemarks (schema table : Name) : List ColumnItem → Except ChangeError (List Statement)
  | [] => .ok []
  | item :: rest => do
    let column ← part item.column?
    let remarks ← part column.remarks.trimmed?
    let more ← columnRemarks schema table rest
    return (remarks.map fun s => Statement.columnRemarks schema table column.name
      (.text s)).toList ++ more

def tableRemarks (schema table : Name) (remarks : Value) : Except ChangeError (List Statement) :=
  (part remarks.trimmed?).map fun
    | some s => [.tableRemarks schema table (.text s)]
    | none => []

def columnAddition (db : Database) (schema table : Name) (column : Column) :
    Except ChangeError Statement := do
  let target ← part column.references
  if target.isSome then .error (.keyOnAddition column.name)
  let default? ← part (column.defaultText db)
  let type ← columnType db column.type column.isGenerated
  return .addColumn
    { schema := schema
      table := table
      column := column.name
      type := .text type
      default? := .ofText? default?
      nullable := .bool (!column.isNotNull)
      primaryKey := .bool column.isKey
      unique := .bool column.isUnique
      generated := .bool column.isGenerated }

def columnAdditions (db : Database) (schema table : Name) :
    List ColumnItem → Except ChangeError (List Statement)
  | [] => .ok []
  | item :: rest => do
    let column ← part item.column?
    let s ← columnAddition db schema table column
    let more ← columnAdditions db schema table rest
    return s :: more

def statements (db : Database) (registry : Registry) (change : Change) :
    Except ChangeError (List Statement) :=
  let schema := change.resolvedSchema db
  match change with
  | .createTable c => do
    let items ← part c.columns.items
    let t ← defineColumns db { schema := schema, table := c.table } items
    let tablespace ← part c.tablespace.trimmed?
    let onTable ← tableRemarks schema c.table c.remarks
    let onColumns ← columnRemarks schema c.table items
    return .createTable { t with tablespace := .ofText? tablespace } ::
      (onTable ++ onColumns).filter (registry.supports db)
  | .dropTable c => .ok [.dropTable schema c.table c.cascade]
  | .renameTable c => .ok [.renameTable schema c.oldName c.newName]
  | .addColumn c => do
    let items ← part c.columns.items
    let additions ← columnAdditions db schema c.table items
    let remarks ← columnRemarks schema c.table items
    return additions ++ remarks.filter (registry.supports db)
  | .dropColumn c => .ok [.dropColumn schema c.table c.column]
  | .renameColumn c => do
    let type ←
      if c.type.isTrue then (columnType db c.type false).map Value.text else .ok .null
    return [.renameColumn schema c.table c.oldName c.newName type]
  | .createIndex c => do
    let columns ← part c.columns.elements
    let tablespace ← part c.tablespace.trimmed?
    return [.createIndex
      { schema := schema
        table := c.table
        index := c.index
        columns := columns
        unique := c.unique
        tablespace := .ofText? tablespace }]
  | .dropIndex c => .ok [.dropIndex schema c.table c.index]
  | .sql text => .ok [.sql text]

def inverses : Change → Except ChangeError (List Change)
  | .createTable c => .ok [.dropTable { table := c.table, schema := .ofText? c.schema.name }]
  | .renameTable c =>
    .ok [.renameTable { oldName := c.newName, newName := c.oldName, schema := c.schema }]
  | .addColumn c => do
    let columns ← part c.columns.all
    return columns.reverse.map fun column =>
      .dropColumn { table := c.table, column := column.name, schema := c.schema }
  | .renameColumn c =>
    .ok [.renameColumn { c with oldName := c.newName, newName := c.oldName }]
  | .createIndex c =>
    .ok [.dropIndex { index := c.index, table := c.table, schema := c.schema }]
  | change => .error (.irreversible change.name "")

def isReversible (change : Change) : Except ChangeError Bool :=
  match change.inverses with
  | .ok _ => .ok true
  | .error (.irreversible ..) => .ok false
  | .error e => .error e

def validStatements (db : Database) (registry : Registry) (change : Change) :
    Except ChangeError (List Statement) := do
  change.validate db
  change.statements db registry

def allStatements (db : Database) (registry : Registry) :
    List Change → Except ChangeError (List Statement)
  | [] => .ok []
  | change :: rest => do
    let s ← change.validStatements db registry
    let more ← allStatements db registry rest
    return s ++ more

def inverseStatements (db : Database) (registry : Registry) (change : Change) :
    Except ChangeError (List Statement) := do
  let inverses ← change.inverses
  allStatements db registry inverses

def confirmation : Change → Except ChangeError String
  | .createTable c => .ok ("Table " ++ c.table.display ++ " created")
  | .dropTable c => .ok ("Table " ++ c.table.display ++ " dropped")
  | .renameTable c =>
    .ok ("Table " ++ c.oldName.display ++ " renamed to " ++ c.newName.display)
  | .addColumn c => do
    let columns ← part c.columns.all
    return "Columns " ++ Text.join ", " (columns.map fun column => column.name.display) ++
      " added to " ++ c.table.display
  | .dropColumn c =>
    .ok ("Column " ++ c.table.display ++ "." ++ c.column.display ++ " dropped")
  | .renameColumn c =>
    .ok ("Column " ++ c.table.display ++ "." ++ c.oldName.display ++ " renamed to " ++
      c.newName.display)
  | .createIndex c => .ok ("Index " ++ c.index.display ++ " created")
  | .dropIndex c => .ok ("Index " ++ c.index.display ++ " dropped")
  | .sql _ => .ok "Custom SQL executed"

def confirmations : List Change → Except ChangeError (List String)
  | [] => .ok []
  | change :: rest => do
    let text ← change.confirmation
    let more ← confirmations rest
    return text :: more

end Change

end SchemaMigration
