import SchemaMigration.Statement

namespace SchemaMigration

inductive RenderError
  | unsupported (kind : Statement.Kind) (dialect : String)
  /-- What is looked up is not there: the type of a column, or the first one of some columns. -/
  | absent (key : Value)
  | misfit (f : Misfit)
  deriving DecidableEq, Repr

def RenderError.message : RenderError → String
  | .unsupported kind dialect => kind.longName ++ " is not supported on " ++ dialect
  | .absent key => key.display
  | .misfit f => f.message

namespace Rendering

def part {α : Type} (result : Except Misfit α) : Except RenderError α := result.mapError .misfit

def quoted (db : Database) (name : Name) : Except RenderError String := part (db.quoteName name)

def qualified (db : Database) (schema name : Name) : Except RenderError String :=
  part (db.qualifyName schema name)

def literal (v : Value) : Except RenderError String := part (v.written.map Database.textLiteral)

def plain (text : Value) : Except RenderError (List String) := part (text.onlyText.map fun s => [s])

def quotedAll (db : Database) : List Name → Except RenderError (List String)
  | [] => .ok []
  | name :: rest => do
    let q ← quoted db name
    let qs ← quotedAll db rest
    return q :: qs

def columnList (db : Database) (columns : List Name) : Except RenderError String :=
  (quotedAll db columns).map (Text.join ", ")

/-- The clause that makes the database generate the values of a column. PostgreSQL has types for
it, and SQLite a clause of the key. -/
def generatedClause (db : Database) : List String :=
  match db.dialect? with
  | some .mysql => ["AUTO_INCREMENT"]
  | some .mariadb => ["AUTO_INCREMENT"]
  | some .mssql => ["IDENTITY"]
  | some .postgresql => []
  | some .sqlite => []
  | some .oracle => ["GENERATED BY DEFAULT AS IDENTITY"]
  | none => ["GENERATED BY DEFAULT AS IDENTITY"]

def defaultClause (default? : Value) (generated : Bool) : List String :=
  if default?.isNull || generated then [] else ["DEFAULT " ++ default?.display]

def typeOf (t : TableDefinition) (column : Name) : Except RenderError Value :=
  if t.lacks .types || !column.isKey then .error (.misfit .unfit)
  else
    match TableDefinition.at? column t.types with
    | some type => .ok type
    | none => .error (.absent column)

def columnDefinition (t : TableDefinition) (column : Name) (db : Database) (inlineKey : Bool) :
    Except RenderError String := do
  let type ← typeOf t column
  let generated := t.isGenerated column
  let name ← quoted db column
  let key :=
    if inlineKey then "PRIMARY KEY" :: (if generated then ["AUTOINCREMENT"] else [])
    else if generated then generatedClause db
    else []
  if t.lacks .defaults then .error (.misfit .lacking)
  let notNull ← if t.isNotNull column then .ok true else part (t.isKeyColumn column)
  let type ← part type.onlyText
  return Text.join " " ([name, type] ++ key ++
    defaultClause ((TableDefinition.at? column t.defaults).getD .null) generated ++
    if notNull then ["NOT NULL"] else [])

def defers (db : Database) : Bool :=
  match db.dialect? with
  | some .postgresql => true
  | some .oracle => true
  | some .sqlite => true
  | _ => false

def foreignKeyClause (key : ForeignKey) (db : Database) : Except RenderError String := do
  let name ← quoted db key.name
  let column ← quoted db key.column
  return "CONSTRAINT " ++ name ++ " FOREIGN KEY (" ++ column ++ ") REFERENCES " ++
    key.references.display ++
    (if key.deleteCascade.isTrue then " ON DELETE CASCADE" else "") ++
    (if defers db && key.deferrable.isTrue then " DEFERRABLE" else "") ++
    (if defers db && key.initiallyDeferred.isTrue then " INITIALLY DEFERRED" else "")

def named (db : Database) (name : Name) (clause : String) : Except RenderError String :=
  if name.isTrue then (quoted db name).map fun n => "CONSTRAINT " ++ n ++ " " ++ clause
  else .ok clause

def uniqueClause (name : Name) (columns : List Name) (db : Database) :
    Except RenderError String := do
  let columns ← columnList db columns
  named db name ("UNIQUE (" ++ columns ++ ")")

def constraintClauses (db : Database) : List ColumnConstraint → Except RenderError (List String)
  | [] => .ok []
  | .foreignKey key :: rest => do
    let clause ← foreignKeyClause key db
    let clauses ← constraintClauses db rest
    return clause :: clauses
  | .unique name columns :: rest => do
    let clause ← uniqueClause name columns db
    let clauses ← constraintClauses db rest
    return clause :: clauses
  | _ :: rest => constraintClauses db rest

def inlineKey? (t : TableDefinition) (db : Database) : Except RenderError (Option Name) :=
  if db.dialect? != some .sqlite then .ok none
  else
    match t.strange.lookup .keyColumns with
    | some (.object [_]) => .error (.absent (.int 0))
    | _ =>
      (part t.keyNames).map fun
        | [column] => if t.isGenerated column then some column else none
        | _ => none

def columnDefinitions (t : TableDefinition) (db : Database) (inlineKey : Option Name) :
    List Name → Except RenderError (List String)
  | [] => .ok []
  | column :: rest => do
    let definition ← columnDefinition t column db ((inlineKey.map column.same).getD false)
    let definitions ← columnDefinitions t db inlineKey rest
    return definition :: definitions

def keyClause (t : TableDefinition) (db : Database) (inlineKey : Option Name) :
    Except RenderError (List String) :=
  if inlineKey.isSome || !t.hasKey then .ok []
  else do
    let names ← part t.keyNames
    let columns ← columnList db names
    let clause ← named db t.keyName ("PRIMARY KEY (" ++ columns ++ ")")
    return [clause]

def tablespaceClause (tablespace : Value) (db : Database) : String :=
  if tablespace.isTrue then
    match db.dialect? with
    | some .mssql => " ON " ++ tablespace.display
    | some .sqlite => ""
    | none => ""
    | _ => " TABLESPACE " ++ tablespace.display
  else ""

def tableBody (t : TableDefinition) (db : Database) : Except RenderError (List String) := do
  let inlineKey ← inlineKey? t db
  let names ← part t.columnNames
  let columns ← columnDefinitions t db inlineKey names
  let key ← keyClause t db inlineKey
  let constraints ← constraintClauses db t.constraints
  return columns ++ key ++ constraints

def createTable (t : TableDefinition) (db : Database) : Except RenderError (List String) := do
  let body ← tableBody t db
  let table ← qualified db t.schema t.table
  return ["CREATE TABLE " ++ table ++ " (" ++ Text.join ", " body ++ ")" ++
    tablespaceClause t.tablespace db]

def dropTable (schema table : Name) (cascade : Value) (db : Database) :
    Except RenderError (List String) := do
  let table ← qualified db schema table
  let clause :=
    if cascade.isTrue then
      match db.dialect? with
      | some .postgresql => " CASCADE"
      | some .oracle => " CASCADE CONSTRAINTS"
      | _ => ""
    else ""
  return ["DROP TABLE " ++ table ++ clause]

def renameTable (schema table newName : Name) (db : Database) :
    Except RenderError (List String) := do
  let oldName ← qualified db schema table
  match db.dialect? with
  | some .mssql =>
    let target := (if schema.isTrue then schema.display ++ "." else "") ++ table.display
    let newName ← literal newName
    return ["EXEC sp_rename " ++ Database.textLiteral target ++ ", " ++ newName]
  | some .mysql | some .mariadb =>
    let newName ← qualified db schema newName
    return ["RENAME TABLE " ++ oldName ++ " TO " ++ newName]
  | _ =>
    let newName ← quoted db newName
    return ["ALTER TABLE " ++ oldName ++ " RENAME TO " ++ newName]

def additionClauses (a : ColumnAddition) (db : Database) : List String :=
  let generated := a.generated.isTrue
  let notNull := if !a.nullable.isTrue || a.primaryKey.isTrue then ["NOT NULL"] else []
  let key :=
    if a.primaryKey.isTrue then ["PRIMARY KEY"]
    else if a.unique.isTrue then ["UNIQUE"]
    else []
  (if generated then generatedClause db else []) ++ defaultClause a.default? generated ++
    notNull ++ key

def addColumn (a : ColumnAddition) (db : Database) : Except RenderError (List String) := do
  let column ← quoted db a.column
  let table ← qualified db a.schema a.table
  let type ← part a.type.onlyText
  return ["ALTER TABLE " ++ table ++ " ADD " ++
    Text.join " " ([column, type] ++ additionClauses a db)]

def dropColumn (schema table column : Name) (db : Database) :
    Except RenderError (List String) := do
  let table ← qualified db schema table
  let column ← quoted db column
  return ["ALTER TABLE " ++ table ++ " DROP COLUMN " ++ column]

def joined : List Name → Except RenderError (List String)
  | [] => .ok []
  | name :: rest => do
    let n ← part name.onlyText
    let ns ← joined rest
    return n :: ns

def renameColumn (schema table column newName : Name) (db : Database) :
    Except RenderError (List String) := do
  match db.dialect? with
  | some .mssql =>
    let parts ← joined ((if schema.isTrue then [schema] else []) ++ [table, column])
    let newName ← literal newName
    return ["EXEC sp_rename " ++ Database.textLiteral (Text.join "." parts) ++ ", " ++ newName ++
      ", 'COLUMN'"]
  | _ =>
    let table ← qualified db schema table
    let column ← quoted db column
    let newName ← quoted db newName
    return ["ALTER TABLE " ++ table ++ " RENAME COLUMN " ++ column ++ " TO " ++ newName]

def createIndex (i : IndexDefinition) (db : Database) : Except RenderError (List String) := do
  let table ← qualified db i.schema i.table
  let index ← quoted db i.index
  let columns ← columnList db i.columns
  let tablespace :=
    match db.dialect? with
    | some .postgresql | some .oracle =>
      if i.tablespace.isTrue then " TABLESPACE " ++ i.tablespace.display else ""
    | _ => ""
  return ["CREATE " ++ (if i.unique.isTrue then "UNIQUE " else "") ++ "INDEX " ++ index ++ " ON " ++
    table ++ " (" ++ columns ++ ")" ++ tablespace]

def dropIndex (schema table index : Name) (db : Database) :
    Except RenderError (List String) := do
  match db.dialect? with
  | some .mysql | some .mariadb | some .mssql =>
    let table ← qualified db schema (if table.isTrue then table else .text "")
    let index ← quoted db index
    return ["DROP INDEX " ++ index ++ " ON " ++ table]
  | _ =>
    let index ← qualified db schema index
    return ["DROP INDEX " ++ index]

def commentOnTable (schema table : Name) (remarks : Value) (db : Database) :
    Except RenderError (List String) := do
  let table ← qualified db schema table
  let remarks ← literal remarks
  return ["COMMENT ON TABLE " ++ table ++ " IS " ++ remarks]

def commentOnColumn (schema table column : Name) (remarks : Value) (db : Database) :
    Except RenderError (List String) := do
  let table ← qualified db schema table
  let column ← quoted db column
  let remarks ← literal remarks
  return ["COMMENT ON COLUMN " ++ table ++ "." ++ column ++ " IS " ++ remarks]

def alterTableComment (schema table : Name) (remarks : Value) (db : Database) :
    Except RenderError (List String) := do
  let table ← qualified db schema table
  let remarks ← literal remarks
  return ["ALTER TABLE " ++ table ++ " COMMENT = " ++ remarks]

end Rendering

end SchemaMigration
