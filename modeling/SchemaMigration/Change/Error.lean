import SchemaMigration.Rendering

namespace SchemaMigration

inductive Gap
  | field (name : String)
  | columns
  | columnName
  | columnType (column : Name)
  | tableOn (dialect : String)
  | stated (reason : String)
  deriving DecidableEq, Repr

def Gap.reason : Gap → String
  | .field name => name ++ " is required"
  | .columns => "No columns defined"
  | .columnName => "Column name is required"
  | .columnType column => "Column type is required for " ++ column.display
  | .tableOn dialect => "tableName is required on " ++ dialect
  | .stated reason => reason

inductive ChangeError
  /-- The declaration of a change, told by its name if there is one, has a gap. -/
  | incomplete (change : Option String) (gap : Gap)
  /-- A column of a new table refers to another table by a key without a name. -/
  | unnamedKey (column : Name)
  | keyOnAddition (column : Name)
  | unsupported (reason : String)
  | irreversible (change : String) (message : String)
  | misfit (f : Misfit)
  | render (e : RenderError)
  deriving DecidableEq, Repr

def ChangeError.message : ChangeError → String
  | .incomplete none gap => gap.reason
  | .incomplete (some change) gap => change ++ ": " ++ gap.reason
  | .unnamedKey column =>
    "createTable with references requires foreignKeyName (column " ++ column.display ++ ")"
  | .keyOnAddition column =>
    "addColumn cannot declare a foreign key on " ++ column.display ++
      "; add the constraint in a separate change"
  | .unsupported reason => reason
  | .irreversible change message =>
    if message == "" then "No inverse to " ++ change ++ " change; rollback is not supported"
    else message
  | .misfit f => f.message
  | .render e => e.message

end SchemaMigration
