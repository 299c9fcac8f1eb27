import SchemaMigration.Declaration.Statement

namespace SchemaMigration

open Declaration

namespace TableDefinition

def checkParts (t : TableDefinition) (column default? : Value) (isKey : Bool) :
    Except DeclarationError Unit :=
  if t.lacks .columns then .error (.misfit .lacking)
  else if !column.isKey || t.lacks .types || (!default?.isNull && t.lacks .defaults) then
    .error unfit
  else if isKey && t.lacks .keyColumns then .error (.misfit .lacking)
  else .ok ()

def edits : List (String × Nat × Nat) := [
  ("add_column", 2, 3), ("add_primary_key_column", 2, 4), ("add_column_constraint", 1, 1),
  ("constraints_for", 1, 1), ("is_not_null", 1, 1), ("is_auto_increment", 1, 1)]

def edit (t : TableDefinition) (name : String) (arguments : List Value) :
    Except DeclarationError (Value × TableDefinition) := do
  match edits.lookup name with
  | none => .error (.misfit .lacking)
  | some (least, greatest) =>
    if arguments.length < least || greatest < arguments.length then .error unfit
    else
      let argument := fun (n : Nat) => arguments[n]?.getD .null
      match name with
      | "add_column" =>
        let _ ← t.checkParts (argument 0) (argument 2) false
        return (.null, t.addColumn (argument 0) (argument 1) (argument 2))
      | "add_primary_key_column" =>
        let _ ← t.checkParts (argument 0) (argument 2) true
        return (.null, t.addKeyColumn (argument 0) (argument 1) (argument 2) (argument 3))
      | "add_column_constraint" =>
        let c ← ColumnConstraint.ofValue (argument 0)
        return (.null, t.addConstraint c)
      | question =>
        let column := argument 0
        match question with
        | "constraints_for" =>
          return (.list ((t.constraintsOn column).map ColumnConstraint.toValue), t)
        | "is_not_null" => return (.bool (t.isNotNull column), t)
        | _ => return (.bool (t.isGenerated column), t)

end TableDefinition

namespace Statement

def edit (s : Statement) (name : String) (arguments : List Value) :
    Except DeclarationError (Value × Statement) :=
  match s, name with
  | s, "affected_table" =>
    if arguments.isEmpty then .ok (s.affectedTable, s) else .error unfit
  | .createTable t, name => (t.edit name arguments).map fun (v, t) => (v, .createTable t)
  | _, _ => .error (.misfit .lacking)

def editAll (s : Statement) : List Value → Except DeclarationError (List Value × Statement)
  | [] => .ok ([], s)
  | .list (.text name :: arguments) :: rest => do
    let (v, s) ← s.edit name arguments
    let (vs, s) ← s.editAll rest
    return (v :: vs, s)
  | _ => .error unfit

end Statement

end SchemaMigration
