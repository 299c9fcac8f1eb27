import SchemaMigration.ChangeLog

/-! Changes written as values and read back. Writing gives every field, and reading tells columns
from names by the kind of the first item; so a change is read back as it was, unless its columns are
of mixed kinds. -/

namespace SchemaMigration

open Declaration

@[simp] theorem ColumnConstraints.ofValue_toValue (c : ColumnConstraints) :
    ofValue c.toValue = .ok c := by
  rfl

@[simp] theorem Column.ofValue_toValue (c : Column) : ofValue c.toValue = .ok c := by
  obtain ⟨name, type, autoIncrement, default?, computedDefault, remarks, constraints⟩ := c
  cases constraints with
  | none => rfl
  | some constraints => rfl

theorem Declaration.items_map {α : Type} {read : Value → Except DeclarationError α}
    {write : α → Value}
    (h : ∀ a, read (write a) = .ok a) (as : List α) : items read (as.map write) = .ok as := by
  induction as with
  | nil => rfl
  | cons a rest ih =>
    rw [List.map_cons, items, h, ih]
    rfl

namespace Columns

inductive AreUniform : Columns → Prop
  | columns (columns : List Column) : AreUniform (.of columns)
  | values (values : List Value) (plain : ∀ fields, values.head? ≠ some (.object fields)) :
      AreUniform (.list (values.map .other))

theorem toValue_of (columns : List Column) :
    (Columns.of columns).toValue = .list (columns.map Column.toValue) := by
  simp [of, toValue, ColumnItem.toValue]

theorem toValue_others (values : List Value) :
    (Columns.list (values.map .other)).toValue = .list values := by
  simp [toValue, Function.comp_def, ColumnItem.toValue]

theorem ofValue_plain {values : List Value}
    (plain : ∀ fields, values.head? ≠ some (.object fields)) :
    ofValue (.list values) = .ok (.list (values.map .other)) := by
  cases values with
  | nil => rfl
  | cons v rest =>
    cases v with
    | object fields => exact absurd rfl (plain fields)
    | _ => rfl

theorem ofValue_toValue {columns : Columns} (uniform : columns.AreUniform) :
    ofValue columns.toValue = .ok columns := by
  cases uniform with
  | columns columns =>
    rw [toValue_of]
    cases columns with
    | nil => rfl
    | cons c rest =>
      have read := items_map Column.ofValue_toValue (c :: rest)
      rw [List.map_cons] at read ⊢
      unfold Column.toValue at read ⊢
      dsimp only [ofValue]
      rw [read]
      rfl
  | values values plain => rw [toValue_others, ofValue_plain plain]

end Columns

theorem TableSchema.ofDeclared_name (s : TableSchema) : ofDeclared s.name = s := by
  obtain ⟨name, trimmed⟩ := s
  simp [ofDeclared, trimmed]

namespace Change

/-- A change that can be declared by its name, with columns of one kind. -/
def IsDeclarable : Change → Prop
  | .createTable c => c.columns.AreUniform
  | .addColumn c => c.columns.AreUniform
  | .createIndex c =>
    ∃ values, c.columns = .list values ∧ ∀ fields, values.head? ≠ some (.object fields)
  | .sql _ => False
  | _ => True

theorem ofValue_toValue {c : Change} (declarable : c.IsDeclarable) : ofValue c.toValue = .ok c := by
  cases c with
  | createTable c =>
    obtain ⟨table, schema, tablespace, remarks, columns⟩ := c
    have opened : ofValue (createTable ⟨table, schema, tablespace, remarks, columns⟩).toValue = (do
        let columns ← Columns.ofValue columns.toValue
        let schema ← fitting (Value.ofText? schema.name).trimmed?
        return .createTable ⟨table, .ofDeclared schema, tablespace, remarks, columns⟩) := rfl
    rw [opened, Columns.ofValue_toValue declarable, Value.trimmed?_ofText?, schema.trimmed]
    exact congrArg (fun s => Except.ok (createTable ⟨table, s, tablespace, remarks, columns⟩))
      schema.ofDeclared_name
  | addColumn c =>
    obtain ⟨table, schema, columns⟩ := c
    have opened : ofValue (addColumn ⟨table, schema, columns⟩).toValue = (do
        let columns ← Columns.ofValue columns.toValue
        return .addColumn ⟨table, schema, columns⟩) := rfl
    rw [opened, Columns.ofValue_toValue declarable]
    rfl
  | createIndex c =>
    obtain ⟨index, table, columns, unique, schema, tablespace⟩ := c
    obtain ⟨values, rfl, plain⟩ := declarable
    have opened : ofValue (createIndex ⟨index, table, .list values, unique, schema,
        tablespace⟩).toValue = (do
        let columns ← Columns.ofValue (.list values)
        return .createIndex ⟨index, table, columns.toValue, unique, schema, tablespace⟩) := rfl
    rw [opened, Columns.ofValue_plain plain]
    exact congrArg (fun v => Except.ok (createIndex ⟨index, table, v, unique, schema, tablespace⟩))
      (Columns.toValue_others values)
  | dropTable c => rfl
  | renameTable c => rfl
  | dropColumn c => rfl
  | renameColumn c => rfl
  | dropIndex c => rfl
  | sql _ => exact declarable.elim

/-- A change that is read back from its content, and that nothing can tell from the one that was
written: field by field the same, with the same content and checksum, and with the same validation,
statements and inverses everywhere. -/
structure IsReadBack (c d : Change) : Prop where
  read : ofValue c.toValue = .ok d
  fields : d = c
  content : d.toValue = c.toValue
  payload : checksumPayload [d] = checksumPayload [c]
  validated (db : Database) : d.validate db = c.validate db
  compiled (db : Database) (registry : Registry) : d.statements db registry =
    c.statements db registry
  inverses : d.inverses = c.inverses
  undone (db : Database) (registry : Registry) : d.inverseStatements db registry =
    c.inverseStatements db registry

/-- Reading undoes writing for the whole family, and writing undoes reading on every content that a
change of the family has. -/
theorem isReadBack_of_isDeclarable :
    (∀ c : Change, c.IsDeclarable → ∃ d, c.IsReadBack d) ∧
      ∀ v, (∃ c : Change, c.IsDeclarable ∧ c.toValue = v) → (ofValue v).map toValue = .ok v := by
  constructor
  · intro c declarable
    exact ⟨c, ofValue_toValue declarable, rfl, rfl, rfl, fun _ => rfl, fun _ _ => rfl, rfl,
      fun _ _ => rfl⟩
  · rintro v ⟨c, declarable, rfl⟩
    rw [ofValue_toValue declarable]
    rfl

def ledgerTable : Change := .createTable {
  table := .text "ledger"
  schema := .ofDeclared (some " sales ")
  columns := .of [
    { name := .text "id", type := .text "INT",
      constraints := some { primaryKey := .bool true, nullable := .bool false } },
    { name := .text "note", type := .text "VARCHAR(20)", default? := .text "it's" }] }

theorem isReadBack_of_isDeclarable_ledger :
    ledgerTable.IsDeclarable ∧ (∃ d, ledgerTable.IsReadBack d) ∧
      (ofValue ledgerTable.toValue).map toValue = .ok ledgerTable.toValue := by
  have declarable : ledgerTable.IsDeclarable := .columns _
  obtain ⟨readBack, written⟩ := isReadBack_of_isDeclarable
  exact ⟨declarable, readBack _ declarable, written _ ⟨_, declarable, rfl⟩⟩

end Change

end SchemaMigration
