import SchemaMigration.Proofs.Change.Catalog
import SchemaMigration.Proofs.Change.Compilation

/-! Changes that build, and their inverses. What a change that builds compiles to is taken back by
what its inverses compile to, whatever the schema it resolves to and the remarks that the registry
lets through; so the inverses of several changes, the last change first, take a catalog back to
where it was. -/

namespace SchemaMigration

namespace Catalog

variable {s s' : Catalog} {statements : List Statement}

theorem run_of_remarks (s : Catalog) (remarks : ∀ st ∈ statements, st.isRemark = true) :
    s.run statements = some s := by
  induction statements with
  | nil => rfl
  | cons st rest ih =>
    obtain ⟨first, others⟩ := List.forall_mem_cons.mp remarks
    have kept : s.apply st = some s := by
      cases st with
      | tableRemarks => rfl
      | columnRemarks => rfl
      | _ => cases first
    rw [run, kept]
    exact ih others

theorem run_append_remarks {remarks : List Statement} (only : ∀ st ∈ remarks, st.isRemark = true)
    (done : s.run (statements ++ remarks) = some s') : s.run statements = some s' := by
  rw [run_append] at done
  obtain ⟨s₁, first, others⟩ := Option.bind_eq_some_iff.mp done
  rw [run_of_remarks s₁ only] at others
  cases others
  exact first

end Catalog

namespace Change

open Catalog (run_append run_append_remarks run_singleton)

variable {db : Database} {registry : Registry} {s s' : Catalog} {schema table : Name}

theorem requireName_of_requireName {change field : String} {v : Name}
    (given : requireName change field v = .ok ()) (change' field' : String) :
    requireName change' field' v = .ok () := by
  cases v with
  | null => cases given
  | text t =>
    unfold requireName at given ⊢
    dsimp only at given ⊢
    split at given
    next => cases given
    next written => rw [if_neg written]
  | _ => rfl

theorem requireName_of_trimmed? {v : Name} {t : String} (trimmed : v.trimmed? = .ok (some t))
    (change field : String) : requireName change field v = .ok () := by
  cases v with
  | null => cases trimmed
  | text u =>
    rw [Value.trimmed?_text] at trimmed
    rw [requireName, Except.ok.inj trimmed]
    rfl
  | _ => rfl

theorem trimmed?_of_requireName {change field t : String}
    (given : requireName change field (.text t) = .ok ()) :
    ∃ u, (Value.text t).trimmed? = .ok (some u) := by
  rw [requireName] at given
  split at given
  next => cases given
  next written =>
    rw [Value.trimmed?_text]
    cases trimmed : Text.trimmed? t with
    | none => simp [trimmed] at written
    | some u => exact ⟨u, rfl⟩

theorem trimmed?_of_validateColumn {change : String} {column : Column}
    (valid : validateColumn change column = .ok ()) : ∃ t, column.name.trimmed? = .ok (some t) := by
  obtain ⟨name, trimmed, valid⟩ := exists_of_bind_eq_ok valid
  cases name with
  | none => cases valid
  | some t => exact ⟨t, part_eq_ok trimmed⟩

theorem trimmed?_of_validateColumns {change : String} {items : List ColumnItem}
    {columns : List Column}
    (all : items.mapM ColumnItem.column? = .ok columns)
    (valid : validateColumns change items = .ok ()) :
    ∀ column ∈ columns, ∃ t, column.name.trimmed? = .ok (some t) := by
  induction items generalizing columns with
  | nil =>
    cases all
    nofun
  | cons item rest ih =>
    obtain ⟨column, more, first, others, rfl⟩ := mapM_column?_cons_eq_ok all
    obtain ⟨column', declared, valid⟩ := exists_of_bind_eq_ok valid
    obtain ⟨_, valid_first, valid_rest⟩ := exists_of_bind_eq_ok valid
    rw [first] at declared
    cases declared
    exact List.forall_mem_cons.mpr ⟨trimmed?_of_validateColumn valid_first, ih others valid_rest⟩

theorem trimmed?_of_requireColumns {change : String} {columns : Columns} {all : List Column}
    (valid : requireColumns change columns = .ok ()) (found : columns.all = .ok all) :
    ∀ column ∈ all, ∃ t, column.name.trimmed? = .ok (some t) := by
  unfold requireColumns at valid
  split at valid
  next => cases valid
  next =>
    obtain ⟨items, declared, valid_items⟩ := exists_of_bind_eq_ok valid
    unfold Columns.all at found
    rw [part_eq_ok declared] at found
    exact trimmed?_of_validateColumns found valid_items

def IsAdditionOf (schema table : Name) (column : Column) (st : Statement) : Prop :=
  ∃ a, st = .addColumn a ∧ a.schema = schema ∧ a.table = table ∧ a.column = column.name

theorem isAdditionOf_of_columnAddition {column : Column} {st : Statement}
    (compiled : columnAddition db schema table column = .ok st) :
    IsAdditionOf schema table column st := by
  obtain ⟨target, -, compiled⟩ := exists_of_bind_eq_ok compiled
  cases target with
  | some t => cases compiled
  | none =>
    obtain ⟨default?, -, compiled⟩ := exists_of_bind_eq_ok compiled
    obtain ⟨type, -, compiled⟩ := exists_of_bind_eq_ok compiled
    cases compiled
    exact ⟨_, rfl, rfl, rfl, rfl⟩

theorem areAdditionsOf_of_mapM {columns : List Column} {statements : List Statement}
    (compiled : columns.mapM (columnAddition db schema table) = .ok statements) :
    List.Forall₂ (IsAdditionOf schema table) columns statements := by
  induction columns generalizing statements with
  | nil =>
    cases compiled
    exact .nil
  | cons column rest ih =>
    rw [List.mapM_cons] at compiled
    obtain ⟨st, compiled_first, compiled⟩ := exists_of_bind_eq_ok compiled
    obtain ⟨sts, compiled_rest, compiled⟩ := exists_of_bind_eq_ok compiled
    cases compiled
    exact .cons (isAdditionOf_of_columnAddition compiled_first) (ih compiled_rest)

theorem run_dropColumns_of_additions {columns : List Column} {statements : List Statement}
    (additions : List.Forall₂ (IsAdditionOf schema table) columns statements)
    (done : s.run statements = some s') :
    s'.run (columns.reverse.map fun column => .dropColumn schema table column.name) = some s := by
  induction additions generalizing s with
  | nil =>
    cases done
    rfl
  | @cons column st columns statements first others ih =>
    obtain ⟨s₁, added, later⟩ := Option.bind_eq_some_iff.mp done
    obtain ⟨a, rfl, rfl, rfl, column_eq⟩ := first
    rw [List.reverse_cons, List.map_append, run_append, ih later, List.map_singleton, ← column_eq]
    exact (run_singleton s₁ _).trans (Catalog.apply_dropColumn_of_addColumn added)

theorem allStatements_singleton {change : Change} {statements : List Statement}
    (compiled : change.validStatements db registry = .ok statements) :
    allStatements db registry [change] = .ok statements := by
  rw [allStatements, compiled]
  exact congrArg Except.ok (List.append_nil statements)

theorem inverseStatements_of_inverses {change inverse : Change} {statements : List Statement}
    (inverses : change.inverses = .ok [inverse])
    (compiled : inverse.validStatements db registry = .ok statements) :
    change.inverseStatements db registry = .ok statements := by
  unfold inverseStatements
  rw [inverses]
  exact allStatements_singleton compiled

theorem validStatements_dropColumn {c : DropColumn}
    (table_given : requireName "dropColumn" "tableName" c.table = .ok ())
    (column_given : requireName "dropColumn" "columnName" c.column = .ok ()) :
    (Change.dropColumn c).validStatements db registry =
      .ok [.dropColumn ((Change.dropColumn c).resolvedSchema db) c.table c.column] := by
  unfold validStatements validate
  dsimp only [name]
  rw [table_given, column_given]
  rfl

theorem allStatements_dropColumns {columns : List Column} {f : Column → DropColumn}
    (valid : ∀ column ∈ columns, (Change.dropColumn (f column)).validStatements db registry =
      .ok [.dropColumn schema table column.name]) :
    allStatements db registry (columns.map fun column => .dropColumn (f column)) =
      .ok (columns.map fun column => .dropColumn schema table column.name) := by
  induction columns with
  | nil => rfl
  | cons column rest ih =>
    obtain ⟨first, others⟩ := List.forall_mem_cons.mp valid
    rw [List.map_cons, allStatements, first, ih others]
    rfl

/-- The changes that build. What names the table of an index is a text, as it is declared to be. -/
def Builds : Change → Prop
  | .createTable _ | .renameTable _ | .addColumn _ | .renameColumn _ => True
  | .createIndex c => ∃ t, c.table = .text t
  | .dropTable _ | .dropColumn _ | .dropIndex _ | .sql _ => False

def IsReversed (db : Database) (registry : Registry) (change : Change) (s' s : Catalog) : Prop :=
  ∃ statements, change.inverseStatements db registry = .ok statements ∧ s'.run statements = some s

section Reversed

variable {statements : List Statement} (done : s.run statements = some s')

include done

theorem isReversed_createTable {c : CreateTable}
    (compiled : (Change.createTable c).validStatements db registry = .ok statements) :
    IsReversed db registry (.createTable c) s' s := by
  obtain ⟨_, valid, compiled⟩ := exists_of_bind_eq_ok compiled
  obtain ⟨_, given, -⟩ := exists_of_bind_eq_ok valid
  obtain ⟨columns, t, tablespace, -, -, defined, -, compiled_by⟩ :=
    exists_of_statements_createTable compiled
  obtain rfl := Except.ok.inj (compiled.symm.trans (compiled_by registry))
  obtain ⟨schema_eq, table_eq⟩ := place_of_foldlM defined
  have created : s.run [.createTable _] = some s' :=
    run_append_remarks (isRemark_filter (isRemark_declaredRemarks _)) done
  rw [run_singleton] at created
  have dropped := Catalog.apply_dropTable_of_createTable created (.bool false)
  dsimp only at dropped schema_eq table_eq
  rw [schema_eq, table_eq, ← run_singleton] at dropped
  refine ⟨_, inverseStatements_of_inverses rfl ?_, dropped⟩
  unfold validStatements validate
  dsimp only
  rw [requireName_of_requireName given]
  rfl

theorem isReversed_renameTable {c : RenameTable}
    (compiled : (Change.renameTable c).validStatements db registry = .ok statements) :
    IsReversed db registry (.renameTable c) s' s := by
  obtain ⟨_, valid, compiled⟩ := exists_of_bind_eq_ok compiled
  obtain ⟨_, old_given, new_given⟩ := exists_of_bind_eq_ok valid
  cases compiled
  rw [run_singleton] at done
  have renamed := Catalog.apply_renameTable_of_renameTable done
  rw [← run_singleton] at renamed
  refine ⟨_, inverseStatements_of_inverses rfl ?_, renamed⟩
  unfold validStatements validate
  dsimp only
  rw [requireName_of_requireName new_given, requireName_of_requireName old_given]
  rfl

theorem isReversed_addColumn {c : AddColumn}
    (compiled : (Change.addColumn c).validStatements db registry = .ok statements) :
    IsReversed db registry (.addColumn c) s' s := by
  obtain ⟨_, valid, compiled⟩ := exists_of_bind_eq_ok compiled
  obtain ⟨_, given, columns_given⟩ := exists_of_bind_eq_ok valid
  obtain ⟨columns, additions, all, compiled_additions, compiled_by⟩ :=
    exists_of_statements_addColumn compiled
  obtain rfl := Except.ok.inj (compiled.symm.trans (compiled_by registry))
  have added := run_append_remarks (isRemark_filter (isRemark_declaredRemarks _)) done
  have dropped := run_dropColumns_of_additions (areAdditionsOf_of_mapM compiled_additions) added
  refine ⟨_, ?_, dropped⟩
  unfold inverseStatements inverses
  dsimp only
  rw [all]
  apply allStatements_dropColumns
  intro column hcolumn
  apply validStatements_dropColumn
  · exact requireName_of_requireName given _ _
  · obtain ⟨t, trimmed⟩ :=
      trimmed?_of_requireColumns columns_given all column (List.mem_reverse.mp hcolumn)
    exact requireName_of_trimmed? trimmed _ _

theorem isReversed_renameColumn {c : RenameColumn}
    (compiled : (Change.renameColumn c).validStatements db registry = .ok statements) :
    IsReversed db registry (.renameColumn c) s' s := by
  obtain ⟨_, valid, compiled⟩ := exists_of_bind_eq_ok compiled
  obtain ⟨_, given, valid⟩ := exists_of_bind_eq_ok valid
  obtain ⟨_, old_given, new_given⟩ := exists_of_bind_eq_ok valid
  obtain ⟨type, rfl, compiled_back⟩ := statements_renameColumn_eq_ok compiled
  rw [run_singleton] at done
  have renamed := Catalog.apply_renameColumn_of_renameColumn done
  rw [← run_singleton] at renamed
  refine ⟨_, inverseStatements_of_inverses rfl ?_, renamed⟩
  unfold validStatements validate
  dsimp only
  rw [requireName_of_requireName given, requireName_of_requireName new_given,
    requireName_of_requireName old_given]
  exact compiled_back c.newName c.oldName

theorem isReversed_createIndex {c : CreateIndex} (builds : (Change.createIndex c).Builds)
    (compiled : (Change.createIndex c).validStatements db registry = .ok statements) :
    IsReversed db registry (.createIndex c) s' s := by
  obtain ⟨t, table_eq⟩ := builds
  obtain ⟨_, valid, compiled⟩ := exists_of_bind_eq_ok compiled
  obtain ⟨_, given, valid⟩ := exists_of_bind_eq_ok valid
  obtain ⟨_, table_given, -⟩ := exists_of_bind_eq_ok valid
  obtain ⟨columns, -, compiled⟩ := exists_of_bind_eq_ok compiled
  obtain ⟨tablespace, -, compiled⟩ := exists_of_bind_eq_ok compiled
  cases compiled
  rw [run_singleton] at done
  have dropped := Catalog.apply_dropIndex_of_createIndex done
  rw [← run_singleton] at dropped
  refine ⟨_, inverseStatements_of_inverses rfl ?_, dropped⟩
  rw [table_eq] at table_given
  obtain ⟨u, trimmed⟩ := trimmed?_of_requireName table_given
  unfold validStatements validate
  dsimp only
  rw [requireName_of_requireName given, table_eq, trimmed]
  split
  · rfl
  · rfl

end Reversed

theorem isReversed_of_validStatements {change : Change} {statements : List Statement}
    (builds : change.Builds) (compiled : change.validStatements db registry = .ok statements)
    (done : s.run statements = some s') : IsReversed db registry change s' s := by
  cases change with
  | createTable c => exact isReversed_createTable done compiled
  | renameTable c => exact isReversed_renameTable done compiled
  | addColumn c => exact isReversed_addColumn done compiled
  | renameColumn c => exact isReversed_renameColumn done compiled
  | createIndex c => exact isReversed_createIndex done builds compiled
  | dropTable c => cases builds
  | dropColumn c => cases builds
  | dropIndex c => cases builds
  | sql text => cases builds

end Change

namespace Migration

variable {m : Migration}

theorem inverseStatements_append {front rest : List Change} {first others : List Statement}
    (compiled_front : m.inverseStatements front = .ok first)
    (compiled_rest : m.inverseStatements rest = .ok others) :
    m.inverseStatements (front ++ rest) = .ok (first ++ others) := by
  induction front generalizing first with
  | nil =>
    cases compiled_front
    exact compiled_rest
  | cons change front ih =>
    obtain ⟨s, compiled, compiled_front⟩ := exists_of_bind_eq_ok compiled_front
    obtain ⟨more, compiled_more, compiled_front⟩ := exists_of_bind_eq_ok compiled_front
    cases compiled_front
    rw [List.cons_append, inverseStatements, compiled, ih compiled_more, List.append_assoc]
    rfl

theorem inverseStatements_singleton {change : Change} {statements : List Statement}
    (compiled : change.inverseStatements m.database m.registry = .ok statements) :
    m.inverseStatements [change] = .ok statements := by
  rw [inverseStatements, compiled]
  exact congrArg Except.ok (List.append_nil statements)

theorem run_inverseStatements (m : Migration) (changes : List Change) {statements : List Statement}
    {s s' : Catalog} (builds : ∀ change ∈ changes, change.Builds)
    (compiled : Change.allStatements m.database m.registry changes = .ok statements)
    (done : s.run statements = some s') :
    ∃ inverse, m.inverseStatements changes.reverse = .ok inverse ∧ s'.run inverse = some s := by
  induction changes generalizing s statements with
  | nil =>
    cases compiled
    cases done
    exact ⟨[], rfl, rfl⟩
  | cons change rest ih =>
    obtain ⟨builds_first, builds_rest⟩ := List.forall_mem_cons.mp builds
    obtain ⟨first, compiled_first, compiled⟩ := exists_of_bind_eq_ok compiled
    obtain ⟨others, compiled_rest, compiled⟩ := exists_of_bind_eq_ok compiled
    cases compiled
    rw [Catalog.run_append] at done
    obtain ⟨s₁, done_first, done_rest⟩ := Option.bind_eq_some_iff.mp done
    obtain ⟨back, compiled_back, undone⟩ := Change.isReversed_of_validStatements builds_first
      compiled_first done_first
    obtain ⟨back_rest, compiled_back_rest, undone_rest⟩ := ih builds_rest compiled_rest done_rest
    refine ⟨back_rest ++ back, ?_, ?_⟩
    · rw [List.reverse_cons]
      exact inverseStatements_append compiled_back_rest (inverseStatements_singleton compiled_back)
    · rw [Catalog.run_append, undone_rest]
      exact undone

/-- What a changeset that builds does to a catalog is taken back by its rollback. The inverses of
its changes, the last change first, are valid and compile, and the statements that the rollback
renders lead back. -/
theorem restored_of_run (m : Migration) (c : ChangeSet) (s s' : Catalog)
    (statements : List Statement)
    (own : c.rollback = []) (builds : ∀ change ∈ c.changes, change.Builds)
    (compiled : Change.allStatements m.database m.registry c.changes = .ok statements)
    (done : s.run statements = some s') :
    ∃ inverse, m.inverseStatements c.changes.reverse = .ok inverse ∧ s'.run inverse = some s ∧
      m.renderRollback c =
        (m.registry.generateAll m.database inverse).mapError fun e => .change (.render e) := by
  obtain ⟨inverse, compiled_back, undone⟩ := run_inverseStatements m c.changes builds compiled done
  refine ⟨inverse, compiled_back, undone, ?_⟩
  unfold renderRollback
  rw [own, compiled_back]
  rfl

def ordersCatalog : Catalog :=
  (Catalog.empty.addTable ⟨.text "app", .text "orders"⟩ [.text "id", .text "total"] rfl
    (by decide)).addIndex
    ⟨.text "app", .text "by_total"⟩ ⟨.text "orders", [.text "total"]⟩ ⟨_, rfl, by decide⟩

def salesSet : ChangeSet where
  id := .text "1"
  author := .text "alice"
  path := .text "db/changelog.py"
  changes := [
    .renameTable { oldName := .text "orders", newName := .text "sales" },
    .addColumn {
      table := .text "sales"
      schema := .text "app"
      columns := .of [
        { name := .text "customer", type := .text "INT", remarks := .text "who bought" },
        { name := .text "paid", type := .text "BOOLEAN", default? := .bool false }] },
    .renameColumn { table := .text "sales", oldName := .text "total", newName := .text "amount" },
    .createTable {
      table := .text "customers"
      schema := .ofDeclared (some " ")
      columns := .of [{ name := .text "id", type := .text "INT" }] },
    .createIndex {
      index := .text "by_customer"
      table := .text "sales"
      columns := .list [.text "customer", .text "amount"] }]

def salesRun : Migration where
  changeLog := { path := .text "db/changelog.py", changeSets := [salesSet] }
  database := { name := "mysql", style := .of (some .mysql), defaultSchema := .text "app" }
  now := { year := 2024, month := 1, day := 2 }

theorem salesSet_builds : ∀ change ∈ salesSet.changes, change.Builds := by
  simp [salesSet, Change.Builds]

theorem restored_of_run_sales :
    ∃ statements s', Change.allStatements salesRun.database salesRun.registry salesSet.changes =
      .ok statements ∧
      ordersCatalog.run statements = some s' ∧
      ∃ inverse, salesRun.inverseStatements salesSet.changes.reverse = .ok inverse ∧
        s'.run inverse = some ordersCatalog := by
  have runs :
    ((Change.allStatements salesRun.database salesRun.registry salesSet.changes).toOption.bind
      ordersCatalog.run).isSome = true := by
    decide +kernel
  cases compiled : Change.allStatements salesRun.database salesRun.registry salesSet.changes with
  | error e =>
    rw [compiled] at runs
    cases runs
  | ok statements =>
    rw [compiled] at runs
    obtain ⟨s', done⟩ := Option.isSome_iff_exists.mp runs
    obtain ⟨inverse, compiled_back, undone, -⟩ :=
      restored_of_run salesRun salesSet ordersCatalog s' statements rfl
        salesSet_builds compiled done
    exact ⟨statements, s', rfl, done, inverse, compiled_back, undone⟩

end Migration

end SchemaMigration
