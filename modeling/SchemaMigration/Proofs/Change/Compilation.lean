import SchemaMigration.Proofs.Change.Confirmation

namespace SchemaMigration

def Value.remark? : Value → Option String
  | .text s => Text.trimmed? s
  | _ => none

def Statement.isRemark : Statement → Bool
  | .tableRemarks .. | .columnRemarks .. => true
  | _ => false

theorem TableDefinition.foldl_addConstraint (constraints : List ColumnConstraint)
    (t : TableDefinition) :
    constraints.foldl addConstraint t = { t with constraints := t.constraints ++ constraints } := by
  induction constraints generalizing t with
  | nil => rw [List.append_nil]; rfl
  | cons k rest ih =>
    rw [List.foldl_cons, ih]
    simp [addConstraint]

namespace Change

variable {db : Database} {schema table : Name} {columns : List Column}

theorem mapM_column?_cons_eq_ok {item : ColumnItem} {rest : List ColumnItem} {columns : List Column}
    (all : (item :: rest).mapM ColumnItem.column? = .ok columns) :
    ∃ column more, item.column? = .ok column ∧ rest.mapM ColumnItem.column? = .ok more ∧
      columns = column :: more := by
  rw [List.mapM_cons] at all
  obtain ⟨column, first, all⟩ := exists_of_bind_eq_ok all
  obtain ⟨more, others, all⟩ := exists_of_bind_eq_ok all
  cases all
  exact ⟨column, more, first, others, rfl⟩

theorem defineColumns_eq_foldlM {items : List ColumnItem}
    (all : items.mapM ColumnItem.column? = .ok columns)
    (t : TableDefinition) : defineColumns db t items = columns.foldlM (defineColumn db) t := by
  induction items generalizing columns t with
  | nil =>
    cases all
    rfl
  | cons item rest ih =>
    obtain ⟨column, more, first, others, rfl⟩ := mapM_column?_cons_eq_ok all
    rw [defineColumns, first, List.foldlM_cons]
    exact congrArg (defineColumn db t column >>= ·) (funext fun t₁ => ih others t₁)

theorem columnAdditions_eq_mapM {items : List ColumnItem}
    (all : items.mapM ColumnItem.column? = .ok columns) :
    columnAdditions db schema table items = columns.mapM (columnAddition db schema table) := by
  induction items generalizing columns with
  | nil =>
    cases all
    rfl
  | cons item rest ih =>
    obtain ⟨column, more, first, others, rfl⟩ := mapM_column?_cons_eq_ok all
    rw [columnAdditions, first, ih others, List.mapM_cons]
    rfl

theorem exists_of_defineColumn {t t' : TableDefinition} {c : Column}
    (defined : defineColumn db t c = .ok t') :
    ∃ type default? constraints, columnType db c.type c.isGenerated = .ok type ∧
      part (c.defaultText db) = .ok default? ∧ columnConstraints c = .ok constraints ∧
      t' = constraints.foldl TableDefinition.addConstraint
        (if c.isKey then t.addKeyColumn c.name (.text type) (.ofText? default?)
          ((c.constraints.map (·.primaryKeyName)).getD .null)
        else t.addColumn c.name (.text type) (.ofText? default?)) := by
  obtain ⟨type, typed, defined⟩ := exists_of_bind_eq_ok defined
  obtain ⟨default?, written, defined⟩ := exists_of_bind_eq_ok defined
  cases isKey : c.name.isKey with
  | false => simp [isKey] at defined; cases defined
  | true =>
    simp only [isKey] at defined
    obtain ⟨constraints, constrained, defined⟩ := exists_of_bind_eq_ok defined
    cases defined
    exact ⟨type, default?, constraints, typed, written, constrained, rfl⟩

theorem place_of_defineColumn {t t' : TableDefinition} {c : Column}
    (defined : defineColumn db t c = .ok t') :
    t'.schema = t.schema ∧ t'.table = t.table := by
  obtain ⟨type, default?, constraints, -, -, -, rfl⟩ := exists_of_defineColumn defined
  rw [TableDefinition.foldl_addConstraint]
  cases c.isKey <;> exact ⟨rfl, rfl⟩

theorem foldlM_defineColumn_induction {P : TableDefinition → Prop}
    {t t' : TableDefinition} (start : P t)
    (kept : ∀ c ∈ columns, ∀ before after, P before → defineColumn db before c =
      .ok after → P after)
    (defined : columns.foldlM (defineColumn db) t = .ok t') : P t' := by
  induction columns generalizing t with
  | nil =>
    cases defined
    exact start
  | cons c rest ih =>
    obtain ⟨t₁, first, others⟩ := exists_of_bind_eq_ok defined
    obtain ⟨kept_first, kept_others⟩ := List.forall_mem_cons.mp kept
    exact ih (kept_first t t₁ start first) kept_others others

theorem place_of_foldlM {t t' : TableDefinition}
    (defined : columns.foldlM (defineColumn db) t = .ok t') :
    t'.schema = t.schema ∧ t'.table = t.table := by
  refine foldlM_defineColumn_induction (P := fun u => u.schema = t.schema ∧ u.table = t.table)
    ⟨rfl, rfl⟩ ?_ defined
  intro c _ before after placed defined
  obtain ⟨schema_eq, table_eq⟩ := place_of_defineColumn defined
  exact ⟨schema_eq.trans placed.1, table_eq.trans placed.2⟩

theorem isRemark_filter {statements : List Statement} {keep : Statement → Bool}
    (remarks : ∀ st ∈ statements, st.isRemark = true) :
    ∀ st ∈ statements.filter keep, st.isRemark = true :=
  fun st hst => remarks st (List.mem_filter.mp hst).1

def remarksOnColumns (schema table : Name) (columns : List Column) : List Statement :=
  columns.filterMap fun c => c.remarks.remark?.map fun s =>
    .columnRemarks schema table c.name (.text s)

/-- The remarks that a change declares: that on a new table, then those on columns. -/
def declaredRemarks (db : Database) (change : Change) : List Statement :=
  match change with
  | .createTable c =>
    (c.remarks.remark?.map fun s => Statement.tableRemarks (change.resolvedSchema db) c.table
      (.text s)).toList ++
      remarksOnColumns (change.resolvedSchema db) c.table (c.columns.all.toOption.getD [])
  | .addColumn c =>
    remarksOnColumns (change.resolvedSchema db) c.table (c.columns.all.toOption.getD [])
  | _ => []

theorem remark?_of_trimmed? {v : Value} {text? : Option String}
    (trimmed : part v.trimmed? = .ok text?) :
    v.remark? = text? := by
  cases v with
  | null => exact Except.ok.inj trimmed
  | text s => exact Except.ok.inj trimmed
  | _ => cases trimmed

theorem tableRemarks_eq_ok {remarks : Value} {statements : List Statement}
    (compiled : tableRemarks schema table remarks = .ok statements) :
    statements = (remarks.remark?.map fun s => Statement.tableRemarks schema table
      (.text s)).toList := by
  unfold tableRemarks at compiled
  cases trimmed : part remarks.trimmed? with
  | error e =>
    rw [trimmed] at compiled
    cases compiled
  | ok text? =>
    rw [trimmed] at compiled
    rw [remark?_of_trimmed? trimmed]
    cases text? with
    | none => exact (Except.ok.inj compiled).symm
    | some text => exact (Except.ok.inj compiled).symm

theorem columnRemarks_eq_ok {items : List ColumnItem} {statements : List Statement}
    (compiled : columnRemarks schema table items = .ok statements) :
    ∃ columns, items.mapM ColumnItem.column? = .ok columns ∧
      (∀ c ∈ columns, ∃ text?, c.remarks.trimmed? = .ok text?) ∧
      statements = remarksOnColumns schema table columns := by
  induction items generalizing statements with
  | nil =>
    cases compiled
    exact ⟨[], rfl, nofun, rfl⟩
  | cons item rest ih =>
    obtain ⟨column, declared, compiled⟩ := exists_of_bind_eq_ok compiled
    obtain ⟨text?, trimmed, compiled⟩ := exists_of_bind_eq_ok compiled
    obtain ⟨more, compiled_rest, compiled⟩ := exists_of_bind_eq_ok compiled
    cases compiled
    obtain ⟨others, all, others_trimmed, rfl⟩ := ih compiled_rest
    refine ⟨column :: others, ?_, List.forall_mem_cons.mpr
      ⟨⟨text?, part_eq_ok trimmed⟩, others_trimmed⟩, ?_⟩
    · rw [List.mapM_cons, part_eq_ok declared, all]
      rfl
    · unfold remarksOnColumns
      rw [List.filterMap_cons, remark?_of_trimmed? trimmed]
      cases text? <;> rfl

theorem isRemark_declaredRemarks (change : Change) :
    ∀ st ∈ change.declaredRemarks db, st.isRemark = true := by
  have on_columns (schema table : Name) (columns : List Column) :
      ∀ st ∈ remarksOnColumns schema table columns, st.isRemark = true := by
    intro st hst
    obtain ⟨c, -, declared⟩ := List.mem_filterMap.mp hst
    obtain ⟨_, -, rfl⟩ := Option.map_eq_some_iff.mp declared
    rfl
  cases change with
  | createTable c =>
    refine List.forall_mem_append.mpr ⟨fun st hst => ?_, on_columns _ _ _⟩
    obtain ⟨_, -, rfl⟩ := Option.map_eq_some_iff.mp (Option.mem_toList.mp hst)
    rfl
  | addColumn c => exact on_columns _ _ _
  | _ => nofun

theorem exists_of_statements_createTable {registry : Registry} {c : CreateTable}
    {statements : List Statement}
    (compiled : (Change.createTable c).statements db registry = .ok statements) :
    ∃ columns t tablespace, c.columns.all = .ok columns ∧
      (∀ column ∈ columns, ∃ text?, column.remarks.trimmed? = .ok text?) ∧
      columns.foldlM (defineColumn db)
        { schema := (Change.createTable c).resolvedSchema db, table := c.table } =
        .ok t ∧
      c.tablespace.trimmed? = .ok tablespace ∧
      ∀ r : Registry, (Change.createTable c).statements db r =
        .ok (.createTable { t with tablespace := .ofText? tablespace } ::
          ((Change.createTable c).declaredRemarks db).filter (r.supports db)) := by
  obtain ⟨items, listed, compiled⟩ := exists_of_bind_eq_ok compiled
  obtain ⟨t, defined, compiled⟩ := exists_of_bind_eq_ok compiled
  obtain ⟨tablespace, stored, compiled⟩ := exists_of_bind_eq_ok compiled
  obtain ⟨onTable, table_remarked, compiled⟩ := exists_of_bind_eq_ok compiled
  obtain ⟨onColumns, columns_remarked, -⟩ := exists_of_bind_eq_ok compiled
  obtain ⟨columns, all, trimmed, columns_eq⟩ := columnRemarks_eq_ok columns_remarked
  have declared : c.columns.all = .ok columns := bind_eq_ok_iff.mpr ⟨items, part_eq_ok listed, all⟩
  have remarks_eq : (Change.createTable c).declaredRemarks db = onTable ++ onColumns := by
    rw [declaredRemarks, declared, tableRemarks_eq_ok table_remarked, columns_eq]
    rfl
  refine ⟨columns, t, tablespace, declared, trimmed,
    (defineColumns_eq_foldlM all _).symm.trans defined, part_eq_ok stored, fun r => ?_⟩
  rw [remarks_eq]
  simp only [Change.statements, bind_eq_ok_iff]
  exact ⟨items, listed, t, defined, tablespace, stored, onTable, table_remarked, onColumns,
    columns_remarked, rfl⟩

theorem exists_of_statements_addColumn {registry : Registry} {c : AddColumn}
    {statements : List Statement}
    (compiled : (Change.addColumn c).statements db registry = .ok statements) :
    ∃ columns additions, c.columns.all = .ok columns ∧
      columns.mapM (columnAddition db ((Change.addColumn c).resolvedSchema db) c.table) =
        .ok additions ∧
      ∀ r : Registry, (Change.addColumn c).statements db r =
        .ok (additions ++ ((Change.addColumn c).declaredRemarks db).filter (r.supports db)) := by
  obtain ⟨items, listed, compiled⟩ := exists_of_bind_eq_ok compiled
  obtain ⟨additions, added, compiled⟩ := exists_of_bind_eq_ok compiled
  obtain ⟨onColumns, remarked, -⟩ := exists_of_bind_eq_ok compiled
  obtain ⟨columns, all, -, columns_eq⟩ := columnRemarks_eq_ok remarked
  have declared : c.columns.all = .ok columns := bind_eq_ok_iff.mpr ⟨items, part_eq_ok listed, all⟩
  have remarks_eq : (Change.addColumn c).declaredRemarks db = onColumns := by
    rw [declaredRemarks, declared, columns_eq]
    rfl
  refine ⟨columns, additions, declared, (columnAdditions_eq_mapM all).symm.trans added, fun r => ?_⟩
  rw [remarks_eq]
  simp only [Change.statements, bind_eq_ok_iff]
  exact ⟨items, listed, additions, added, onColumns, remarked, rfl⟩

theorem statements_renameColumn_eq_ok {registry : Registry} {c : RenameColumn}
    {statements : List Statement}
    (compiled : (Change.renameColumn c).statements db registry = .ok statements) :
    ∃ type, statements = [.renameColumn ((Change.renameColumn c).resolvedSchema db)
      c.table c.oldName
        c.newName type] ∧
      ∀ old new, (Change.renameColumn { c with oldName := old, newName := new }).statements db
        registry =
        .ok [.renameColumn ((Change.renameColumn c).resolvedSchema db) c.table old new type] := by
  unfold Change.statements at compiled ⊢
  dsimp only at compiled ⊢
  split at compiled
  next typed =>
    obtain ⟨type, resolved, compiled⟩ := exists_of_bind_eq_ok compiled
    cases compiled
    refine ⟨type, rfl, fun old new => ?_⟩
    rw [if_pos typed, resolved]
    rfl
  next untyped =>
    cases compiled
    refine ⟨.null, rfl, fun old new => ?_⟩
    rw [if_neg untyped]
    rfl

end Change

end SchemaMigration
