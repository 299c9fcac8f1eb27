import SchemaMigration.Proofs.Table.Body

/-! Columns that are added to a table. A column is compiled and written in one way when it comes
with a new table and in another when an existing table gets it, and both say the same of it; only
that it is unique stands with a column that is added, and in a clause of its own in a new table. -/

namespace SchemaMigration

namespace Column

def addition (db : Database) (schema table : Name) (c : Column) : ColumnAddition where
  schema
  table
  column := c.name
  type := .text (c.storedType db)
  default? := .ofText? (c.sqlDefault db)
  nullable := .bool (!c.isNotNull)
  primaryKey := .bool c.isKey
  unique := .bool c.isUnique
  generated := .bool c.isGenerated

end Column

namespace Change

variable {db : Database} {registry : Registry} {schema table : Name}
  {columns : List Column} {c : Column}

theorem columnAddition_eq_ok {st : Statement}
    (compiled : columnAddition db schema table c = .ok st) :
    st = .addColumn (c.addition db schema table) := by
  obtain ⟨target, -, compiled⟩ := exists_of_bind_eq_ok compiled
  cases target with
  | some t => cases compiled
  | none =>
    obtain ⟨default?, written, compiled⟩ := exists_of_bind_eq_ok compiled
    obtain ⟨type, typed, compiled⟩ := exists_of_bind_eq_ok compiled
    cases compiled
    rw [← storedType_of_columnType typed, ← sqlDefault_of_defaultText written]
    rfl

theorem additions_eq_of_mapM {additions : List Statement}
    (compiled : columns.mapM (columnAddition db schema table) = .ok additions) :
    additions = columns.map fun c => .addColumn (c.addition db schema table) := by
  induction columns generalizing additions with
  | nil =>
    cases compiled
    rfl
  | cons c rest ih =>
    rw [List.mapM_cons] at compiled
    obtain ⟨st, compiled_first, compiled⟩ := exists_of_bind_eq_ok compiled
    obtain ⟨sts, compiled_rest, compiled⟩ := exists_of_bind_eq_ok compiled
    cases compiled
    rw [columnAddition_eq_ok compiled_first, ih compiled_rest, List.map_cons]

theorem getElem?_statements_addColumn {a : AddColumn} {statements : List Statement}
    (declared : a.columns.all = .ok columns)
    (compiled : (Change.addColumn a).statements db registry = .ok statements)
    {j : Nat} (at_j : columns[j]? = some c) :
    statements[j]? =
      some (.addColumn (c.addition db ((Change.addColumn a).resolvedSchema db) a.table)) := by
  obtain ⟨columns', additions, declared', added, compiled_by⟩ :=
    exists_of_statements_addColumn compiled
  obtain rfl := Except.ok.inj (declared.symm.trans declared')
  obtain rfl := Except.ok.inj (compiled.symm.trans (compiled_by registry))
  have in_range : j < columns.length := (List.getElem?_eq_some_iff.mp at_j).1
  rw [additions_eq_of_mapM added, List.getElem?_append_left (by simpa using in_range),
    List.getElem?_map, at_j]
  rfl

theorem exists_columnAddition {t t' : TableDefinition} (defined : defineColumn db t c = .ok t')
    (no_target : c.references = .ok none) (schema table : Name) :
    ∃ st, columnAddition db schema table c = .ok st := by
  obtain ⟨type, default?, -, typed, written, -, -⟩ := exists_of_defineColumn defined
  unfold columnAddition
  rw [no_target, written, typed]
  exact ⟨_, rfl⟩

theorem columns_of_defineColumn {t t' : TableDefinition} (defined : defineColumn db t c = .ok t') :
    t'.columns = t.columns ++ [c.name] ∧ t'.strange = t.strange := by
  obtain ⟨type, default?, constraints, -, -, -, rfl⟩ := exists_of_defineColumn defined
  rw [TableDefinition.foldl_addConstraint]
  cases c.isKey <;> exact ⟨rfl, rfl⟩

theorem columns_of_foldlM {t t' : TableDefinition}
    (defined : columns.foldlM (defineColumn db) t = .ok t') :
    t'.columns = t.columns ++ columns.map Column.name ∧ t'.strange = t.strange ∧
      ∀ c ∈ columns, ∃ before after, defineColumn db before c = .ok after := by
  induction columns generalizing t with
  | nil =>
    cases defined
    simp
  | cons c rest ih =>
    obtain ⟨t₁, defined_first, defined_rest⟩ := exists_of_bind_eq_ok defined
    obtain ⟨columns_eq, strange_eq⟩ := columns_of_defineColumn defined_first
    obtain ⟨columns_eq', strange_eq', compiled⟩ := ih defined_rest
    refine ⟨?_, strange_eq'.trans strange_eq,
      List.forall_mem_cons.mpr ⟨⟨t, t₁, defined_first⟩, compiled⟩⟩
    rw [columns_eq', columns_eq, List.append_assoc]
    rfl

end Change

namespace Rendering

variable {db : Database} {schema table : Name} {c : Column}

theorem join_additionClauses (plain : c.isKey = false) :
    Text.join " " ([db.quote c.name.display, c.storedType db] ++
      additionClauses (c.addition db schema table) db) =
      c.definition db false ++ if c.isUnique then " UNIQUE" else "" := by
  have default_eq : defaultClause (.ofText? (c.sqlDefault db)) c.isGenerated =
      c.defaultClauses db := by
    unfold defaultClause Column.defaultClauses
    cases c.isGenerated <;> cases c.sqlDefault db <;> rfl
  have clauses : additionClauses (c.addition db schema table) db =
      c.generationClauses db false ++ c.defaultClauses db ++ c.notNullClauses ++
        if c.isUnique then ["UNIQUE"] else [] := by
    unfold additionClauses
    simp only [Column.addition, Value.isTrue_bool, default_eq, plain, Column.generationClauses,
      Column.notNullClauses, Bool.not_not, Bool.or_false, Bool.false_eq_true, if_false]
  rw [clauses, ← List.append_assoc, ← List.append_assoc, ← List.append_assoc]
  unfold Column.definition
  cases c.isUnique with
  | false => simp
  | true =>
    rw [if_pos rfl, if_pos rfl, Text.join,
      String.intercalate_append_of_ne_nil (by simp) (List.cons_ne_nil "UNIQUE" []),
        String.intercalate_singleton, String.append_assoc]
    rfl

theorem addColumn_addition_eq_ok_iff (plain : c.isKey = false) {sql : List String} :
    addColumn (c.addition db schema table) db = .ok sql ↔
      (∃ s, c.name = .text s) ∧ ∃ place, db.qualifyName schema table = .ok place ∧
        sql = ["ALTER TABLE " ++ place ++ " ADD " ++
          (c.definition db false ++ if c.isUnique then " UNIQUE" else "")] := by
  have words : Text.join " " ([db.quote c.name.display, c.storedType db] ++
      additionClauses (c.addition db schema table) db) = _ := join_additionClauses plain
  rw [← words]
  unfold addColumn
  simp only [bind_eq_ok_iff, quoted_eq_ok_iff, qualified, part_eq_ok_iff, pure_eq_ok_iff,
    Column.addition]
  constructor
  · rintro ⟨_, ⟨named, rfl⟩, place, qualified, _, typed, rfl⟩
    cases typed
    exact ⟨named, place, qualified, rfl⟩
  · rintro ⟨named, place, qualified, rfl⟩
    exact ⟨_, ⟨named, rfl⟩, place, qualified, _, rfl, rfl⟩

theorem names_of_columnDefinitions {t : TableDefinition} {inlineKey : Option Name}
    {names : List Name}
    {definitions : List String}
    (defined : columnDefinitions t db inlineKey names = .ok definitions) :
    ∀ name ∈ names, ∃ s, name = .text s := by
  induction names generalizing definitions with
  | nil => nofun
  | cons name rest ih =>
    obtain ⟨definition, first, defined⟩ := exists_of_bind_eq_ok defined
    obtain ⟨more, others, -⟩ := exists_of_bind_eq_ok defined
    obtain ⟨type, -, first⟩ := exists_of_bind_eq_ok first
    obtain ⟨written, named, -⟩ := exists_of_bind_eq_ok first
    exact List.forall_mem_cons.mpr ⟨(quoted_eq_ok_iff.mp named).1, ih others⟩

end Rendering

namespace Change

open TableDefinition (ofColumns)

variable {db : Database} {registry : Registry} {columns : List Column} {c : Column}

theorem names_of_generate {create : CreateTable} {st : Statement} {rest : List Statement}
    {sql : List String}
    (declared : create.columns.all = .ok columns)
    (compiled : (Change.createTable create).statements db registry = .ok (st :: rest))
    (rendered : Registry.bundled.generate db st = .ok sql) :
    ∀ c ∈ columns, ∃ s, c.name = .text s := by
  obtain ⟨columns', t, tablespace, declared', -, defined, -, compiled_by⟩ :=
    exists_of_statements_createTable compiled
  obtain rfl := Except.ok.inj (declared.symm.trans declared')
  obtain ⟨rfl, -⟩ := List.cons.inj (Except.ok.inj (compiled.symm.trans (compiled_by registry)))
  obtain ⟨columns_eq, strange_eq, -⟩ := columns_of_foldlM defined
  rw [Registry.generate_bundled List.mem_cons_self] at rendered
  obtain ⟨body, written, -⟩ := exists_of_bind_eq_ok rendered
  obtain ⟨inlineKey, -, written⟩ := exists_of_bind_eq_ok written
  obtain ⟨names, named, written⟩ := exists_of_bind_eq_ok written
  obtain ⟨definitions, written, -⟩ := exists_of_bind_eq_ok written
  have names_eq : names = columns.map Column.name := by
    rw [Rendering.part_eq_ok_iff, TableDefinition.columnNames, strange_eq] at named
    exact (Except.ok.inj named).symm.trans columns_eq
  rw [names_eq] at written
  exact fun c hc => Rendering.names_of_columnDefinitions written c.name (List.mem_map_of_mem hc)

theorem exists_statements_addColumn {create : CreateTable} {statements : List Statement}
    (declared : create.columns.all = .ok columns)
    (compiled : (Change.createTable create).statements db registry = .ok statements)
    (hc : c ∈ columns)
    (no_target : c.references = .ok none) (registry' : Registry) {add : AddColumn}
    (alone : add.columns = .of [c]) :
    ∃ additions, (Change.addColumn add).statements db registry' = .ok additions := by
  obtain ⟨columns', t, tablespace, declared', trimmed, defined, -, -⟩ :=
    exists_of_statements_createTable compiled
  obtain rfl := Except.ok.inj (declared.symm.trans declared')
  obtain ⟨-, -, each⟩ := columns_of_foldlM defined
  obtain ⟨before, after, defined_c⟩ := each c hc
  obtain ⟨remarks, trimmed⟩ := trimmed c hc
  obtain ⟨st, added⟩ :=
    exists_columnAddition defined_c no_target ((Change.addColumn add).resolvedSchema db) add.table
  have additions : columnAdditions db ((Change.addColumn add).resolvedSchema db) add.table
      [.column c] = .ok [st] :=
    bind_eq_ok_iff.mpr ⟨c, rfl, bind_eq_ok_iff.mpr ⟨st, added, rfl⟩⟩
  have on_column : columnRemarks ((Change.addColumn add).resolvedSchema db) add.table [.column c] =
      .ok _ :=
    bind_eq_ok_iff.mpr ⟨c, rfl, bind_eq_ok_iff.mpr ⟨remarks, by rw [trimmed]; rfl, rfl⟩⟩
  have items : part add.columns.items = .ok [.column c] := by rw [alone]; rfl
  exact ⟨_, bind_eq_ok_iff.mpr ⟨_, items,
    bind_eq_ok_iff.mpr ⟨_, additions, bind_eq_ok_iff.mpr ⟨_, on_column, rfl⟩⟩⟩⟩

theorem getElem?_tableClauses_of_plain {i : Nat} (at_i : columns[i]? = some c)
    (plain : c.isKey = false) :
    (tableClauses db columns)[i]? = some (c.definition db false) := by
  have in_range : i < columns.length := (List.getElem?_eq_some_iff.mp at_i).1
  rw [tableClauses, List.append_assoc, List.getElem?_append_left (by simpa using in_range),
    List.getElem?_map, at_i, Option.map_some, plain, Bool.false_and]

theorem generate_addColumn_eq_ok_iff {add : AddColumn} {additions : List Statement} {j : Nat}
    (declared : add.columns.all = .ok columns)
    (compiled : (Change.addColumn add).statements db registry = .ok additions)
    (at_j : columns[j]? = some c)
    (named : ∃ s, c.name = .text s) (plain : c.isKey = false) :
    ∃ addition, additions[j]? = some addition ∧ ∀ sql,
      Registry.bundled.generate db addition = .ok sql ↔
      ∃ place, db.qualifyName ((Change.addColumn add).resolvedSchema db) add.table = .ok place ∧
        sql = ["ALTER TABLE " ++ place ++ " ADD " ++
          (c.definition db false ++ if c.isUnique then " UNIQUE" else "")] := by
  refine ⟨_, getElem?_statements_addColumn declared compiled at_j, fun sql => ?_⟩
  have common : Statement.Kind.addColumn ∈ Registry.commonKinds := by decide
  rw [Registry.generate_bundled (show (Statement.addColumn _).kind ∈ _ from common)]
  exact (Rendering.addColumn_addition_eq_ok_iff plain).trans (and_iff_right named)

/-- A column that is no key and refers to nothing is defined in the same words in a new table and
where it is added to another one, but for the mark of a unique column. It can be added wherever a
new table can be compiled with it. -/
theorem generate_addColumn_of_createTable {create : CreateTable} {st : Statement}
    {rest : List Statement}
    {sql : List String} {i : Nat} (declared : create.columns.all = .ok columns)
    (distinct : (columns.map Column.name).Nodup)
    (compiled : (Change.createTable create).statements db registry = .ok (st :: rest))
    (rendered : Registry.bundled.generate db st = .ok sql) (at_i : columns[i]? = some c)
    (plain : c.isKey = false)
    (no_target : c.references = .ok none) :
    ∃ place storage,
      sql = ["CREATE TABLE " ++ place ++ " (" ++ Text.join ", " (tableClauses db columns) ++
        ")" ++ storage] ∧
      (tableClauses db columns)[i]? = some (c.definition db false) ∧
      (∀ (add : AddColumn) (registry' : Registry), add.columns = .of [c] →
        ∃ additions, (Change.addColumn add).statements db registry' = .ok additions) ∧
      ∀ (add : AddColumn) (registry' : Registry) (others : List Column)
        (additions : List Statement) (j : Nat),
        add.columns.all = .ok others → others[j]? = some c →
        (Change.addColumn add).statements db registry' = .ok additions →
        ∃ addition, additions[j]? = some addition ∧ ∀ sql',
          Registry.bundled.generate db addition = .ok sql' ↔
          ∃ place', db.qualifyName ((Change.addColumn add).resolvedSchema db) add.table =
            .ok place' ∧
            sql' = ["ALTER TABLE " ++ place' ++ " ADD " ++
              (c.definition db false ++ if c.isUnique then " UNIQUE" else "")] := by
  have names := names_of_generate declared compiled rendered
  have hc : c ∈ columns := List.mem_of_getElem? at_i
  obtain ⟨tablespace, remarks, -, compiled_eq, -, named⟩ :=
    statements_createTable declared names distinct compiled
  obtain ⟨rfl, rfl⟩ := List.cons.inj compiled_eq
  obtain ⟨-, place, -, sql_eq⟩ := (Registry.generate_ofColumns_eq_ok_iff named distinct).mp rendered
  refine ⟨place, _, sql_eq, getElem?_tableClauses_of_plain at_i plain,
    fun add registry' alone => ?_, ?_⟩
  · exact exists_statements_addColumn declared compiled hc no_target registry' alone
  · intro add registry' others additions j declared' at_j compiled'
    exact generate_addColumn_eq_ok_iff declared' compiled' at_j (names c hc) plain

def archivedGoods : AddColumn where
  table := .text "archive"
  columns :=
    .of [{ name := .text "note", type := .text "CLOB", remarks := .text "free text" },
      orderLineColumns[2]]

def orderLinesText : String :=
  "CREATE TABLE sales.lines (order_id NUMBER(38,0) GENERATED BY DEFAULT AS IDENTITY NOT NULL, " ++
    "line INTEGER DEFAULT 1 NOT NULL, sku NVARCHAR2(20) DEFAULT 'none' NOT NULL, " ++
    "\"Customer\" INTEGER, " ++
    "CONSTRAINT pk_lines PRIMARY KEY (order_id, line), CONSTRAINT uq_sku UNIQUE (sku), " ++
    "CONSTRAINT fk_customer FOREIGN KEY (\"Customer\") REFERENCES customers(id) " ++
    "ON DELETE CASCADE, " ++
    "UNIQUE (\"Customer\"))"

theorem generate_addColumn_of_createTable_goods :
    ∃ st, (Change.createTable orderLines).statements (warehouse .oracle) .bundled = .ok [st] ∧
      Registry.bundled.generate (warehouse .oracle) st = .ok [orderLinesText] ∧
      (tableClauses (warehouse .oracle) orderLineColumns)[2]? =
        some "sku NVARCHAR2(20) DEFAULT 'none' NOT NULL" ∧
      ∃ note goods, (Change.addColumn archivedGoods).statements (warehouse .oracle) .empty =
        .ok [note, goods] ∧
        Registry.bundled.generate (warehouse .oracle) goods =
          .ok ["ALTER TABLE archive ADD sku NVARCHAR2(20) DEFAULT 'none' NOT NULL UNIQUE"] := by
  have compiled : (Change.createTable orderLines).statements (warehouse .oracle) .bundled =
      .ok [.createTable (.ofColumns (warehouse .oracle) (.text "sales")
        (.text "lines") orderLineColumns)] := rfl
  have rendered : Registry.bundled.generate (warehouse .oracle)
      (.createTable (.ofColumns (warehouse .oracle) (.text "sales")
        (.text "lines") orderLineColumns)) =
        .ok [orderLinesText] := by decide +kernel
  have at_two : orderLineColumns[2]? = some orderLineColumns[2] := rfl
  obtain ⟨_, _, -, defined, -, added⟩ :=
    generate_addColumn_of_createTable rfl (by decide +kernel) compiled rendered at_two rfl rfl
  have definition : orderLineColumns[2].definition (warehouse .oracle) false =
      "sku NVARCHAR2(20) DEFAULT 'none' NOT NULL" := by decide +kernel
  rw [definition] at defined added
  have compiled' : (Change.addColumn archivedGoods).statements (warehouse .oracle) .empty =
    .ok [_, _] := rfl
  obtain ⟨goods, at_one, written⟩ := added archivedGoods .empty _ _ 1 rfl rfl compiled'
  cases at_one
  exact ⟨_, compiled, rendered, defined, _, _, compiled',
    (written _).mpr ⟨"archive", by decide +kernel, rfl⟩⟩

end Change

end SchemaMigration
