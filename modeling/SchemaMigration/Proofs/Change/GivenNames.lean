import SchemaMigration.Proofs.Change.Remarks

/-! Names of what statements work on. A change that is valid has all its names, and so have the
statements that it is compiled to and those of its inverses, save for one list that validation only
looks at the length of: the columns of an index. -/

namespace SchemaMigration

def Value.isGiven : Value → Bool
  | .text s => Text.trim s != ""
  | _ => false

def ColumnConstraint.names : ColumnConstraint → List Name
  | .notNull column => [column]
  | .foreignKey key => [key.name, key.column]
  | .unique _ columns => columns
  | .generated column => [column]

def TableDefinition.names (t : TableDefinition) : List Name :=
  t.table :: (t.columns ++ t.types.map Prod.fst ++ t.defaults.map Prod.fst ++ t.keyColumns ++
    t.constraints.flatMap ColumnConstraint.names)

/-- The names of tables, columns, indexes and foreign keys that a statement works on. The table of
an index that is dropped is one of them where indexes belong to tables. -/
def Statement.names (db : Database) : Statement → List Name
  | .createTable t => t.names
  | .dropTable _ table _ => [table]
  | .renameTable _ table newName => [table, newName]
  | .addColumn a => [a.table, a.column]
  | .dropColumn _ table column => [table, column]
  | .renameColumn _ table column newName _ => [table, column, newName]
  | .createIndex i => i.table :: i.index :: i.columns
  | .dropIndex _ table index =>
    match db.dialect? with
    | some .mysql | some .mariadb | some .mssql => [table, index]
    | _ => [index]
  | .tableRemarks _ table _ => [table]
  | .columnRemarks _ table column _ => [table, column]
  | .sql _ => []

/-- Whether all names that a statement works on are given. -/
def Statement.HasNames (db : Database) (st : Statement) : Prop :=
  ∀ name ∈ st.names db, name.isGiven = true

/-- Whether all names in the definition of a table are given. -/
def TableDefinition.HasNames (t : TableDefinition) : Prop := ∀ name ∈ t.names, name.isGiven = true

namespace TableDefinition

theorem hasNames_iff {t : TableDefinition} :
    t.HasNames ↔ t.table.isGiven = true ∧ (∀ name ∈ t.columns, name.isGiven = true) ∧
      (∀ p ∈ t.types, p.1.isGiven = true) ∧ (∀ p ∈ t.defaults, p.1.isGiven = true) ∧
      (∀ name ∈ t.keyColumns, name.isGiven = true) ∧
      ∀ k ∈ t.constraints, ∀ name ∈ k.names, name.isGiven = true := by
  simp only [HasNames, names, List.forall_mem_cons, List.forall_mem_append, List.forall_mem_map,
    List.forall_mem_flatMap, and_assoc]

theorem mem_putAt {column : Name} {v : Value} {pairs : List (Name × Value)} {p : Name × Value}
    (hp : p ∈ putAt column v pairs) : p = (column, v) ∨ ∃ q ∈ pairs, q.1 = p.1 := by
  induction pairs with
  | nil => exact .inl (List.mem_singleton.mp hp)
  | cons q rest ih =>
    unfold putAt at hp
    split at hp
    · rcases List.mem_cons.mp hp with rfl | later
      · exact .inr ⟨q, List.mem_cons_self, rfl⟩
      · exact .inr ⟨p, List.mem_cons_of_mem q later, rfl⟩
    · rcases List.mem_cons.mp hp with rfl | later
      · exact .inr ⟨_, List.mem_cons_self, rfl⟩
      · rcases ih later with put | ⟨r, hr, same⟩
        · exact .inl put
        · exact .inr ⟨r, List.mem_cons_of_mem q hr, same⟩

theorem forall_mem_putAt {column : Name} (given : column.isGiven = true) {v : Value}
    {pairs : List (Name × Value)}
    (all : ∀ p ∈ pairs, p.1.isGiven = true) : ∀ p ∈ putAt column v pairs, p.1.isGiven = true := by
  intro p hp
  rcases mem_putAt hp with rfl | ⟨q, hq, same⟩
  · exact given
  · exact same ▸ all q hq

variable {t : TableDefinition} (names : t.HasNames)
include names

theorem hasNames_addColumn {column : Name} (given : column.isGiven = true) (type default? : Value) :
    (t.addColumn column type default?).HasNames := by
  obtain ⟨table, columns, types, defaults, key, constraints⟩ := hasNames_iff.mp names
  refine hasNames_iff.mpr ⟨table, ?_, forall_mem_putAt given types, ?_, key, constraints⟩
  · exact List.forall_mem_append.mpr ⟨columns, List.forall_mem_singleton.mpr given⟩
  · unfold addColumn
    dsimp only
    split
    · exact defaults
    · exact forall_mem_putAt given defaults

theorem hasNames_addKeyColumn {column : Name} (given : column.isGiven = true)
    (type default? keyName : Value) :
    (t.addKeyColumn column type default? keyName).HasNames := by
  obtain ⟨table, columns, types, defaults, key, constraints⟩ :=
    hasNames_iff.mp (hasNames_addColumn names given type default?)
  refine hasNames_iff.mpr ⟨table, columns, types, defaults, ?_, constraints⟩
  exact List.forall_mem_append.mpr ⟨key, List.forall_mem_singleton.mpr given⟩

theorem hasNames_addConstraints {added : List ColumnConstraint}
    (given : ∀ k ∈ added, ∀ name ∈ k.names, name.isGiven = true) :
    (added.foldl addConstraint t).HasNames := by
  obtain ⟨table, columns, types, defaults, key, constraints⟩ := hasNames_iff.mp names
  rw [foldl_addConstraint]
  exact hasNames_iff.mpr ⟨table, columns, types, defaults, key,
    List.forall_mem_append.mpr ⟨constraints, given⟩⟩

end TableDefinition

theorem isGiven_of_trimmed? {v : Value} {t : String} (trimmed : v.trimmed? = .ok (some t)) :
    v.isGiven = true := by
  obtain ⟨s, rfl⟩ := exists_text_of_trimmed? trimmed
  rw [Value.trimmed?_text, Text.trimmed?] at trimmed
  have not_blank : ¬ Text.trim s = "" ∧ Text.trim s = t := by simpa using trimmed
  simpa [Value.isGiven] using not_blank.1

def Value.IsTextOrNull (v : Value) : Prop := v = .null ∨ ∃ s, v = .text s

namespace Change

variable {db : Database} {registry : Registry} {schema table : Name} {columns : List Column}

theorem isGiven_of_requireName {change field : String} {v : Name} (textual : v.IsTextOrNull)
    (given : requireName change field v = .ok ()) : v.isGiven = true := by
  rcases textual with rfl | ⟨s, rfl⟩
  · cases given
  · obtain ⟨t, trimmed⟩ := trimmed?_of_requireName given
    exact isGiven_of_trimmed? trimmed

def ownNames : Change → List Name
  | .createTable c => [c.table]
  | .dropTable c => [c.table]
  | .renameTable c => [c.oldName, c.newName]
  | .addColumn c => [c.table]
  | .dropColumn c => [c.table, c.column]
  | .renameColumn c => [c.table, c.oldName, c.newName]
  | .createIndex c => [c.index, c.table]
  | .dropIndex c => [c.index, c.table]
  | .sql _ => []

/-- Whether the names of a change are texts, as far as they are declared. -/
def HasTextualNames (change : Change) : Prop := ∀ name ∈ change.ownNames, name.IsTextOrNull

/-- Whether an index that a change creates covers columns whose names are given. -/
def CoversNames (change : Change) : Prop :=
  ∀ c columns, change = .createIndex c → c.columns.elements = .ok columns →
    ∀ name ∈ columns, name.isGiven = true

theorem coversNames_of_name {change : Change} (other : change.name ≠ "createIndex") :
    change.CoversNames := by
  rintro c columns rfl
  exact absurd rfl other

theorem isGiven_of_columnConstraints {c : Column} (given : c.name.isGiven = true)
    {constraints : List ColumnConstraint}
    (compiled : columnConstraints c = .ok constraints) :
    ∀ k ∈ constraints, ∀ name ∈ k.names, name.isGiven = true := by
  obtain ⟨rfl, named⟩ := columnConstraints_eq_ok compiled
  have key_given : ∀ k ∈ c.foreignKey?, k.name.isGiven = true ∧ k.column.isGiven = true := by
    intro k hk
    obtain ⟨_, trimmed⟩ := named k hk
    obtain ⟨_, -, rfl⟩ := Option.map_eq_some_iff.mp hk
    exact ⟨isGiven_of_trimmed? trimmed, given⟩
  have of_flag (flag : Bool) (k : ColumnConstraint) (names : k.names = [c.name]) :
      ∀ k' ∈ (if flag then [k] else []), ∀ name ∈ k'.names, name.isGiven = true := by
    cases flag with
    | false => nofun
    | true => exact List.forall_mem_singleton.mpr (names ▸ List.forall_mem_singleton.mpr given)
  simp only [Column.tableConstraints, List.forall_mem_append]
  refine ⟨⟨⟨of_flag _ _ rfl, fun k hk => ?_⟩, of_flag _ _ rfl⟩, of_flag _ _ rfl⟩
  obtain ⟨key, hkey, rfl⟩ := Option.map_eq_some_iff.mp (Option.mem_toList.mp hk)
  obtain ⟨key_name, column⟩ := key_given key hkey
  exact List.forall_mem_cons.mpr ⟨key_name, List.forall_mem_singleton.mpr column⟩

theorem hasNames_defineColumn {t t' : TableDefinition} {c : Column} (names : t.HasNames)
    (given : c.name.isGiven = true) (defined : defineColumn db t c = .ok t') : t'.HasNames := by
  obtain ⟨type, default?, constraints, -, -, constrained, rfl⟩ := exists_of_defineColumn defined
  refine TableDefinition.hasNames_addConstraints ?_ (isGiven_of_columnConstraints given constrained)
  split
  · exact TableDefinition.hasNames_addKeyColumn names given _ _ _
  · exact TableDefinition.hasNames_addColumn names given _ _

theorem hasNames_of_foldlM {t t' : TableDefinition} (names : t.HasNames)
    (given : ∀ c ∈ columns, c.name.isGiven = true)
    (defined : columns.foldlM (defineColumn db) t = .ok t') :
    t'.HasNames :=
  foldlM_defineColumn_induction names
    (fun c hc _ _ before_names defined => hasNames_defineColumn before_names (given c hc) defined)
      defined

theorem hasNames_remarksOnColumns (table_given : table.isGiven = true)
    (given : ∀ c ∈ columns, c.name.isGiven = true) :
    ∀ st ∈ remarksOnColumns schema table columns, st.HasNames db := by
  intro st hst
  obtain ⟨c, hc, declared⟩ := List.mem_filterMap.mp hst
  obtain ⟨text, -, rfl⟩ := Option.map_eq_some_iff.mp declared
  exact List.forall_mem_cons.mpr ⟨table_given, List.forall_mem_singleton.mpr (given c hc)⟩

theorem isGiven_of_requireColumns {change : String} {c : Columns}
    (valid : requireColumns change c = .ok ())
    (declared : c.all = .ok columns) : ∀ column ∈ columns, column.name.isGiven = true := by
  intro column hc
  obtain ⟨_, trimmed⟩ := trimmed?_of_requireColumns valid declared column hc
  exact isGiven_of_trimmed? trimmed

section Changes

variable {statements : List Statement}

theorem hasNames_createTable {c : CreateTable} (textual : (Change.createTable c).HasTextualNames)
    (compiled : (Change.createTable c).validStatements db registry = .ok statements) :
    ∀ st ∈ statements, st.HasNames db := by
  obtain ⟨_, valid, compiled⟩ := exists_of_bind_eq_ok compiled
  obtain ⟨_, table_valid, columns_valid⟩ := exists_of_bind_eq_ok valid
  have table_given : c.table.isGiven = true :=
    isGiven_of_requireName (textual c.table List.mem_cons_self) table_valid
  obtain ⟨columns, t, tablespace, declared, -, defined, -, compiled_by⟩ :=
    exists_of_statements_createTable compiled
  obtain rfl := Except.ok.inj (compiled.symm.trans (compiled_by registry))
  have given := isGiven_of_requireColumns columns_valid declared
  have names : t.HasNames :=
    hasNames_of_foldlM (TableDefinition.hasNames_iff.mpr (by simpa using table_given)) given defined
  refine List.forall_mem_cons.mpr ⟨names, fun st hst => ?_⟩
  have hst : st ∈ (Change.createTable c).declaredRemarks db := List.mem_of_mem_filter hst
  rw [declaredRemarks, declared] at hst
  rcases List.mem_append.mp hst with on_table | on_column
  · obtain ⟨_, -, rfl⟩ := Option.map_eq_some_iff.mp (Option.mem_toList.mp on_table)
    exact List.forall_mem_singleton.mpr table_given
  · exact hasNames_remarksOnColumns table_given given st on_column

theorem hasNames_addColumn {c : AddColumn} (textual : (Change.addColumn c).HasTextualNames)
    (compiled : (Change.addColumn c).validStatements db registry = .ok statements) :
    ∀ st ∈ statements, st.HasNames db := by
  obtain ⟨_, valid, compiled⟩ := exists_of_bind_eq_ok compiled
  obtain ⟨_, table_valid, columns_valid⟩ := exists_of_bind_eq_ok valid
  have table_given : c.table.isGiven = true :=
    isGiven_of_requireName (textual c.table List.mem_cons_self) table_valid
  obtain ⟨columns, additions, declared, added, compiled_by⟩ :=
    exists_of_statements_addColumn compiled
  obtain rfl := Except.ok.inj (compiled.symm.trans (compiled_by registry))
  have given := isGiven_of_requireColumns columns_valid declared
  refine List.forall_mem_append.mpr ⟨?_, fun st hst => ?_⟩
  · rw [additions_eq_of_mapM added]
    exact List.forall_mem_map.mpr fun column hc =>
      List.forall_mem_cons.mpr ⟨table_given, List.forall_mem_singleton.mpr (given column hc)⟩
  · have hst : st ∈ (Change.addColumn c).declaredRemarks db := List.mem_of_mem_filter hst
    rw [declaredRemarks, declared] at hst
    exact hasNames_remarksOnColumns table_given given st hst

theorem names_dropIndex (schema table index : Name) :
    (Statement.dropIndex schema table index).names db =
      if namesTableOfIndex db then [table, index] else [index] := by
  unfold Statement.names namesTableOfIndex
  cases db.dialect? with
  | none => rfl
  | some d => cases d <;> rfl

theorem hasNames_dropIndex {c : DropIndex} (textual : (Change.dropIndex c).HasTextualNames)
    (compiled : (Change.dropIndex c).validStatements db registry = .ok statements) :
    ∀ st ∈ statements, st.HasNames db := by
  obtain ⟨_, valid, compiled⟩ := exists_of_bind_eq_ok compiled
  obtain ⟨_, index_valid, table_valid⟩ := exists_of_bind_eq_ok valid
  cases compiled
  have index_given : c.index.isGiven = true :=
    isGiven_of_requireName (textual c.index List.mem_cons_self) index_valid
  refine List.forall_mem_singleton.mpr ?_
  unfold Statement.HasNames
  rw [names_dropIndex]
  split at table_valid
  next on_table =>
    obtain ⟨table?, trimmed, table_valid⟩ := exists_of_bind_eq_ok table_valid
    rw [if_pos on_table]
    cases table? with
    | none => cases table_valid
    | some t =>
      have table_given : c.table.isGiven = true := isGiven_of_trimmed? (part_eq_ok trimmed)
      exact List.forall_mem_cons.mpr ⟨table_given, List.forall_mem_singleton.mpr index_given⟩
  next elsewhere =>
    rw [if_neg elsewhere]
    exact List.forall_mem_singleton.mpr index_given

theorem hasNames_createIndex_iff {c : CreateIndex}
    (textual : (Change.createIndex c).HasTextualNames)
    (compiled : (Change.createIndex c).validStatements db registry = .ok statements) :
    (∀ st ∈ statements, st.HasNames db) ↔ (Change.createIndex c).CoversNames := by
  obtain ⟨_, valid, compiled⟩ := exists_of_bind_eq_ok compiled
  obtain ⟨_, index_valid, valid⟩ := exists_of_bind_eq_ok valid
  obtain ⟨_, table_valid, -⟩ := exists_of_bind_eq_ok valid
  obtain ⟨columns, listed, compiled⟩ := exists_of_bind_eq_ok compiled
  obtain ⟨tablespace, -, compiled⟩ := exists_of_bind_eq_ok compiled
  cases compiled
  have index_given : c.index.isGiven = true :=
    isGiven_of_requireName (textual c.index (by simp [ownNames])) index_valid
  have table_given : c.table.isGiven = true :=
    isGiven_of_requireName (textual c.table (by simp [ownNames])) table_valid
  simp only [List.forall_mem_singleton, Statement.HasNames, Statement.names,
    List.forall_mem_cons, index_given, table_given, true_and]
  constructor
  · intro given c' columns' same listed'
    cases same
    rwa [Except.ok.inj (listed'.symm.trans (part_eq_ok listed))]
  · exact fun covers => covers c columns rfl (part_eq_ok listed)

theorem hasNames_statements_iff {change : Change} (textual : change.HasTextualNames)
    (compiled : change.validStatements db registry = .ok statements) :
    (∀ st ∈ statements, st.HasNames db) ↔ change.CoversNames := by
  have given {kind field : String} {v : Name} (own : v ∈ change.ownNames)
      (valid : requireName kind field v = .ok ()) : v.isGiven = true :=
    isGiven_of_requireName (textual v own) valid
  have only {st : Statement} (other : change.name ≠ "createIndex") (names : st.HasNames db) :
      (∀ st' ∈ [st], st'.HasNames db) ↔ change.CoversNames :=
    iff_of_true (List.forall_mem_singleton.mpr names) (coversNames_of_name other)
  cases change with
  | createTable c =>
    exact iff_of_true (hasNames_createTable textual compiled) (coversNames_of_name (by simp [name]))
  | addColumn c =>
    exact iff_of_true (hasNames_addColumn textual compiled) (coversNames_of_name (by simp [name]))
  | createIndex c => exact hasNames_createIndex_iff textual compiled
  | dropIndex c =>
    exact iff_of_true (hasNames_dropIndex textual compiled) (coversNames_of_name (by simp [name]))
  | sql text =>
    cases compiled
    exact only (by simp [name]) (by simp [Statement.HasNames, Statement.names])
  | dropTable c =>
    obtain ⟨_, table_valid, compiled⟩ := exists_of_bind_eq_ok compiled
    cases compiled
    have table_given : c.table.isGiven = true := given (by simp [ownNames]) table_valid
    exact only (by simp [name]) (by simp [Statement.HasNames, Statement.names, table_given])
  | renameTable c =>
    obtain ⟨_, valid, compiled⟩ := exists_of_bind_eq_ok compiled
    obtain ⟨_, old_valid, new_valid⟩ := exists_of_bind_eq_ok valid
    cases compiled
    have old_given : c.oldName.isGiven = true := given (by simp [ownNames]) old_valid
    have new_given : c.newName.isGiven = true := given (by simp [ownNames]) new_valid
    exact only (by simp [name])
      (by simp [Statement.HasNames, Statement.names, old_given, new_given])
  | dropColumn c =>
    obtain ⟨_, valid, compiled⟩ := exists_of_bind_eq_ok compiled
    obtain ⟨_, table_valid, column_valid⟩ := exists_of_bind_eq_ok valid
    cases compiled
    have table_given : c.table.isGiven = true := given (by simp [ownNames]) table_valid
    have column_given : c.column.isGiven = true := given (by simp [ownNames]) column_valid
    exact only (by simp [name])
      (by simp [Statement.HasNames, Statement.names, table_given, column_given])
  | renameColumn c =>
    obtain ⟨_, valid, compiled⟩ := exists_of_bind_eq_ok compiled
    obtain ⟨_, table_valid, valid⟩ := exists_of_bind_eq_ok valid
    obtain ⟨_, old_valid, new_valid⟩ := exists_of_bind_eq_ok valid
    obtain ⟨type, rfl, -⟩ := statements_renameColumn_eq_ok compiled
    have table_given : c.table.isGiven = true := given (by simp [ownNames]) table_valid
    have old_given : c.oldName.isGiven = true := given (by simp [ownNames]) old_valid
    have new_given : c.newName.isGiven = true := given (by simp [ownNames]) new_valid
    exact only (by simp [name])
      (by simp [Statement.HasNames, Statement.names, table_given, old_given, new_given])

end Changes

theorem valid_of_inverses {change : Change} {inverses : List Change}
    (textual : change.HasTextualNames)
    (valid : change.validate db = .ok ()) (found : change.inverses = .ok inverses) :
    ∀ inverse ∈ inverses, inverse.HasTextualNames ∧ inverse.validate db = .ok () ∧
      inverse.CoversNames := by
  have only {inverse : Change} (same : inverse.ownNames ⊆ change.ownNames)
    (valid : inverse.validate db = .ok ())
      (covers : inverse.CoversNames) : ∀ inverse' ∈ [inverse],
        inverse'.HasTextualNames ∧ inverse'.validate db = .ok () ∧ inverse'.CoversNames :=
    List.forall_mem_singleton.mpr ⟨fun name own => textual name (same own), valid, covers⟩
  cases change with
  | createTable c =>
    cases found
    obtain ⟨_, table_valid, -⟩ := exists_of_bind_eq_ok valid
    exact only (by simp [ownNames]) (requireName_of_requireName table_valid _ _)
      (coversNames_of_name (by simp [name]))
  | renameTable c =>
    cases found
    obtain ⟨_, old_valid, new_valid⟩ := exists_of_bind_eq_ok valid
    refine only (by simp [ownNames]) ?_ (coversNames_of_name (by simp [name]))
    simp only [validate, requireName_of_requireName new_valid]
    exact requireName_of_requireName old_valid _ _
  | addColumn c =>
    obtain ⟨_, table_valid, columns_valid⟩ := exists_of_bind_eq_ok valid
    obtain ⟨columns, declared, found⟩ := exists_of_bind_eq_ok found
    cases found
    refine List.forall_mem_map.mpr fun column hc => ?_
    obtain ⟨_, trimmed⟩ := trimmed?_of_requireColumns columns_valid (part_eq_ok declared) column
      (List.mem_reverse.mp hc)
    refine ⟨?_, ?_, coversNames_of_name (by simp [name])⟩
    · have table_textual : c.table.IsTextOrNull := textual c.table (by simp [ownNames])
      exact List.forall_mem_cons.mpr
        ⟨table_textual, List.forall_mem_singleton.mpr (.inr (exists_text_of_trimmed? trimmed))⟩
    · simp only [validate, requireName_of_requireName table_valid]
      exact requireName_of_trimmed? trimmed _ _
  | renameColumn c =>
    cases found
    obtain ⟨_, table_valid, valid⟩ := exists_of_bind_eq_ok valid
    obtain ⟨_, old_valid, new_valid⟩ := exists_of_bind_eq_ok valid
    refine only (by simp [ownNames]) ?_ (coversNames_of_name (by simp [name]))
    simp only [validate, requireName_of_requireName table_valid,
      requireName_of_requireName new_valid]
    exact requireName_of_requireName old_valid _ _
  | createIndex c =>
    cases found
    obtain ⟨_, index_valid, valid⟩ := exists_of_bind_eq_ok valid
    obtain ⟨_, table_valid, -⟩ := exists_of_bind_eq_ok valid
    refine only (by simp [ownNames]) ?_ (coversNames_of_name (by simp [name]))
    rcases textual c.table (by simp [ownNames]) with no_table | ⟨t, table_eq⟩
    · rw [no_table] at table_valid
      cases table_valid
    · rw [table_eq] at table_valid
      obtain ⟨_, trimmed⟩ := trimmed?_of_requireName table_valid
      simp only [validate, requireName_of_requireName index_valid, table_eq, trimmed]
      split <;> rfl
  | dropTable c => cases found
  | dropColumn c => cases found
  | dropIndex c => cases found
  | sql text => cases found

/-- Validation leaves no blank names to what a change with textual names is compiled to, save for
those of the columns of an index: there it only asks that there are columns. Its inverses are valid
without more ado, and their statements have all their names. -/
theorem hasNames_iff_coversNames (db : Database) (registry : Registry) (change : Change)
    (statements : List Statement)
    (textual : change.HasTextualNames)
    (compiled : change.validStatements db registry = .ok statements) :
    ((∀ st ∈ statements, st.HasNames db) ↔ change.CoversNames) ∧
      ∀ inverses, change.inverses = .ok inverses → ∀ inverse ∈ inverses,
        inverse.validate db = .ok () ∧
        ∀ (registry' : Registry) (undoing : List Statement),
          inverse.statements db registry' = .ok undoing →
          ∀ st ∈ undoing, st.HasNames db := by
  refine ⟨hasNames_statements_iff textual compiled, fun inverses found inverse hinverse => ?_⟩
  obtain ⟨_, valid, -⟩ := exists_of_bind_eq_ok compiled
  obtain ⟨inverse_textual, inverse_valid, covers⟩ :=
    valid_of_inverses textual valid found inverse hinverse
  refine ⟨inverse_valid, fun registry' undoing undone => ?_⟩
  have undone_valid : inverse.validStatements db registry' = .ok undoing := by
    rw [validStatements, inverse_valid]
    exact undone
  exact (hasNames_statements_iff inverse_textual undone_valid).mpr covers

def customerIndex (columns : List Name) : Change := .createIndex {
  index := .text "ix_email"
  table := .text "customers"
  columns := .list columns }

theorem hasTextualNames_customerIndex (columns : List Name) :
    (customerIndex columns).HasTextualNames :=
  List.forall_mem_cons.mpr ⟨.inr ⟨_, rfl⟩, List.forall_mem_singleton.mpr (.inr ⟨_, rfl⟩)⟩

theorem hasNames_iff_coversNames_customerIndex :
    ∃ created dropped, (customerIndex [.text "email"]).validStatements (warehouse .mysql) .bundled =
      .ok [created] ∧
      created.names (warehouse .mysql) = [.text "customers", .text "ix_email", .text "email"] ∧
      created.HasNames (warehouse .mysql) ∧
      (customerIndex [.text "email"]).inverseStatements (warehouse .mysql) .empty = .ok [dropped] ∧
      dropped.names (warehouse .mysql) = [.text "customers", .text "ix_email"] ∧
      dropped.HasNames (warehouse .mysql) := by
  have compiled : (customerIndex [.text "email"]).validStatements (warehouse .mysql) .bundled =
    .ok [_] := rfl
  obtain ⟨names, inverses_names⟩ := hasNames_iff_coversNames (warehouse .mysql) .bundled
    (customerIndex [.text "email"]) _ (hasTextualNames_customerIndex _) compiled
  have covers : (customerIndex [.text "email"]).CoversNames := by
    intro c columns same listed
    cases same
    cases listed
    exact List.forall_mem_singleton.mpr (by decide +kernel)
  obtain ⟨-, inverse_names⟩ := inverses_names _ rfl _ List.mem_cons_self
  exact ⟨_, _, compiled, rfl, names.mpr covers _ List.mem_cons_self, rfl, rfl,
    inverse_names .empty _ rfl _ List.mem_cons_self⟩

/-- A blank name among the columns of an index gets through to the statement. -/
theorem not_hasNames_blankColumn :
    (customerIndex [.text "email", .text "  "]).HasTextualNames ∧
      ∃ created, (customerIndex [.text "email", .text "  "]).validStatements
        (warehouse .postgresql) .bundled =
        .ok [created] ∧ ¬ created.HasNames (warehouse .postgresql) := by
  refine ⟨hasTextualNames_customerIndex _, _, rfl, fun names => ?_⟩
  have blank : (Value.text "  ").isGiven = true := names (.text "  ") (by simp [Statement.names])
  exact absurd blank (by decide +kernel)

end Change

end SchemaMigration
