import SchemaMigration.Declaration.Change
import SchemaMigration.Proofs.Table.Addition

/-! Schemas of changes. All statements of a change are in one schema. A new table has its declared
schema trimmed, and that of the database if it is blank; the other changes keep the text as it is
declared. -/

namespace SchemaMigration

/-- The schema that a statement works in. SQL that is given as text works in none. -/
def Statement.schema : Statement → Name
  | .createTable t => t.schema
  | .dropTable schema _ _ => schema
  | .renameTable schema _ _ => schema
  | .addColumn a => a.schema
  | .dropColumn schema _ _ => schema
  | .renameColumn schema _ _ _ _ => schema
  | .createIndex i => i.schema
  | .dropIndex schema _ _ => schema
  | .tableRemarks schema _ _ => schema
  | .columnRemarks schema _ _ _ => schema
  | .sql _ => .null

/-- The schema that a text names in a database: the trimmed text or, if that is blank, the schema of
the database. -/
def Database.schemaNamed (db : Database) (declared : String) : Name :=
  (Value.ofText? (Text.trimmed? declared)).unlessNull db.defaultSchema

/-- Whether the schema that a text names is called by that very text: there are no blanks around it
or, if it is blank, the schema of the database is called so. -/
def Database.Spells (db : Database) (declared : String) : Prop :=
  Text.trimmed? declared = some declared ∨
    (Text.trimmed? declared = none ∧ db.defaultSchema = .text declared)

theorem Database.spells_iff {db : Database} {declared : String} :
    db.Spells declared ↔ .text declared = db.schemaNamed declared := by
  unfold Spells schemaNamed
  cases Text.trimmed? declared with
  | none => simp [Value.ofText?, Value.unlessNull, Value.isNull, eq_comm]
  | some t => simp [Value.ofText?, Value.unlessNull, Value.isNull, eq_comm]

theorem lookup_filter_of_lookup {fields : List (String × Value)} {name other : String} {v : Value}
    (ne : name ≠ other)
    (found : fields.lookup name = some v) :
    (fields.filter (·.1 != other)).lookup name = some v := by
  obtain ⟨before, after, rfl, fresh⟩ := List.lookup_eq_some_iff.mp found
  rw [List.filter_append, List.filter_cons_of_pos (by simpa using ne)]
  exact List.lookup_eq_some_iff.mpr ⟨_, _, rfl, fun p hp => fresh p (List.mem_of_mem_filter hp)⟩

@[simp] theorem Text.nonBlank?_some (s : String) : nonBlank? (some s) = trimmed? s := by
  rw [nonBlank?, Option.bind_some]

@[simp] theorem TableSchema.name_ofDeclared (declared : Option String) :
    (ofDeclared declared).name = Text.nonBlank? declared := rfl

theorem TableSchema.ofDeclared_trimmed? (declared : String) :
    ofDeclared (Text.trimmed? declared) = ofDeclared (some declared) := by
  have same := Text.nonBlank?_nonBlank? (some declared)
  rw [Text.nonBlank?_some] at same
  simp only [ofDeclared, Text.nonBlank?_some, same]

namespace Change

variable {db : Database} {registry : Registry} {declared : String} {schema table : Name}

/-- Whether the schema of a change is declared by a text. -/
def IsIn (declared : String) : Change → Prop
  | .createTable c => c.schema = .ofDeclared (some declared)
  | .dropTable c => c.schema = .text declared
  | .renameTable c => c.schema = .text declared
  | .addColumn c => c.schema = .text declared
  | .dropColumn c => c.schema = .text declared
  | .renameColumn c => c.schema = .text declared
  | .createIndex c => c.schema = .text declared
  | .dropIndex c => c.schema = .text declared
  | .sql _ => False

theorem isIn_of_ofFields {name : String} {columns : Columns} {fields : List (String × Value)}
    {change : Change}
    (found : fields.lookup "schema_name" = some (.text declared))
    (read : ofFields name columns fields = .ok change) :
    change.IsIn declared := by
  have field : Declaration.value fields "schema_name" .null = .text declared := by
    rw [Declaration.value, found]
    rfl
  unfold ofFields at read
  dsimp only at read
  split at read
  -- A new table, whose schema is trimmed as it is read.
  case h_1 =>
    obtain ⟨_, -, read⟩ := exists_of_bind_eq_ok read
    obtain ⟨schema, trimmed, read⟩ := exists_of_bind_eq_ok read
    cases read
    rw [field] at trimmed
    obtain rfl : schema = Text.trimmed? declared := (Except.ok.inj trimmed).symm
    exact TableSchema.ofDeclared_trimmed? declared
  -- No change bears the name.
  case h_9 => cases read
  all_goals
    obtain ⟨_, -, read⟩ := exists_of_bind_eq_ok read
    cases read
    exact field

theorem isIn_of_ofValue {fields : List (String × Value)} {change : Change}
    (found : fields.lookup "schema_name" = some (.text declared))
    (read : ofValue (.object fields) = .ok change) :
    change.IsIn declared := by
  obtain ⟨fields', opened, read⟩ := exists_of_bind_eq_ok read
  cases opened
  split at read
  case h_2 name _ =>
    split at read
    next => cases read
    next =>
      obtain ⟨columns, -, read⟩ := exists_of_bind_eq_ok read
      exact isIn_of_ofFields (lookup_filter_of_lookup (by decide) found) read
  all_goals cases read

theorem resolvedSchema_of_isIn {change : Change} (in_schema : change.IsIn declared) :
    change.resolvedSchema db = if change.name = "createTable" then
      db.schemaNamed declared else .text declared := by
  cases change with
  | createTable c =>
    have schema_eq : c.schema = .ofDeclared (some declared) := in_schema
    rw [name, if_pos rfl, resolvedSchema, Change.schema, schema_eq, TableSchema.name_ofDeclared,
      Text.nonBlank?_some]
    rfl
  | sql text => cases in_schema
  | _ c =>
    have schema_eq : c.schema = .text declared := in_schema
    rw [if_neg (by simp [name]), resolvedSchema, Change.schema, schema_eq]
    rfl

theorem schema_remarksOnColumns {columns : List Column} :
    ∀ st ∈ remarksOnColumns schema table columns, st.schema = schema := by
  intro st hst
  obtain ⟨c, -, declared⟩ := List.mem_filterMap.mp hst
  obtain ⟨_, -, rfl⟩ := Option.map_eq_some_iff.mp declared
  rfl

theorem schema_declaredRemarks {change : Change} :
    ∀ st ∈ change.declaredRemarks db, st.schema = change.resolvedSchema db := by
  cases change with
  | createTable c =>
    refine List.forall_mem_append.mpr ⟨fun st hst => ?_, schema_remarksOnColumns⟩
    obtain ⟨_, -, rfl⟩ := Option.map_eq_some_iff.mp (Option.mem_toList.mp hst)
    rfl
  | addColumn c => exact schema_remarksOnColumns
  | _ => nofun

theorem schema_of_statements {change : Change} {statements : List Statement}
    (named : ∀ text, change ≠ .sql text)
    (compiled : change.statements db registry = .ok statements) :
    ∀ st ∈ statements, st.schema = change.resolvedSchema db := by
  cases change with
  | createTable c =>
    obtain ⟨columns, t, tablespace, -, -, defined, -, compiled_by⟩ :=
      exists_of_statements_createTable compiled
    obtain rfl := Except.ok.inj (compiled.symm.trans (compiled_by registry))
    obtain ⟨schema_eq, -⟩ := place_of_foldlM defined
    exact List.forall_mem_cons.mpr ⟨schema_eq, fun st hst =>
      schema_declaredRemarks st (List.mem_of_mem_filter hst)⟩
  | addColumn c =>
    obtain ⟨columns, additions, -, added, compiled_by⟩ := exists_of_statements_addColumn compiled
    obtain rfl := Except.ok.inj (compiled.symm.trans (compiled_by registry))
    refine List.forall_mem_append.mpr ⟨?_, fun st hst =>
      schema_declaredRemarks st (List.mem_of_mem_filter hst)⟩
    rw [additions_eq_of_mapM added]
    exact List.forall_mem_map.mpr fun column _ => rfl
  | renameColumn c =>
    obtain ⟨type, rfl, -⟩ := statements_renameColumn_eq_ok compiled
    exact List.forall_mem_singleton.mpr rfl
  | createIndex c =>
    obtain ⟨columns, -, compiled⟩ := exists_of_bind_eq_ok compiled
    obtain ⟨tablespace, -, compiled⟩ := exists_of_bind_eq_ok compiled
    cases compiled
    exact List.forall_mem_singleton.mpr rfl
  | sql text => exact absurd rfl (named text)
  | _ c =>
    cases compiled
    exact List.forall_mem_singleton.mpr rfl

theorem schema_of_isIn {change : Change} {statements : List Statement}
    (in_schema : change.IsIn declared)
    (compiled : change.statements db registry = .ok statements) : ∀ st ∈ statements,
      st.schema = if change.name = "createTable" then
        db.schemaNamed declared else .text declared := by
  have named (text : Value) : change ≠ .sql text := by
    rintro rfl
    exact in_schema
  exact fun st hst => (schema_of_statements named compiled st hst).trans
    (resolvedSchema_of_isIn in_schema)

/-- Where a declared text leads to. Read from its fields a change is in the schema that they
declare, and so are all its statements: a new table is in the schema that the text names, and any
other change in what the text spells. So changes that declare the same text meet in one schema if
all or none of them make tables, and otherwise only where the text spells what it names. -/
theorem schema_eq_schemaNamed_iff (db : Database) (declared : String) :
    (∀ fields change, fields.lookup "schema_name" = some (.text declared) →
      ofValue (.object fields) = .ok change →
      change.IsIn declared) ∧
    ∀ (change : Change) (registry : Registry) (statements : List Statement), change.IsIn declared →
      change.statements db registry = .ok statements → ∀ st ∈ statements,
        (st.schema = if change.name = "createTable" then db.schemaNamed declared
          else .text declared) ∧
        (st.schema = db.schemaNamed declared ↔ change.name = "createTable" ∨ db.Spells declared) ∧
        ∀ (other : Change) (registry' : Registry) (statements' : List Statement),
          other.IsIn declared →
          other.statements db registry' = .ok statements' → ∀ st' ∈ statements',
            (st.schema = st'.schema ↔
              (change.name = "createTable" ↔ other.name = "createTable") ∨ db.Spells declared) := by
  refine ⟨fun fields change => isIn_of_ofValue,
    fun change registry statements in_schema compiled st hst => ?_⟩
  have schema_eq := schema_of_isIn in_schema compiled st hst
  refine ⟨schema_eq, ?_, fun other registry' statements' other_in compiled' st' hst' => ?_⟩
  · rw [schema_eq, Database.spells_iff]
    by_cases new_table : change.name = "createTable"
    · simp [new_table]
    · simp [new_table]
  · rw [schema_eq, schema_of_isIn other_in compiled' st' hst', Database.spells_iff]
    by_cases new_table : change.name = "createTable"
    all_goals by_cases other_new : other.name = "createTable"
    all_goals simp [new_table, other_new, eq_comm]

/-- A database whose objects are in the public schema, unless they declare another. -/
def publicBase : Database := { warehouse .postgresql with defaultSchema := .text "public" }

/-- The fields of a new table of orders in a schema. -/
def newOrders (schema : String) : List (String × Value) :=
  [("change", .text "createTable"), ("table_name", .text "orders"), ("schema_name", .text schema),
    ("columns", .list [.object [("name", .text "id"), ("type", .text "INT")]])]

/-- The fields of a change that drops the orders in a schema. -/
def oldOrders (schema : String) : List (String × Value) :=
  [("change", .text "dropTable"), ("table_name", .text "orders"), ("schema_name", .text schema)]

theorem schema_eq_schemaNamed_iff_orders :
    ∃ create drop created dropped, ofValue (.object (newOrders "sales")) = .ok create ∧
      ofValue (.object (oldOrders "sales")) = .ok drop ∧
      create.statements publicBase .bundled = .ok [created] ∧
      drop.statements publicBase .empty = .ok [dropped] ∧
      created.schema = .text "sales" ∧ created.schema = dropped.schema := by
  obtain ⟨is_in, in_one_schema⟩ := schema_eq_schemaNamed_iff publicBase "sales"
  have create_in := is_in (newOrders "sales") _ rfl rfl
  have drop_in := is_in (oldOrders "sales") _ rfl rfl
  obtain ⟨created_in, -, meets⟩ := in_one_schema _ .bundled [_] create_in rfl _ List.mem_cons_self
  have trimmed : Text.trimmed? "sales" = some "sales" := by decide +kernel
  exact ⟨_, _, _, _, rfl, rfl, rfl, rfl, created_in,
    (meets _ .empty [_] drop_in rfl _ List.mem_cons_self).mpr (.inr (.inl trimmed))⟩

/-- With blanks around the declared schema a table is made in one place and dropped in another. -/
theorem orders_apart :
    ∃ create drop created dropped, ofValue (.object (newOrders " sales ")) = .ok create ∧
      ofValue (.object (oldOrders " sales ")) = .ok drop ∧
      create.statements publicBase .bundled = .ok [created] ∧
      drop.statements publicBase .bundled = .ok [dropped] ∧
      created.schema = publicBase.schemaNamed " sales " ∧
      dropped.schema ≠ publicBase.schemaNamed " sales " ∧
      publicBase.qualifyName created.schema created.affectedTable = .ok "sales.orders" ∧
      publicBase.qualifyName dropped.schema dropped.affectedTable = .ok "\" sales \".orders" := by
  have named : publicBase.schemaNamed " sales " = .text "sales" := by decide +kernel
  have apart : Value.text " sales " ≠ publicBase.schemaNamed " sales " := by
    rw [named]
    exact fun same => absurd (Value.text.inj same) (by decide)
  exact ⟨_, _, _, _, rfl, rfl, rfl, rfl, by decide +kernel, apart, by decide +kernel,
    by decide +kernel⟩

end Change

end SchemaMigration
