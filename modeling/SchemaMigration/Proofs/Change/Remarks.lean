import SchemaMigration.Proofs.Table.Addition

/-! Remarks and what a registry can render. A remark is the one thing that a change leaves out where
no generator is registered for it; so the lack of one never stops the rendering of a remark, and
with the bundled generators it stops nothing at all. -/

namespace SchemaMigration

def IsSupported {α : Type} (result : Except RenderError α) : Prop :=
  ∀ kind dialect, result ≠ .error (.unsupported kind dialect)

namespace IsSupported

variable {α β : Type}

theorem ok (a : α) : IsSupported (.ok a) := nofun

theorem absent (key : Value) : IsSupported (.error (.absent key) : Except RenderError α) := nofun

theorem misfit (f : Misfit) : IsSupported (.error (.misfit f) : Except RenderError α) := nofun

theorem part (result : Except Misfit α) : IsSupported (Rendering.part result) := by
  cases result with
  | error f => exact misfit f
  | ok a => exact ok a

theorem bind {x : Except RenderError α} {f : α → Except RenderError β} (hx : IsSupported x)
    (hf : ∀ a, IsSupported (f a)) : IsSupported (x >>= f) := by
  cases x with
  | error e =>
    exact fun kind dialect stopped => hx kind dialect
      (congrArg Except.error (Except.error.inj stopped))
  | ok a => exact hf a

theorem ite {p : Prop} [Decidable p] {x y : Except RenderError α} (hx : IsSupported x)
    (hy : IsSupported y) :
    IsSupported (if p then x else y) := by
  split
  · exact hx
  · exact hy

theorem map {x : Except RenderError α} (hx : IsSupported x) (f : α → β) :
    IsSupported (x.map f) := by
  cases x with
  | error e =>
    exact fun kind dialect stopped => hx kind dialect
      (congrArg Except.error (Except.error.inj stopped))
  | ok a => exact ok (f a)

end IsSupported

namespace Rendering

variable (db : Database)

theorem isSupported_quoted (name : Name) : IsSupported (quoted db name) := .part _

theorem isSupported_qualified (schema name : Name) :
    IsSupported (qualified db schema name) := .part _

theorem isSupported_literal (v : Value) : IsSupported (literal v) := .part _

theorem isSupported_columnList (names : List Name) : IsSupported (columnList db names) := by
  refine .map ?_ _
  induction names with
  | nil => exact .ok _
  | cons name rest ih => exact (isSupported_quoted db name).bind fun _ => ih.bind fun _ => .ok _

theorem isSupported_named (name : Name) (clause : String) : IsSupported (named db name clause) :=
  .ite ((isSupported_quoted db name).map _) (.ok _)

variable (t : TableDefinition)

theorem isSupported_typeOf (column : Name) : IsSupported (typeOf t column) := by
  refine .ite (.misfit _) ?_
  split
  · exact .ok _
  · exact .absent _

theorem isSupported_columnDefinition (column : Name) (inlineKey : Bool) :
    IsSupported (columnDefinition t column db inlineKey) := by
  refine (isSupported_typeOf t column).bind fun type =>
    (isSupported_quoted db column).bind fun name => ?_
  have stored : IsSupported (Rendering.part type.onlyText) := .part _
  exact .ite (.misfit _)
    (.ite (stored.bind fun _ => .ok _) ((IsSupported.part _).bind fun _ =>
      stored.bind fun _ => .ok _))

theorem isSupported_columnDefinitions (inlineKey : Option Name) (names : List Name) :
    IsSupported (columnDefinitions t db inlineKey names) := by
  induction names with
  | nil => exact .ok _
  | cons name rest ih =>
    exact (isSupported_columnDefinition db t name _).bind fun _ => ih.bind fun _ => .ok _

theorem isSupported_constraintClauses (constraints : List ColumnConstraint) :
    IsSupported (constraintClauses db constraints) := by
  induction constraints with
  | nil => exact .ok _
  | cons k rest ih =>
    cases k with
    | notNull column => exact ih
    | foreignKey key =>
      have clause : IsSupported (foreignKeyClause key db) :=
        (isSupported_quoted db _).bind fun _ => (isSupported_quoted db _).bind fun _ => .ok _
      exact clause.bind fun _ => ih.bind fun _ => .ok _
    | unique name columns =>
      have clause : IsSupported (uniqueClause name columns db) :=
        (isSupported_columnList db columns).bind fun _ => isSupported_named db name _
      exact clause.bind fun _ => ih.bind fun _ => .ok _
    | generated column => exact ih

theorem isSupported_inlineKey? : IsSupported (inlineKey? t db) := by
  refine .ite (.ok _) ?_
  split
  · exact .absent _
  · exact (IsSupported.part _).map _

theorem isSupported_keyClause (inlineKey : Option Name) : IsSupported (keyClause t db inlineKey) :=
  .ite (.ok _) <| (IsSupported.part _).bind fun names =>
      (isSupported_columnList db names).bind fun _ =>
    (isSupported_named db _ _).bind fun _ => .ok _

theorem isSupported_createTable : IsSupported (createTable t db) := by
  have body : IsSupported (tableBody t db) :=
    (isSupported_inlineKey? db t).bind fun inlineKey => (IsSupported.part _).bind fun names =>
      (isSupported_columnDefinitions db t inlineKey names).bind fun _ =>
        (isSupported_keyClause db t inlineKey).bind fun _ =>
          (isSupported_constraintClauses db t.constraints).bind fun _ => .ok _
  exact body.bind fun _ => (isSupported_qualified db _ _).bind fun _ => .ok _

variable (schema table newName column index : Name) (remarks : Value)

theorem isSupported_dropTable (cascade : Value) : IsSupported (dropTable schema table cascade db) :=
  (isSupported_qualified db schema table).bind fun _ => .ok _

theorem isSupported_renameTable : IsSupported (renameTable schema table newName db) := by
  unfold renameTable
  refine (isSupported_qualified db schema table).bind fun oldName => ?_
  split
  · exact (isSupported_literal newName).bind fun _ => .ok _
  · exact (isSupported_qualified db schema newName).bind fun _ => .ok _
  · exact (isSupported_qualified db schema newName).bind fun _ => .ok _
  · exact (isSupported_quoted db newName).bind fun _ => .ok _

theorem isSupported_addColumn (a : ColumnAddition) : IsSupported (addColumn a db) :=
  (isSupported_quoted db _).bind fun _ => (isSupported_qualified db _ _).bind fun _ =>
    (IsSupported.part _).bind fun _ => .ok _

theorem isSupported_dropColumn : IsSupported (dropColumn schema table column db) :=
  (isSupported_qualified db schema table).bind fun _ =>
    (isSupported_quoted db column).bind fun _ => .ok _

theorem isSupported_joined (names : List Name) : IsSupported (joined names) := by
  induction names with
  | nil => exact .ok _
  | cons name rest ih => exact (IsSupported.part _).bind fun _ => ih.bind fun _ => .ok _

theorem isSupported_renameColumn : IsSupported (renameColumn schema table column newName db) := by
  unfold renameColumn
  split
  · exact (isSupported_joined _).bind fun _ => (isSupported_literal newName).bind fun _ => .ok _
  · exact (isSupported_qualified db schema table).bind fun _ =>
        (isSupported_quoted db column).bind fun _ =>
      (isSupported_quoted db newName).bind fun _ => .ok _

theorem isSupported_createIndex (i : IndexDefinition) : IsSupported (createIndex i db) :=
  (isSupported_qualified db _ _).bind fun _ => (isSupported_quoted db _).bind fun _ =>
    (isSupported_columnList db _).bind fun _ => .ok _

theorem isSupported_dropIndex : IsSupported (dropIndex schema table index db) := by
  have on_table : IsSupported (do
      let table ← qualified db schema (if table.isTrue then table else .text "")
      let index ← quoted db index
      return ["DROP INDEX " ++ index ++ " ON " ++ table]) :=
    (isSupported_qualified db _ _).bind fun _ => (isSupported_quoted db index).bind fun _ => .ok _
  unfold dropIndex
  split
  · exact on_table
  · exact on_table
  · exact on_table
  · exact (isSupported_qualified db schema index).bind fun _ => .ok _

theorem isSupported_commentOnTable : IsSupported (commentOnTable schema table remarks db) :=
  (isSupported_qualified db schema table).bind fun _ =>
    (isSupported_literal remarks).bind fun _ => .ok _

theorem isSupported_commentOnColumn :
    IsSupported (commentOnColumn schema table column remarks db) :=
  (isSupported_qualified db schema table).bind fun _ => (isSupported_quoted db column).bind fun _ =>
    (isSupported_literal remarks).bind fun _ => .ok _

theorem isSupported_alterTableComment : IsSupported (alterTableComment schema table remarks db) :=
  (isSupported_qualified db schema table).bind fun _ =>
    (isSupported_literal remarks).bind fun _ => .ok _

end Rendering

namespace Registry

variable {db : Database} {r : Registry}

theorem isSupported_render (db : Database) (st : Statement) : IsSupported (render db st) := by
  cases st with
  | createTable t => exact Rendering.isSupported_createTable db t
  | dropTable schema table cascade => exact Rendering.isSupported_dropTable db schema table cascade
  | renameTable schema table newName =>
    exact Rendering.isSupported_renameTable db schema table newName
  | addColumn a => exact Rendering.isSupported_addColumn db a
  | dropColumn schema table column => exact Rendering.isSupported_dropColumn db schema table column
  | renameColumn schema table column newName type =>
    exact Rendering.isSupported_renameColumn db schema table newName column
  | createIndex i => exact Rendering.isSupported_createIndex db i
  | dropIndex schema table index => exact Rendering.isSupported_dropIndex db schema table index
  | tableRemarks schema table remarks =>
    exact Rendering.isSupported_commentOnTable db schema table remarks
  | columnRemarks schema table column remarks =>
    exact Rendering.isSupported_commentOnColumn db schema table column remarks
  | sql text => exact .part _

theorem isSupported_renderAsAlteration (db : Database) (st : Statement) :
    IsSupported (renderAsAlteration db st) := by
  unfold renderAsAlteration
  split
  · exact Rendering.isSupported_alterTableComment db _ _ _
  · exact isSupported_render db _

theorem exists_entry_of_get? {st : Statement} {g : Generator} (found : r.get? db st = some g) :
    ∃ entry ∈ r.entries, entry.2 = g := by
  have entry_of_find? {dialect : String} (found : r.find? st.kind dialect = some g) :
      ∃ entry ∈ r.entries, entry.2 = g := by
    obtain ⟨entry, first, rfl⟩ := Option.map_eq_some_iff.mp found
    exact ⟨entry, List.mem_of_find?_eq_some first, rfl⟩
  unfold get? at found
  split at found
  next own =>
    cases found
    exact entry_of_find? own
  next => exact entry_of_find? found

theorem isSupported_of_get?_bundled {st : Statement} {g : Generator}
    (found : bundled.get? db st = some g) :
    IsSupported (g db st) := by
  obtain ⟨entry, registered, rfl⟩ := exists_entry_of_get? found
  have bundled_generators : ∀ entry ∈ bundled.entries, entry.2 = render ∨
      entry.2 = renderAsAlteration := by
    rw [entries_bundled]
    exact List.forall_mem_append.mpr ⟨List.forall_mem_map.mpr fun kind common => .inl rfl, by simp⟩
  rcases bundled_generators entry registered with is_render | is_alteration
  · exact is_render ▸ isSupported_render db st
  · exact is_alteration ▸ isSupported_renderAsAlteration db st

theorem exists_error_of_generateAll {statements : List Statement} {e : RenderError}
    (stopped : r.generateAll db statements = .error e) :
    ∃ st ∈ statements, r.generate db st = .error e := by
  induction statements with
  | nil => cases stopped
  | cons st rest ih =>
    rw [generateAll] at stopped
    cases first : r.generate db st with
    | error e' =>
      rw [first] at stopped
      cases stopped
      exact ⟨st, List.mem_cons_self, first⟩
    | ok sql =>
      cases others : r.generateAll db rest with
      | error e' =>
        rw [first, others] at stopped
        cases stopped
        obtain ⟨later, hlater, failed⟩ := ih others
        exact ⟨later, List.mem_cons_of_mem st hlater, failed⟩
      | ok more =>
        rw [first, others] at stopped
        cases stopped

end Registry

namespace Change

variable {db : Database}

theorem isRemark_of_commonKinds {st : Statement} (common : st.kind ∈ Registry.commonKinds) :
    st.isRemark = false := by
  cases st with
  | tableRemarks => simp [Statement.kind, Registry.commonKinds] at common
  | columnRemarks => simp [Statement.kind, Registry.commonKinds] at common
  | _ => rfl

/-- A change compiles to the same statements for every registry, but for the remarks, which come
last and are left out if they cannot be rendered. The others are of kinds that every dialect has, or
SQL that is given as text. -/
theorem statements_eq_append_filter {registry : Registry} {change : Change}
    {statements : List Statement}
    (compiled : change.statements db registry = .ok statements) :
    ∃ main, (∀ st ∈ main, st.kind ∈ Registry.commonKinds ∨ ∃ text, change = .sql text ∧
      st = .sql text) ∧
      ∀ r : Registry, change.statements db r =
        .ok (main ++ (change.declaredRemarks db).filter (r.supports db)) := by
  have of_single (kind : Statement.Kind) (common : kind ∈ Registry.commonKinds) {st : Statement}
      (is_kind : st.kind = kind) :
      ∀ st' ∈ [st], st'.kind ∈ Registry.commonKinds ∨ ∃ text, change = .sql text ∧
          st' = .sql text :=
    List.forall_mem_singleton.mpr (.inl (is_kind ▸ common))
  cases change with
  | createTable c =>
    obtain ⟨_, t, tablespace, -, -, -, -, compiled_by⟩ := exists_of_statements_createTable compiled
    exact ⟨[.createTable { t with tablespace := .ofText? tablespace }],
      of_single .createTable (by decide) rfl, compiled_by⟩
  | addColumn c =>
    obtain ⟨columns, additions, -, added, compiled_by⟩ := exists_of_statements_addColumn compiled
    refine ⟨additions, ?_, compiled_by⟩
    rw [additions_eq_of_mapM added]
    exact List.forall_mem_map.mpr fun c hc => of_single .addColumn
      (by decide) rfl _ List.mem_cons_self
  | renameColumn c =>
    obtain ⟨type, rfl, -⟩ := statements_renameColumn_eq_ok compiled
    exact ⟨[.renameColumn ((Change.renameColumn c).resolvedSchema db) c.table c.oldName
      c.newName type], of_single .renameColumn (by decide) rfl, fun r => compiled⟩
  | createIndex c =>
    obtain ⟨columns, listed, compiled_index⟩ := exists_of_bind_eq_ok compiled
    obtain ⟨tablespace, stored, compiled_index⟩ := exists_of_bind_eq_ok compiled_index
    cases compiled_index
    exact ⟨[.createIndex _], of_single .createIndex (by decide) rfl, fun r => compiled⟩
  | dropTable c => exact ⟨[.dropTable _ _ _], of_single .dropTable (by decide) rfl, fun r => rfl⟩
  | renameTable c =>
    exact ⟨[.renameTable _ _ _], of_single .renameTable (by decide) rfl, fun r => rfl⟩
  | dropColumn c => exact ⟨[.dropColumn _ _ _], of_single .dropColumn (by decide) rfl, fun r => rfl⟩
  | dropIndex c => exact ⟨[.dropIndex _ _ _], of_single .dropIndex (by decide) rfl, fun r => rfl⟩
  | sql text =>
    exact ⟨[.sql text], List.forall_mem_singleton.mpr (.inr ⟨text, rfl, rfl⟩), fun r => rfl⟩

section Support

variable {registry : Registry} {change : Change} {statements : List Statement}
  (compiled : change.statements db registry = .ok statements)
include compiled

theorem exists_generator_of_isRemark :
    ∀ st ∈ statements, st.isRemark = true → ∃ g, registry.get? db st = some g := by
  obtain ⟨main, kinds, compiled_by⟩ := statements_eq_append_filter compiled
  obtain rfl := Except.ok.inj (compiled.symm.trans (compiled_by registry))
  intro st hst is_remark
  rcases List.mem_append.mp hst with in_main | in_remarks
  · rcases kinds st in_main with common | ⟨text, -, rfl⟩
    · cases is_remark.symm.trans (isRemark_of_commonKinds common)
    · cases is_remark
  · exact Option.isSome_iff_exists.mp (List.mem_filter.mp in_remarks).2

theorem unsupported_of_generateAll {kind : Statement.Kind} {dialect : String}
    (stopped : registry.generateAll db statements = .error (.unsupported kind dialect)) :
    ∃ st ∈ statements, (∃ g, registry.get? db st = some g ∧
      g db st = .error (.unsupported kind dialect)) ∨
      (st.isRemark = false ∧ registry.get? db st = none ∧ kind = st.kind ∧ dialect = db.name) := by
  obtain ⟨st, hst, failed⟩ := Registry.exists_error_of_generateAll stopped
  refine ⟨st, hst, ?_⟩
  unfold Registry.generate at failed
  split at failed
  next g found => exact .inl ⟨g, found, failed⟩
  next lacking =>
    cases failed
    refine .inr ⟨Bool.eq_false_iff.mpr fun is_remark => ?_, lacking, rfl, rfl⟩
    obtain ⟨g, found⟩ := exists_generator_of_isRemark compiled st hst is_remark
    cases lacking.symm.trans found

theorem isSupported_bundled (has_name : ∀ text, change ≠ .sql text) :
    ∃ bundled_statements, change.statements db .bundled = .ok bundled_statements ∧
      IsSupported (Registry.bundled.generateAll db bundled_statements) := by
  obtain ⟨main, kinds, compiled_by⟩ := statements_eq_append_filter compiled
  refine ⟨_, compiled_by .bundled, fun kind dialect stopped => ?_⟩
  obtain ⟨st, hst, raised | ⟨no_remark, lacking, -, -⟩⟩ :=
    unsupported_of_generateAll (compiled_by .bundled) stopped
  · obtain ⟨g, found, failed⟩ := raised
    exact Registry.isSupported_of_get?_bundled found kind dialect failed
  · rcases List.mem_append.mp hst with in_main | in_remarks
    · rcases kinds st in_main with common | ⟨text, is_sql, -⟩
      · have rendered : Registry.bundled.generate db st = Registry.render db st :=
          Registry.generate_bundled common
        rw [Registry.generate, lacking] at rendered
        exact Registry.isSupported_render db st _ _ rendered.symm
      · exact has_name text is_sql
    · cases no_remark.symm.trans (isRemark_declaredRemarks change st
        (List.mem_of_mem_filter in_remarks))

end Support

/-- Remarks and what can be rendered. For every registry a change compiles to the same statements
and then, in order of declaration, to those of its remarks that the registry supports. So a registry
never lacks a generator for a remark, and the bundled one lacks none for any change that has a name,
whatever the dialect. -/
theorem statements_by_support {registry : Registry} {change : Change} {statements : List Statement}
    (compiled : change.statements db registry = .ok statements) :
    (∃ main, (∀ st ∈ main, st.isRemark = false) ∧
      ∀ r : Registry, change.statements db r =
        .ok (main ++ (change.declaredRemarks db).filter (r.supports db))) ∧
    (∀ st ∈ statements, st.isRemark = true → ∃ g, registry.get? db st = some g) ∧
    (∀ kind dialect, registry.generateAll db statements = .error (.unsupported kind dialect) →
      ∃ st ∈ statements, (∃ g, registry.get? db st = some g ∧
        g db st = .error (.unsupported kind dialect)) ∨
        (st.isRemark = false ∧ registry.get? db st = none ∧ kind = st.kind ∧ dialect = db.name)) ∧
    ((∀ text, change ≠ .sql text) → ∃ bundled_statements,
      change.statements db .bundled = .ok bundled_statements ∧
      ∀ kind dialect, Registry.bundled.generateAll db bundled_statements ≠
        .error (.unsupported kind dialect)) := by
  refine ⟨?_, exists_generator_of_isRemark compiled, fun _ _ => unsupported_of_generateAll compiled,
    isSupported_bundled compiled⟩
  obtain ⟨main, kinds, compiled_by⟩ := statements_eq_append_filter compiled
  refine ⟨main, fun st hst => ?_, compiled_by⟩
  rcases kinds st hst with common | ⟨text, -, rfl⟩
  · exact isRemark_of_commonKinds common
  · rfl

def guestBook : Change := .createTable {
  table := .text "guests"
  schema := .ofDeclared none
  remarks := .text " who came "
  columns := .of [
    { name := .text "day", type := .text "DATE", remarks := .text "  " },
    { name := .text "number", type := .text "INT", remarks := .text "of guests " }] }

def remarkingRegistry : Registry := Registry.bundled.add .columnRemarks Registry.render ["mysql"]

theorem statements_by_support_guestBook :
    ∃ main, (∀ st ∈ main, st.isRemark = false) ∧
      guestBook.statements (warehouse .mysql) remarkingRegistry = .ok (main ++
        [.tableRemarks .null (.text "guests") (.text "who came"),
          .columnRemarks .null (.text "guests") (.text "number") (.text "of guests")]) ∧
      guestBook.statements (warehouse .mysql) .bundled =
        .ok (main ++ [.tableRemarks .null (.text "guests") (.text "who came")]) ∧
      guestBook.statements (warehouse .mysql) .empty = .ok main ∧
      ∃ statements, guestBook.statements (warehouse .mysql) .bundled = .ok statements ∧
        ∀ kind dialect,
          Registry.bundled.generateAll (warehouse .mysql) statements ≠
            .error (.unsupported kind dialect) := by
  obtain ⟨statements, compiled⟩ :
      ∃ statements, guestBook.statements (warehouse .mysql) remarkingRegistry = .ok statements :=
    exists_eq_ok_of_isSome (by decide +kernel)
  obtain ⟨⟨main, plain, by_support⟩, -, -, supported⟩ := statements_by_support compiled
  refine ⟨main, plain, by_support remarkingRegistry, by_support .bundled, ?_,
    supported fun text => nofun⟩
  exact (by_support .empty).trans (congrArg Except.ok (List.append_nil main))

end Change

end SchemaMigration
