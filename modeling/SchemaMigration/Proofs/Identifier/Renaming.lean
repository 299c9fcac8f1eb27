import SchemaMigration.Proofs.Change.Literals
import SchemaMigration.Proofs.Identifier.Quoting

/-! What is renamed is told by the statement that renames it. Where names are quoted, the schema,
the table, the column and the new name can all be read from the statement. SQL Server is told what
to rename by one text, which is made of the names with points between them, and a point inside a
name is not told from one of those. -/

namespace SchemaMigration

/-- A table that is renamed, or a column of it. -/
structure RenameTarget where
  schema : Option String
  table : String
  column? : Option String := none

namespace RenameTarget

/-- The statement that gives a new name to a table or a column. -/
def renamedTo (t : RenameTarget) (newName : String) (type : Value) : Statement :=
  match t.column? with
  | none => .renameTable (.ofText? t.schema) (.text t.table) (.text newName)
  | some column =>
    .renameColumn (.ofText? t.schema) (.text t.table) (.text column) (.text newName) type

def tableText (t : RenameTarget) : String :=
  match t.schema.filter (· ≠ "") with
  | none => t.table
  | some schema => schema ++ "." ++ t.table

/-- The names of what is renamed, points between them. -/
def text (t : RenameTarget) : String :=
  match t.column? with
  | none => t.tableText
  | some column => t.tableText ++ "." ++ column

/-- Whether the same is renamed; the empty schema is none. -/
def Same (t t' : RenameTarget) : Prop :=
  t.schema.filter (· ≠ "") = t'.schema.filter (· ≠ "") ∧ t.table = t'.table ∧ t.column? = t'.column?

/-- Whether neither the table nor the column has a point in its name. -/
def IsPointFree (t : RenameTarget) : Prop :=
  '.' ∉ t.table.toList ∧ ∀ column ∈ t.column?, '.' ∉ column.toList

/-- Whether a database takes what is renamed for the same. SQL Server goes by the joined names, of
tables or of columns. -/
def IsTakenFor (db : Database) (t t' : RenameTarget) : Prop :=
  if db.dialect? = some .mssql then t.column?.isSome = t'.column?.isSome ∧ t.text = t'.text
  else t.Same t'

end RenameTarget

namespace Database

/-- Whether names are written as the dialect of a database has them, or by the common rules. -/
def HasOwnStyle (db : Database) : Prop := db.style = .of db.dialect? ∨ db.style = .of none

theorem hasOwnStyle_of_ofName {written : String} {schema : Name} {engine : Option Engine}
    {db : Database}
    (known : ofName written schema engine = .ok db) : db.HasOwnStyle := by
  unfold ofName at known
  cases found : Dialect.ofName? (Dialect.normalizeName written) with
  | none =>
    simp only [found] at known
    cases known
  | some d =>
    simp only [found, Except.ok.injEq] at known
    subst known
    refine .inl ?_
    rw [dialect?, found]

theorem hasOwnStyle_generic (written : String) (schema : Name) (engine : Option Engine) :
    (generic written schema engine).HasOwnStyle := .inr rfl

theorem hasOwnStyle_ofEngine (d : Dialect) (engine : Engine) (schema : Name) :
    (ofEngine d engine schema).HasOwnStyle :=
  .inl (congrArg Identifier.Style.of (Dialect.ofName?_name _).symm)

variable {db : Database}

theorem HasOwnStyle.exists_kind (own : db.HasOwnStyle) (other : db.dialect? ≠ some .mssql) :
    ∃ kind, db.style = .of kind ∧ kind ≠ some .mssql :=
  own.elim (fun style => ⟨_, style, other⟩) fun style => ⟨_, style, nofun⟩

theorem qualifyName_texts (schema : Option String) (name : String) :
    db.qualifyName (.ofText? schema) (.text name) = .ok (db.qualify schema name) := by
  cases schema with
  | none => rfl
  | some s =>
    by_cases empty : s = ""
    · rw [empty]
      rfl
    · have given : (Value.text s).isTrue = true := bne_iff_ne.mpr empty
      rw [Value.ofText?, qualifyName, if_pos given]
      rfl

section

variable {schema schema' : Option String} {name name' rest rest' : String}
  (sound : db.style.IsSound)
  (space : rest.toList.head? = some ' ') (space' : rest'.toList.head? = some ' ')

include sound space space'

theorem quote_space_inj (same : db.quote name ++ rest = db.quote name' ++ rest') :
    name = name' ∧ rest = rest' :=
  quote_append_inj sound (Identifier.Style.endsName_space sound space)
    (Identifier.Style.endsName_space sound space') same

theorem qualify_space_inj (whole : db.style.splitsSchema = false)
    (same : db.qualify schema name ++ rest = db.qualify schema' name' ++ rest') :
    schema.filter (· ≠ "") = schema'.filter (· ≠ "") ∧ name = name' ∧ rest = rest' :=
  qualify_append_inj sound whole (Identifier.Style.endsName_space sound space)
    (Identifier.Style.endsName_space sound space') (by simp [space]) (by simp [space']) same

end

end Database

theorem Rendering.qualified_texts (db : Database) (schema : Option String) (name : String) :
    qualified db (.ofText? schema) (.text name) = .ok (db.qualify schema name) := by
  rw [qualified, Database.qualifyName_texts]
  rfl

namespace RenameTarget

open Rendering (qualified_texts)

variable {db : Database} {t t' : RenameTarget} {newName newName' : String} {type : Value}

theorem generate_renamedTo : Registry.bundled.generate db (t.renamedTo newName type) =
    Registry.render db (t.renamedTo newName type) := by
  refine Registry.generate_bundled ?_
  unfold renamedTo
  split
  next => exact (by decide : Statement.Kind.renameTable ∈ Registry.commonKinds)
  next => exact (by decide : Statement.Kind.renameColumn ∈ Registry.commonKinds)

theorem schema_cases (schema : Option String) :
    ((Value.ofText? schema).isTrue = false ∧ schema.filter (· ≠ "") = none) ∨
    ∃ s, schema = some s ∧ (Value.ofText? schema).isTrue = true ∧
      schema.filter (· ≠ "") = some s := by
  cases schema with
  | none => exact .inl ⟨rfl, rfl⟩
  | some s =>
    by_cases empty : s = ""
    · exact .inl ⟨by simp [Value.ofText?, Value.isTrue, empty], by simp [empty, Option.filter]⟩
    · exact .inr ⟨s, rfl, by simp [Value.ofText?, Value.isTrue, empty],
        by simp [empty, Option.filter]⟩

theorem tableText_eq : t.tableText =
    (if (Value.ofText? t.schema).isTrue then (Value.ofText? t.schema).display ++ "." else "") ++
      t.table := by
  unfold tableText
  rcases schema_cases t.schema with ⟨no_flag, no_schema⟩ | ⟨s, schema_eq, flag, given⟩
  · rw [no_schema, no_flag]
    exact String.empty_append.symm
  · rw [given, flag, schema_eq]
    rfl

theorem joined_eq {column : String} (of_table : t.column? = some column) :
    ∃ parts, Rendering.joined ((if (Value.ofText? t.schema).isTrue then [Value.ofText? t.schema]
      else []) ++
      [.text t.table, .text column]) = .ok parts ∧ Text.join "." parts = t.text := by
  unfold text tableText
  rw [of_table]
  rcases schema_cases t.schema with ⟨no_flag, no_schema⟩ | ⟨s, schema_eq, flag, given⟩
  · rw [no_schema, no_flag]
    exact ⟨_, rfl, rfl⟩
  · rw [given, flag, schema_eq]
    exact ⟨_, rfl, rfl⟩

theorem render_of_mssql (procedure : db.dialect? = some .mssql) :
    Registry.render db (t.renamedTo newName type) =
      .ok ["EXEC sp_rename " ++ (Database.textLiteral t.text ++
      (", " ++ (Database.textLiteral newName ++ if t.column?.isSome then ", 'COLUMN'"
        else "")))] := by
  have written : Rendering.literal (.text newName) = .ok (Database.textLiteral newName) := rfl
  cases column_eq : t.column? with
  | none =>
    have text_eq : t.text = t.tableText := by rw [text, column_eq]
    simp only [renamedTo, column_eq, Registry.render, Rendering.renameTable, qualified_texts,
      procedure, text_eq,
      tableText_eq, written, Option.isSome_none, Bool.false_eq_true, if_false, String.append_empty,
      ← String.append_assoc]
    rfl
  | some column =>
    obtain ⟨parts, joined, text_eq⟩ := joined_eq column_eq
    simp only [renamedTo, column_eq, Registry.render, Rendering.renameColumn, procedure, joined,
      ← text_eq, written, Option.isSome_some, if_true, ← String.append_assoc]
    rfl

theorem render_of_mysql (alters : db.dialect? = some .mysql ∨ db.dialect? = some .mariadb)
    (table : t.column? = none) :
    Registry.render db (t.renamedTo newName type) =
      .ok ["RENAME TABLE " ++ (db.qualify t.schema t.table ++
        (" TO " ++ db.qualify t.schema newName))] := by
  simp only [renamedTo, table, Registry.render, Rendering.renameTable, qualified_texts,
    ← String.append_assoc]
  rcases alters with h | h <;> rw [h] <;> rfl

theorem render_table_of_others (no_procedure : db.dialect? ≠ some .mssql)
    (no_mysql : ¬ (db.dialect? = some .mysql ∨ db.dialect? = some .mariadb))
    (table : t.column? = none) :
    Registry.render db (t.renamedTo newName type) =
      .ok ["ALTER TABLE " ++ (db.qualify t.schema t.table ++
        (" RENAME TO " ++ db.quote newName))] := by
  obtain ⟨not_mysql, not_mariadb⟩ := not_or.mp no_mysql
  simp only [renamedTo, table, Registry.render, Rendering.renameTable, qualified_texts,
    ← String.append_assoc]
  rfl

theorem render_column_of_others (no_procedure : db.dialect? ≠ some .mssql) {column : String}
    (of_table : t.column? = some column) : Registry.render db (t.renamedTo newName type) =
      .ok ["ALTER TABLE " ++ (db.qualify t.schema t.table ++
        (" RENAME COLUMN " ++ (db.quote column ++
        (" TO " ++ db.quote newName))))] := by
  simp only [renamedTo, of_table, Registry.render, Rendering.renameColumn, qualified_texts,
    ← String.append_assoc]
  rfl

theorem exists_render (db : Database) (t : RenameTarget) (newName : String) (type : Value) :
    ∃ sql, Registry.render db (t.renamedTo newName type) = .ok [sql] := by
  by_cases procedure : db.dialect? = some .mssql
  · exact ⟨_, render_of_mssql procedure⟩
  · cases of_table : t.column? with
    | none =>
      by_cases mysql : db.dialect? = some .mysql ∨ db.dialect? = some .mariadb
      · exact ⟨_, render_of_mysql mysql of_table⟩
      · exact ⟨_, render_table_of_others procedure mysql of_table⟩
    | some column => exact ⟨_, render_column_of_others procedure of_table⟩

theorem rest_eq_of_ok {lead rest rest' : String}
    (same : (Except.ok [lead ++ rest] : Except RenderError (List String)) = .ok [lead ++ rest']) :
    rest = rest' :=
  (String.append_right_inj lead).mp (List.singleton_inj.mp (Except.ok.inj same))

section Same

variable {type type' : Value}
  (same : Registry.render db (t.renamedTo newName type) =
    Registry.render db (t'.renamedTo newName' type'))

include same

theorem isTakenFor_of_mssql (procedure : db.dialect? = some .mssql) :
    newName = newName' ∧ t.IsTakenFor db t' := by
  have ends (c : Option String) : (if c.isSome then ", 'COLUMN'" else "").toList.head? ≠
      some '\'' := by
    cases c <;> simp
  rw [render_of_mssql procedure, render_of_mssql procedure] at same
  obtain ⟨same_text, same_rest⟩ := textLiteral_append_inj (by simp) (by simp) (rest_eq_of_ok same)
  obtain ⟨same_name, same_end⟩ :=
    textLiteral_append_inj (ends _) (ends _) ((String.append_right_inj _).mp same_rest)
  refine ⟨same_name, (if_pos procedure).mpr ⟨?_, same_text⟩⟩
  cases of_table : t.column? <;> cases of_table' : t'.column?
    <;> simp [of_table, of_table'] at same_end ⊢

variable (sound : db.style.IsSound) (whole : db.style.splitsSchema = false)
  (no_procedure : db.dialect? ≠ some .mssql)

include sound whole no_procedure

theorem same_of_tables (table : t.column? = none) (table' : t'.column? = none) :
    newName = newName' ∧ t.Same t' := by
  by_cases mysql : db.dialect? = some .mysql ∨ db.dialect? = some .mariadb
  · rw [render_of_mysql mysql table, render_of_mysql mysql table'] at same
    obtain ⟨same_schema, same_table, same_rest⟩ :=
      Database.qualify_space_inj sound (by simp) (by simp) whole (rest_eq_of_ok same)
    exact ⟨(Database.qualify_inj sound whole ((String.append_right_inj _).mp same_rest)).2,
      same_schema, same_table, table.trans table'.symm⟩
  · rw [render_table_of_others no_procedure mysql table,
      render_table_of_others no_procedure mysql table'] at same
    obtain ⟨same_schema, same_table, same_rest⟩ :=
      Database.qualify_space_inj sound (by simp) (by simp) whole (rest_eq_of_ok same)
    exact ⟨Database.quote_inj sound ((String.append_right_inj _).mp same_rest),
      same_schema, same_table, table.trans table'.symm⟩

theorem same_of_columns {column column' : String} (of_table : t.column? = some column)
    (of_table' : t'.column? = some column') : newName = newName' ∧ t.Same t' := by
  rw [render_column_of_others no_procedure of_table, render_column_of_others no_procedure of_table']
    at same
  obtain ⟨same_schema, same_table, same_rest⟩ :=
    Database.qualify_space_inj sound (by simp) (by simp) whole (rest_eq_of_ok same)
  obtain ⟨rfl, same_end⟩ :=
    Database.quote_space_inj sound (by simp) (by simp) ((String.append_right_inj _).mp same_rest)
  exact ⟨Database.quote_inj sound ((String.append_right_inj _).mp same_end),
    same_schema, same_table, of_table.trans of_table'.symm⟩

theorem not_table_and_column {column : String} (table : t.column? = none)
    (of_table : t'.column? = some column) :
    False := by
  rw [render_column_of_others no_procedure of_table] at same
  by_cases mysql : db.dialect? = some .mysql ∨ db.dialect? = some .mariadb
  · rw [render_of_mysql mysql table] at same
    simpa using congrArg String.toList (List.singleton_inj.mp (Except.ok.inj same))
  · rw [render_table_of_others no_procedure mysql table] at same
    obtain ⟨-, -, same_rest⟩ :=
      Database.qualify_space_inj sound (by simp) (by simp) whole (rest_eq_of_ok same)
    simpa using congrArg String.toList same_rest

theorem same_of_others : newName = newName' ∧ t.Same t' := by
  cases of_table : t.column? with
  | none =>
    cases of_table' : t'.column? with
    | none => exact same_of_tables same sound whole no_procedure of_table of_table'
    | some column' =>
      exact (not_table_and_column same sound whole no_procedure of_table of_table').elim
  | some column =>
    cases of_table' : t'.column? with
    | none =>
      exact (not_table_and_column same.symm sound whole no_procedure of_table' of_table).elim
    | some column' => exact same_of_columns same sound whole no_procedure of_table of_table'

end Same

theorem render_congr (own : db.HasOwnStyle) (taken : t.IsTakenFor db t') (type type' : Value) :
    Registry.render db (t.renamedTo newName type) = Registry.render db
      (t'.renamedTo newName type') := by
  by_cases procedure : db.dialect? = some .mssql
  · obtain ⟨kind, same_text⟩ := (if_pos procedure).mp taken
    rw [render_of_mssql procedure, render_of_mssql procedure, kind, same_text]
  · obtain ⟨kind, style, other⟩ := own.exists_kind procedure
    have whole : db.style.splitsSchema = false := style ▸ Identifier.Style.splitsSchema_of other
    obtain ⟨same_schema, same_table, same_column⟩ := (if_neg procedure).mp taken
    cases of_table : t.column? with
    | none =>
      have of_table' := same_column.symm.trans of_table
      by_cases mysql : db.dialect? = some .mysql ∨ db.dialect? = some .mariadb
      · rw [render_of_mysql mysql of_table, render_of_mysql mysql of_table', same_table,
          Database.qualify_congr whole same_schema, Database.qualify_congr whole same_schema]
      · rw [render_table_of_others procedure mysql of_table,
          render_table_of_others procedure mysql of_table',
          same_table, Database.qualify_congr whole same_schema]
    | some column =>
      have of_table' := same_column.symm.trans of_table
      rw [render_column_of_others procedure of_table, render_column_of_others procedure of_table',
        same_table, Database.qualify_congr whole same_schema]

theorem render_eq_iff (own : db.HasOwnStyle) (type type' : Value) :
    Registry.render db (t.renamedTo newName type) = Registry.render db
      (t'.renamedTo newName' type') ↔
      newName = newName' ∧ t.IsTakenFor db t' := by
  constructor
  · intro same
    by_cases procedure : db.dialect? = some .mssql
    · exact isTakenFor_of_mssql same procedure
    · obtain ⟨kind, style, other⟩ := own.exists_kind procedure
      have sound : db.style.IsSound := style ▸ Identifier.Style.isSound_of kind
      have whole : db.style.splitsSchema = false := style ▸ Identifier.Style.splitsSchema_of other
      obtain ⟨same_name, same_target⟩ := same_of_others same sound whole procedure
      exact ⟨same_name, (if_neg procedure).mpr same_target⟩
  · rintro ⟨rfl, taken⟩
    exact render_congr own taken type type'

theorem append_point_inj {a a' b b' : String} (no_point : '.' ∉ b.toList)
    (no_point' : '.' ∉ b'.toList)
    (same : a ++ "." ++ b = a' ++ "." ++ b') : a = a' ∧ b = b' := by
  have same_chars : a.toList ++ '.' :: b.toList = a'.toList ++ '.' :: b'.toList := by
    simpa using congrArg String.toList same
  -- of the two texts before the last points one starts with the other
  rcases List.append_eq_append_iff.mp same_chars with ⟨more, before, behind⟩
    | ⟨more, before, behind⟩
  · rcases List.cons_eq_append_iff.mp behind with ⟨rfl, last⟩ | ⟨inner, rfl, last⟩
    · rw [List.append_nil] at before
      exact ⟨String.toList_inj.mp before.symm, String.toList_inj.mp (List.cons.inj last).2.symm⟩
    · exact absurd (last ▸ List.mem_append_right inner List.mem_cons_self) no_point
  · rcases List.cons_eq_append_iff.mp behind with ⟨rfl, last⟩ | ⟨inner, rfl, last⟩
    · rw [List.append_nil] at before
      exact ⟨String.toList_inj.mp before, String.toList_inj.mp (List.cons.inj last).2⟩
    · exact absurd (last ▸ List.mem_append_right inner List.mem_cons_self) no_point'

theorem same_of_tableText (no_point : '.' ∉ t.table.toList) (no_point' : '.' ∉ t'.table.toList)
    (same : t.tableText = t'.tableText) :
    t.schema.filter (· ≠ "") = t'.schema.filter (· ≠ "") ∧ t.table = t'.table := by
  have has_point (s table : String) : '.' ∈ (s ++ "." ++ table).toList := by simp
  unfold tableText at same
  cases given : t.schema.filter (· ≠ "") <;> cases given' : t'.schema.filter (· ≠ "")
    <;> rw [given, given'] at same
  case none.none => exact ⟨rfl, same⟩
  case none.some s' =>
    have same : t.table = s' ++ "." ++ t'.table := same
    exact absurd (has_point s' t'.table) (same ▸ no_point)
  case some.none s =>
    have same : s ++ "." ++ t.table = t'.table := same
    exact absurd (has_point s t.table) (same ▸ no_point')
  case some.some s s' =>
    obtain ⟨rfl, same_table⟩ := append_point_inj no_point no_point' same
    exact ⟨rfl, same_table⟩

theorem same_of_text (point_free : t.IsPointFree) (point_free' : t'.IsPointFree)
    (kind : t.column?.isSome = t'.column?.isSome) (same : t.text = t'.text) : t.Same t' := by
  unfold text at same
  cases of_table : t.column? <;> cases of_table' : t'.column?
    <;> rw [of_table, of_table'] at same kind
  case none.none =>
    obtain ⟨same_schema, same_table⟩ := same_of_tableText point_free.1 point_free'.1 same
    exact ⟨same_schema, same_table, of_table.trans of_table'.symm⟩
  case none.some => cases kind
  case some.none => cases kind
  case some.some column column' =>
    obtain ⟨same_before, rfl⟩ :=
      append_point_inj (point_free.2 _ of_table) (point_free'.2 _ of_table') same
    obtain ⟨same_schema, same_table⟩ := same_of_tableText point_free.1 point_free'.1 same_before
    exact ⟨same_schema, same_table, of_table.trans of_table'.symm⟩

theorem Same.text_eq (same : t.Same t') : t.text = t'.text := by
  obtain ⟨same_schema, same_table, same_column⟩ := same
  rw [text, text, tableText, tableText, same_schema, same_table, same_column]

theorem isTakenFor_iff_same (told : db.dialect? ≠ some .mssql ∨ t.IsPointFree ∧ t'.IsPointFree) :
    t.IsTakenFor db t' ↔ t.Same t' := by
  unfold IsTakenFor
  split
  next procedure =>
    obtain ⟨point_free, point_free'⟩ := told.resolve_left fun other => other procedure
    constructor
    · exact fun ⟨kind, same⟩ => same_of_text point_free point_free' kind same
    · exact fun same => ⟨congrArg Option.isSome same.2.2, same.text_eq⟩
  next => exact Iff.rfl

/-- A statement that renames something is for nothing else. Two of them are the same only if they
give the same name to what the database takes for the same: outside SQL Server to the same column or
table of the same schema; there too, if no name but that of a schema has a point. -/
theorem generate_renamedTo_eq_iff (own : db.HasOwnStyle) (t t' : RenameTarget)
    (newName newName' : String)
    (type type' : Value) :
    ∃ sql sql', Registry.bundled.generate db (t.renamedTo newName type) = .ok [sql] ∧
      Registry.bundled.generate db (t'.renamedTo newName' type') = .ok [sql'] ∧
      (sql = sql' ↔ newName = newName' ∧ t.IsTakenFor db t') ∧
      (db.dialect? ≠ some .mssql ∨ t.IsPointFree ∧ t'.IsPointFree →
        (t.IsTakenFor db t' ↔ t.Same t')) := by
  obtain ⟨sql, rendered⟩ := exists_render db t newName type
  obtain ⟨sql', rendered'⟩ := exists_render db t' newName' type'
  refine ⟨sql, sql', generate_renamedTo.trans rendered, generate_renamedTo.trans rendered', ?_, ?_⟩
  · rw [← render_eq_iff own type type', rendered, rendered', Except.ok.injEq, List.singleton_inj]
  · exact isTakenFor_iff_same

theorem generate_renamedTo_eq_iff_staff : (Change.warehouse .postgresql).HasOwnStyle ∧
    Registry.bundled.generate (Change.warehouse .postgresql)
      (.renameTable .null (.text "hr.staff") (.text "people")) ≠
      Registry.bundled.generate (Change.warehouse .postgresql)
        (.renameTable (.text "hr") (.text "staff") (.text "people")) := by
  have own : (Change.warehouse .postgresql).HasOwnStyle := .inl rfl
  refine ⟨own, fun same => ?_⟩
  obtain ⟨sql, sql', rendered, rendered', same_iff, told⟩ :=
    generate_renamedTo_eq_iff own { schema := none, table := "hr.staff" }
      { schema := some "hr", table := "staff" }
      "people" "people" .null .null
  have same_sql := Except.ok.inj (rendered.symm.trans (same.trans rendered'))
  obtain ⟨-, taken⟩ := same_iff.mp (List.singleton_inj.mp same_sql)
  obtain ⟨-, same_table, -⟩ := (told (.inl (by decide))).mp taken
  exact absurd same_table (by decide)

/-- On SQL Server it is, and nothing tells the two statements apart. -/
theorem same_rename_of_point :
    Registry.bundled.generate (Change.warehouse .mssql)
      (.renameTable .null (.text "hr.staff") (.text "people")) =
      .ok ["EXEC sp_rename 'hr.staff', 'people'"] ∧
    Registry.bundled.generate (Change.warehouse .mssql)
      (.renameTable (.text "hr") (.text "staff") (.text "people")) =
      .ok ["EXEC sp_rename 'hr.staff', 'people'"] := by
  constructor <;> rfl

end RenameTarget

end SchemaMigration
