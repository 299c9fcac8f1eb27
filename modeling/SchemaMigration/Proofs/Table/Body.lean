import SchemaMigration.Proofs.Table.Definition

/-! How a new table is written. Between the parentheses stand the columns in order, then the primary
key if it does not stand with its column, and then, column after column, a foreign key and a unique
constraint; every fact that was declared of a column is told once. -/

namespace SchemaMigration

def hasInlineKey (db : Database) (columns : List Column) : Bool :=
  db.dialect? == some .sqlite &&
    match keyColumns columns with
    | [c] => c.isGenerated
    | _ => false

theorem hasInlineKey_iff {db : Database} {columns : List Column} :
    hasInlineKey db columns = true ↔
      db.dialect? = some .sqlite ∧ ∃ k, keyColumns columns = [k] ∧ k.isGenerated = true := by
  unfold hasInlineKey
  match keyColumns columns with
  | [] => simp
  | [k] => simp
  | k :: l :: more => simp

def inlineName? (db : Database) (columns : List Column) : Option Name :=
  if hasInlineKey db columns then (keyColumns columns).head?.map Column.name else none

theorem isSome_inlineName? (db : Database) (columns : List Column) :
    (inlineName? db columns).isSome = hasInlineKey db columns := by
  unfold inlineName?
  cases inline : hasInlineKey db columns with
  | false => rfl
  | true =>
    obtain ⟨-, k, keys, -⟩ := hasInlineKey_iff.mp inline
    simp [keys]

theorem mem_keyColumns_iff {columns : List Column} {c : Column} :
    c ∈ keyColumns columns ↔ c ∈ columns ∧ c.isKey = true := List.mem_filter

theorem isGenerated_of_inline {db : Database} {columns : List Column} {c : Column}
    (hc : c ∈ columns)
    (inline : (c.isKey && hasInlineKey db columns) = true) : c.isGenerated = true := by
  obtain ⟨key, inline⟩ := Bool.and_eq_true_iff.mp inline
  obtain ⟨-, k, keys, generated⟩ := hasInlineKey_iff.mp inline
  have only : c ∈ [k] := keys ▸ mem_keyColumns_iff.mpr ⟨hc, key⟩
  rwa [List.mem_singleton.mp only]

namespace Column

def generationClauses (db : Database) (inlineKey : Bool) (c : Column) : List String :=
  if inlineKey then ["PRIMARY KEY", "AUTOINCREMENT"]
  else if c.isGenerated then Rendering.generatedClause db
  else []

def defaultClauses (db : Database) (c : Column) : List String :=
  if c.isGenerated then [] else ((c.sqlDefault db).map ("DEFAULT " ++ ·)).toList

def notNullClauses (c : Column) : List String := if c.isNotNull || c.isKey then ["NOT NULL"] else []

/-- The name and the type of a column, and what else is to be said of it. -/
def definition (db : Database) (inlineKey : Bool) (c : Column) : String :=
  Text.join " " ([db.quote c.name.display, c.storedType db] ++ c.generationClauses db inlineKey ++
    c.defaultClauses db ++ c.notNullClauses)

end Column

def quotedNames (db : Database) (columns : List Column) : String :=
  Text.join ", " (columns.map fun c => db.quote c.name.display)

def namedClause (db : Database) (name : Name) (clause : String) : String :=
  if name.isTrue then "CONSTRAINT " ++ db.quote name.display ++ " " ++ clause else clause

def keyClauses (db : Database) (columns : List Column) : List String :=
  if keyColumns columns = [] ∨ hasInlineKey db columns then []
  else [namedClause db (keyName columns) ("PRIMARY KEY (" ++
    quotedNames db (keyColumns columns) ++ ")")]

def foreignKeyText (db : Database) (k : ForeignKey) : String :=
  "CONSTRAINT " ++ db.quote k.name.display ++ " FOREIGN KEY (" ++ db.quote k.column.display ++
    ") REFERENCES " ++
    k.references.display ++
    (if k.deleteCascade.isTrue then " ON DELETE CASCADE" else "") ++
    (if Rendering.defers db && k.deferrable.isTrue then " DEFERRABLE" else "") ++
    (if Rendering.defers db && k.initiallyDeferred.isTrue then " INITIALLY DEFERRED" else "")

/-- What a column is bound to by clauses of their own. -/
def Column.constraintClauses (db : Database) (c : Column) : List String :=
  (c.foreignKey?.map (foreignKeyText db)).toList ++
    if c.isUnique then
      [namedClause db c.uniqueName ("UNIQUE (" ++ quotedNames db [c] ++ ")")] else []

def tableClauses (db : Database) (columns : List Column) : List String :=
  columns.map (fun c => c.definition db (c.isKey && hasInlineKey db columns)) ++
    keyClauses db columns ++
    columns.flatMap (Column.constraintClauses db)

def IsNameOrNone (name : Name) : Prop := name.isTrue = true → ∃ s, name = .text s

/-- Whether the constraints of a table have names that can be written. -/
structure HaveNames (db : Database) (columns : List Column) : Prop where
  key : keyClauses db columns ≠ [] → IsNameOrNone (keyName columns)
  unique : ∀ c ∈ columns, c.isUnique = true → IsNameOrNone c.uniqueName

namespace Rendering

variable {db : Database}

theorem part_eq_ok_iff {α : Type} {result : Except Misfit α} {a : α} :
    part result = .ok a ↔ result = .ok a := by
  cases result <;> simp [part, Except.mapError]

theorem quoted_eq_ok_iff {name : Name} {s : String} :
    quoted db name = .ok s ↔ (∃ t, name = .text t) ∧ s = db.quote name.display := by
  cases name with
  | text t =>
    exact ⟨fun h => ⟨⟨t, rfl⟩, (Except.ok.inj h).symm⟩, fun h => congrArg Except.ok h.2.symm⟩
  | _ => exact iff_of_false nofun (by simp)

theorem quoted_of_text {name : Name} (written : ∃ t, name = .text t) :
    quoted db name = .ok (db.quote name.display) :=
  quoted_eq_ok_iff.mpr ⟨written, rfl⟩

theorem named_eq_ok_iff {name : Name} {clause s : String} :
    named db name clause = .ok s ↔ IsNameOrNone name ∧ s = namedClause db name clause := by
  unfold named namedClause IsNameOrNone
  cases name.isTrue with
  | false => simp [eq_comm]
  | true =>
    cases name with
    | text t => simp [quoted, part, Except.map, Except.mapError, Value.display, eq_comm]
    | _ => simp [quoted, part, Except.map, Except.mapError, Database.quoteName, Value.nameText]

theorem quotedAll_names {columns : List Column} (written : ∀ c ∈ columns, ∃ s, c.name = .text s) :
    quotedAll db (columns.map Column.name) =
      .ok (columns.map fun c => db.quote c.name.display) := by
  induction columns with
  | nil => rfl
  | cons c rest ih =>
    obtain ⟨first, others⟩ := List.forall_mem_cons.mp written
    rw [List.map_cons, quotedAll, quoted_of_text first, ih others]
    rfl

theorem columnList_names {columns : List Column} (written : ∀ c ∈ columns, ∃ s, c.name = .text s) :
    columnList db (columns.map Column.name) = .ok (quotedNames db columns) := by
  rw [columnList, quotedAll_names written]
  rfl

variable {schema table : Name} {columns : List Column} {c : Column}

open TableDefinition (ofColumns)

section Columns

variable (named : ∀ d ∈ columns, d.IsNamed) (distinct : (columns.map Column.name).Nodup)
include named distinct

theorem columnDefinition_ofColumns (hc : c ∈ columns) {inlineKey : Bool}
    (generated : inlineKey = true → c.isGenerated = true) :
    columnDefinition (ofColumns db schema table columns) c.name db inlineKey =
      .ok (c.definition db inlineKey) := by
  obtain ⟨s, name_eq⟩ := (named c hc).name
  have type_eq : typeOf (ofColumns db schema table columns) c.name =
      .ok (.text (c.storedType db)) := by
    unfold typeOf
    rw [TableDefinition.typeAt_ofColumns named distinct hc, name_eq]
    rfl
  unfold columnDefinition
  rw [type_eq, TableDefinition.isGenerated_ofColumns named distinct hc,
    quoted_of_text (named c hc).name, TableDefinition.isNotNull_ofColumns named distinct hc,
    TableDefinition.isKeyColumn_ofColumns named distinct hc,
    TableDefinition.defaultAt_ofColumns named distinct hc]
  have key_eq : (if inlineKey then "PRIMARY KEY" ::
    (if c.isGenerated then ["AUTOINCREMENT"] else [])
      else if c.isGenerated then generatedClause db else []) =
          c.generationClauses db inlineKey := by
    cases inlineKey with
    | true => simp [Column.generationClauses, generated]
    | false => rfl
  have default_eq : defaultClause (((c.sqlDefault db).map Value.text).getD .null) c.isGenerated =
      c.defaultClauses db := by
    unfold defaultClause Column.defaultClauses
    cases c.isGenerated <;> cases c.sqlDefault db <;> rfl
  dsimp only
  rw [key_eq, default_eq]
  unfold Column.definition Column.notNullClauses
  cases c.isNotNull <;> rfl

theorem columnDefinitions_ofColumns {inlineKey : Option Name} {inlined : Column → Bool}
    (isInlined : ∀ c ∈ columns, (inlineKey.map c.name.same).getD false = inlined c)
    (generated : ∀ c ∈ columns, inlined c = true → c.isGenerated = true)
    {some_columns : List Column}
    (among : ∀ c ∈ some_columns, c ∈ columns) :
    columnDefinitions (ofColumns db schema table columns) db inlineKey
      (some_columns.map Column.name) =
      .ok (some_columns.map fun c => c.definition db (inlined c)) := by
  induction some_columns with
  | nil => rfl
  | cons c rest ih =>
    obtain ⟨hc, among_rest⟩ := List.forall_mem_cons.mp among
    have definition : columnDefinition (ofColumns db schema table columns) c.name db (inlined c) =
        .ok (c.definition db (inlined c)) :=
          columnDefinition_ofColumns named distinct hc (generated c hc)
    rw [List.map_cons, columnDefinitions, isInlined c hc, definition, ih among_rest]
    rfl

theorem inlineKey?_ofColumns :
    inlineKey? (ofColumns db schema table columns) db = .ok (inlineName? db columns) := by
  unfold inlineKey? inlineName? hasInlineKey
  cases sqlite : db.dialect? == some .sqlite with
  | false => simp [bne, sqlite]
  | true =>
    have names : (ofColumns db schema table columns).keyNames =
      .ok ((keyColumns columns).map Column.name) := rfl
    have key_generated : ∀ k ∈ keyColumns columns,
        (ofColumns db schema table columns).isGenerated k.name = k.isGenerated := fun k hk =>
      TableDefinition.isGenerated_ofColumns named distinct (List.mem_of_mem_filter hk)
    simp only [bne, sqlite, names]
    generalize keyColumns columns = keys at key_generated ⊢
    match keys with
    | [] => rfl
    | [k] =>
      change Except.ok (if (ofColumns db schema table columns).isGenerated k.name then some k.name
        else none) = _
      rw [key_generated k List.mem_cons_self]
      rfl
    | k :: l :: more => rfl

theorem same_inlineKey (hc : c ∈ columns) :
    ((inlineName? db columns).map c.name.same).getD false =
      (c.isKey && hasInlineKey db columns) := by
  unfold inlineName?
  cases inline : hasInlineKey db columns with
  | false => simp
  | true =>
    obtain ⟨-, k, keys, -⟩ := hasInlineKey_iff.mp inline
    have own : c = k ↔ c.isKey = true := by
      have in_key : c ∈ keyColumns columns ↔ c ∈ columns ∧ c.isKey = true := mem_keyColumns_iff
      simpa [keys, hc] using in_key
    have hk : k ∈ columns :=
      List.mem_of_mem_filter (keys ▸ List.mem_cons_self : k ∈ keyColumns columns)
    simp only [keys, if_true, List.head?_cons, Option.map_some, Option.getD_some, Bool.and_true]
    rw [Bool.eq_iff_iff, TableDefinition.same_name_iff named distinct hc hk, own]

end Columns

theorem keyClause_ofColumns_eq_ok_iff (named : ∀ c ∈ columns, c.IsNamed) {clauses : List String} :
    keyClause (ofColumns db schema table columns) db (inlineName? db columns) = .ok clauses ↔
      (keyClauses db columns ≠ [] → IsNameOrNone (keyName columns)) ∧
        clauses = keyClauses db columns := by
  have unwritten_iff : ((inlineName? db columns).isSome ||
    !(ofColumns db schema table columns).hasKey) = true ↔
      keyColumns columns = [] ∨ hasInlineKey db columns = true := by
    have key : (ofColumns db schema table columns).hasKey =
      !((keyColumns columns).map Column.name).isEmpty := rfl
    rw [isSome_inlineName?, key]
    simp [or_comm]
  unfold keyClause keyClauses
  by_cases unwritten : keyColumns columns = [] ∨ hasInlineKey db columns = true
  · rw [if_pos (unwritten_iff.mpr unwritten), if_pos unwritten]
    simp [eq_comm]
  · have names : (ofColumns db schema table columns).keyNames =
      .ok ((keyColumns columns).map Column.name) := rfl
    have key_name : (ofColumns db schema table columns).keyName = keyName columns := rfl
    have listed : columnList db ((keyColumns columns).map Column.name) =
        .ok (quotedNames db (keyColumns columns)) :=
      columnList_names fun c hc => (named c (List.mem_of_mem_filter hc)).name
    rw [if_neg (mt unwritten_iff.mp unwritten), if_neg unwritten, names, key_name]
    simp only [part, Except.mapError, bind_eq_ok_iff, named_eq_ok_iff, pure_eq_ok_iff]
    simp [listed]

theorem constraintClauses_append (first second : List ColumnConstraint) :
    constraintClauses db (first ++ second) = (do
      let clauses ← constraintClauses db first
      let more ← constraintClauses db second
      return clauses ++ more) := by
  induction first with
  | nil =>
    rw [List.nil_append, constraintClauses]
    cases constraintClauses db second <;> rfl
  | cons k rest ih =>
    cases k with
    | foreignKey key =>
      rw [List.cons_append, constraintClauses, constraintClauses, ih]
      cases foreignKeyClause key db <;> cases constraintClauses db rest
        <;> cases constraintClauses db second <;> rfl
    | unique name columns =>
      rw [List.cons_append, constraintClauses, constraintClauses, ih]
      cases uniqueClause name columns db <;> cases constraintClauses db rest <;>
        cases constraintClauses db second <;> rfl
    | notNull column => exact ih
    | generated column => exact ih

theorem constraintClauses_foreignKey (isNamed : c.IsNamed) :
    constraintClauses db (c.foreignKey?.map .foreignKey).toList =
      .ok (c.foreignKey?.map (foreignKeyText db)).toList := by
  cases key : c.foreignKey? with
  | none => rfl
  | some k =>
    have column : k.column = c.name := by
      obtain ⟨_, -, rfl⟩ := Option.map_eq_some_iff.mp key
      rfl
    have clause : foreignKeyClause k db = .ok (foreignKeyText db k) := by
      unfold foreignKeyClause
      rw [quoted_of_text (isNamed.foreignKey k key), quoted_of_text (column ▸ isNamed.name)]
      rfl
    simp only [Option.map_some, Option.toList_some, constraintClauses, clause]
    rfl

theorem constraintClauses_unique_eq_ok_iff (isNamed : c.IsNamed) {clauses : List String} :
    constraintClauses db (if c.isUnique then [.unique c.uniqueName [c.name]] else []) =
      .ok clauses ↔
      (c.isUnique = true → IsNameOrNone c.uniqueName) ∧
        clauses =
          if c.isUnique then
            [namedClause db c.uniqueName ("UNIQUE (" ++ quotedNames db [c] ++ ")")] else [] := by
  cases c.isUnique with
  | false => simp [constraintClauses, eq_comm]
  | true =>
    have column : columnList db [c.name] = .ok (quotedNames db [c]) :=
      columnList_names (List.forall_mem_singleton.mpr isNamed.name)
    simp only [if_true, constraintClauses, uniqueClause, column, bind_eq_ok_iff, named_eq_ok_iff,
      pure_eq_ok_iff]
    simp

theorem constraintClauses_column_eq_ok_iff (isNamed : c.IsNamed) {clauses : List String} :
    constraintClauses db c.tableConstraints = .ok clauses ↔
      (c.isUnique = true → IsNameOrNone c.uniqueName) ∧ clauses = c.constraintClauses db := by
  have not_null : constraintClauses db (if c.isNotNull then [.notNull c.name] else []) =
      .ok [] := by
    cases c.isNotNull <;> rfl
  have generated : constraintClauses db (if c.isGenerated then [.generated c.name] else []) =
      .ok [] := by
    cases c.isGenerated <;> rfl
  rw [Column.tableConstraints, constraintClauses_append, constraintClauses_append,
    constraintClauses_append, not_null, generated, constraintClauses_foreignKey isNamed]
  simp only [bind_eq_ok_iff, constraintClauses_unique_eq_ok_iff isNamed, pure_eq_ok_iff]
  constructor
  · rintro ⟨_, ⟨_, ⟨_, none, _, key, rfl⟩, _, ⟨own_name, rfl⟩, rfl⟩, _, nothing, rfl⟩
    cases none
    cases key
    cases nothing
    exact ⟨own_name, List.append_nil _⟩
  · rintro ⟨own_name, rfl⟩
    exact ⟨_, ⟨_, ⟨_, rfl, _, rfl, rfl⟩, _, ⟨own_name, rfl⟩, rfl⟩, _, rfl, (List.append_nil _).symm⟩

theorem constraintClauses_columns_eq_ok_iff (named : ∀ c ∈ columns, c.IsNamed)
    {clauses : List String} :
    constraintClauses db (columns.flatMap Column.tableConstraints) = .ok clauses ↔
      (∀ c ∈ columns, c.isUnique = true → IsNameOrNone c.uniqueName) ∧
        clauses = columns.flatMap (Column.constraintClauses db) := by
  induction columns generalizing clauses with
  | nil =>
    rw [List.flatMap_nil, constraintClauses]
    exact pure_eq_ok_iff.trans (by simp)
  | cons c rest ih =>
    obtain ⟨first, others⟩ := List.forall_mem_cons.mp named
    rw [List.flatMap_cons, constraintClauses_append, bind_eq_ok_iff]
    simp only [constraintClauses_column_eq_ok_iff first, bind_eq_ok_iff, ih others,
      List.forall_mem_cons, pure_eq_ok_iff, List.flatMap_cons]
    constructor
    · rintro ⟨_, ⟨own_name, rfl⟩, _, ⟨other_names, rfl⟩, rfl⟩
      exact ⟨⟨own_name, other_names⟩, rfl⟩
    · rintro ⟨⟨own_name, other_names⟩, rfl⟩
      exact ⟨_, ⟨own_name, rfl⟩, _, ⟨other_names, rfl⟩, rfl⟩

theorem tableBody_ofColumns_eq_ok_iff (named : ∀ c ∈ columns, c.IsNamed)
    (distinct : (columns.map Column.name).Nodup) {body : List String} :
    tableBody (ofColumns db schema table columns) db = .ok body ↔
      HaveNames db columns ∧ body = tableClauses db columns := by
  have names : part (ofColumns db schema table columns).columnNames =
    .ok (columns.map Column.name) := rfl
  have constraints : (ofColumns db schema table columns).constraints =
    columns.flatMap Column.tableConstraints := rfl
  have definitions : columnDefinitions (ofColumns db schema table columns) db
    (inlineName? db columns)
      (columns.map Column.name) =
        .ok (columns.map fun c => c.definition db (c.isKey && hasInlineKey db columns)) :=
    columnDefinitions_ofColumns named distinct (fun c hc => same_inlineKey named distinct hc)
      (fun c hc => isGenerated_of_inline hc) fun c hc => hc
  unfold tableBody
  rw [inlineKey?_ofColumns named distinct, names, constraints]
  simp only [bind_eq_ok_iff, constraintClauses_columns_eq_ok_iff named, pure_eq_ok_iff]
  constructor
  · rintro ⟨_, inline, _, listed, _, defined, _, keyed, _, ⟨unique_names, rfl⟩, rfl⟩
    cases inline
    cases listed
    cases definitions.symm.trans defined
    obtain ⟨key_name, rfl⟩ := (keyClause_ofColumns_eq_ok_iff named).mp keyed
    exact ⟨⟨key_name, unique_names⟩, rfl⟩
  · rintro ⟨have_names, rfl⟩
    exact ⟨_, rfl, _, rfl, _, definitions, _,
      (keyClause_ofColumns_eq_ok_iff named).mpr ⟨have_names.key, rfl⟩, _,
      ⟨have_names.unique, rfl⟩, rfl⟩

theorem columnDefinitions_tablespace (t : TableDefinition) (tablespace : Value)
    (inlineKey : Option Name)
    (names : List Name) :
    columnDefinitions { t with tablespace } db inlineKey names =
      columnDefinitions t db inlineKey names := by
  induction names with
  | nil => rfl
  | cons name rest ih =>
    rw [columnDefinitions, columnDefinitions, ih]
    rfl

theorem tableBody_tablespace (t : TableDefinition) (tablespace : Value) :
    tableBody { t with tablespace } db = tableBody t db := by
  unfold tableBody
  simp only [columnDefinitions_tablespace]
  rfl

theorem createTable_ofColumns_eq_ok_iff (named : ∀ c ∈ columns, c.IsNamed)
    (distinct : (columns.map Column.name).Nodup) {tablespace : Value} {sql : List String} :
    createTable { ofColumns db schema table columns with tablespace } db = .ok sql ↔
      HaveNames db columns ∧ ∃ place, db.qualifyName schema table = .ok place ∧
        sql = ["CREATE TABLE " ++ place ++ " (" ++ Text.join ", " (tableClauses db columns) ++
          ")" ++
          tablespaceClause tablespace db] := by
  have place : qualified db (ofColumns db schema table columns).schema
    (ofColumns db schema table columns).table =
      part (db.qualifyName schema table) := rfl
  unfold createTable
  dsimp only
  rw [tableBody_tablespace, place]
  simp only [bind_eq_ok_iff, tableBody_ofColumns_eq_ok_iff named distinct, part_eq_ok_iff,
    pure_eq_ok_iff]
  constructor
  · rintro ⟨_, ⟨have_names, rfl⟩, place, qualified, rfl⟩
    exact ⟨have_names, place, qualified, rfl⟩
  · rintro ⟨have_names, place, qualified, rfl⟩
    exact ⟨_, ⟨have_names, rfl⟩, place, qualified, rfl⟩

end Rendering

namespace Registry

variable {db : Database}

theorem entries_bundled : bundled.entries =
    commonKinds.map (fun kind => ((kind, anyDialect), render)) ++
      [((.tableRemarks, "postgresql"), render), ((.tableRemarks, "oracle"), render),
        ((.columnRemarks, "postgresql"), render), ((.columnRemarks, "oracle"), render),
        ((.tableRemarks, "mysql"), renderAsAlteration),
        ((.tableRemarks, "mariadb"), renderAsAlteration)] := rfl

theorem find?_bundled {kind : Statement.Kind} (common : kind ∈ commonKinds) (dialect : String) :
    bundled.find? kind dialect = if dialect = anyDialect then some render else none := by
  unfold find?
  rw [entries_bundled]
  by_cases any : dialect = anyDialect
  · cases kind <;> simp [commonKinds, any] at common ⊢
  · cases kind <;> simp [commonKinds, any, Ne.symm any] at common ⊢

theorem generate_bundled {st : Statement} (common : st.kind ∈ commonKinds) :
    bundled.generate db st = render db st := by
  have found : bundled.get? db st = some render := by
    unfold get?
    rw [find?_bundled common, find?_bundled common]
    by_cases any : db.name = anyDialect <;> simp [any]
  rw [generate, found]

theorem generate_ofColumns_eq_ok_iff {schema table : Name} {columns : List Column}
    {tablespace : Value}
    {sql : List String} (named : ∀ c ∈ columns, c.IsNamed)
    (distinct : (columns.map Column.name).Nodup) :
    bundled.generate db
        (.createTable { TableDefinition.ofColumns db schema table columns with tablespace }) =
          .ok sql ↔
      HaveNames db columns ∧ ∃ place, db.qualifyName schema table = .ok place ∧
        sql = ["CREATE TABLE " ++ place ++ " (" ++ Text.join ", " (tableClauses db columns) ++
          ")" ++
          Rendering.tablespaceClause tablespace db] := by
  rw [generate_bundled List.mem_cons_self]
  exact Rendering.createTable_ofColumns_eq_ok_iff named distinct

end Registry

namespace Change

/-- What creates a new table tells everything that was declared of its columns, once and in order.
It can be written unless a name is no text. -/
theorem generate_createTable_eq_ok_iff {db : Database} {registry : Registry} {c : CreateTable}
    {columns : List Column} {statements : List Statement} (declared : c.columns.all = .ok columns)
    (distinct : (columns.map Column.name).Nodup)
    (compiled : (Change.createTable c).validStatements db registry = .ok statements) :
    ∃ t rest tablespace, statements = .createTable t :: rest ∧ (∀ st ∈ rest, st.isRemark = true) ∧
      c.tablespace.trimmed? = .ok tablespace ∧
      ∀ sql, Registry.bundled.generate db (.createTable t) = .ok sql ↔
        HaveNames db columns ∧
          ∃ place, db.qualifyName ((Change.createTable c).resolvedSchema db) c.table = .ok place ∧
            sql = ["CREATE TABLE " ++ place ++ " (" ++ Text.join ", " (tableClauses db columns) ++
              ")" ++
              Rendering.tablespaceClause (.ofText? tablespace) db] := by
  obtain ⟨tablespace, rest, stored, rfl, remarks, named⟩ :=
    validStatements_createTable declared distinct compiled
  exact ⟨_, rest, tablespace, rfl, remarks, stored, fun _ =>
    Registry.generate_ofColumns_eq_ok_iff named distinct⟩

def orderLineColumns : List Column := [
  { name := .text "order_id"
    type := .text "bigint"
    autoIncrement := .bool true
    constraints := some { primaryKey := .bool true, primaryKeyName := .text "pk_lines" } },
  { name := .text "line"
    type := .text "INT"
    default? := .int 1
    constraints := some { primaryKey := .bool true, primaryKeyName := .text "" } },
  { name := .text "sku"
    type := .text "nvarchar (20)"
    default? := .text "none"
    constraints :=
      some { nullable := .bool false, unique := .bool true, uniqueName := .text "uq_sku" } },
  { name := .text "Customer"
    type := .text "INT"
    constraints := some {
      unique := .bool true
      references := .text "customers(id)"
      foreignKeyName := .text "fk_customer"
      deleteCascade := .bool true } }]

def orderLines : CreateTable where
  table := .text "lines"
  schema := .ofDeclared (some "sales")
  columns := .of orderLineColumns

/-- A database of a dialect that is not live. -/
def warehouse (d : Dialect) : Database := { name := d.name, style := .of (some d) }

theorem haveNames_orderLines : HaveNames (warehouse .postgresql) orderLineColumns where
  key _ _ := ⟨"pk_lines", by decide +kernel⟩
  unique c hc := by
    simp only [orderLineColumns, List.mem_cons, List.not_mem_nil, or_false] at hc
    rcases hc with rfl | rfl | rfl | rfl <;> simp [IsNameOrNone, Column.uniqueName, Value.isTrue]

theorem generate_createTable_orderLines :
    ∃ t rest,
      (Change.createTable orderLines).validStatements (warehouse .postgresql) .bundled =
        .ok (.createTable t :: rest) ∧
      Registry.bundled.generate (warehouse .postgresql) (.createTable t) = .ok [
        "CREATE TABLE sales.lines (order_id BIGSERIAL NOT NULL, line INT DEFAULT 1 NOT NULL, " ++
          "sku VARCHAR(20) DEFAULT 'none' NOT NULL, \"Customer\" INT, " ++
          "CONSTRAINT pk_lines PRIMARY KEY (order_id, line), CONSTRAINT uq_sku UNIQUE (sku), " ++
          "CONSTRAINT fk_customer FOREIGN KEY (\"Customer\") REFERENCES customers(id) " ++
          "ON DELETE CASCADE, " ++
          "UNIQUE (\"Customer\"))"] := by
  obtain ⟨statements, compiled⟩ :
      ∃ statements, (Change.createTable orderLines).validStatements (warehouse .postgresql)
          .bundled = .ok statements :=
    exists_eq_ok_of_isSome (by decide +kernel)
  have declared : orderLines.columns.all = .ok orderLineColumns := rfl
  obtain ⟨t, rest, tablespace, rfl, -, stored, written⟩ :=
    generate_createTable_eq_ok_iff declared (by decide +kernel) compiled
  cases stored
  refine ⟨t, rest, compiled, (written _).mpr ⟨haveNames_orderLines, "sales.lines", ?_, ?_⟩⟩
  · decide +kernel
  · decide +kernel

end Change

end SchemaMigration
