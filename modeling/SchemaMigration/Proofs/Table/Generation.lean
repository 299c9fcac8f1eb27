import SchemaMigration.Proofs.Table.Body
import SchemaMigration.Proofs.Table.Spelling

/-! Keys that the database counts up. A whole number that is the only key of a new table and is to
be generated is generated, by its type on PostgreSQL and by a clause elsewhere, and SQLite finds the
plain type it insists on. One type is not among those that are provided for: the smallest one. -/

namespace SchemaMigration

/-- Whether a definition that starts with a name makes the database generate the values: PostgreSQL
has types for it, the others a clause behind the type. -/
def Generates (dialect? : Option Dialect) (name definition : String) : Prop :=
  ∃ type clauses, definition = Text.join " " (name :: type :: clauses) ∧
    match dialect? with
    | some .postgresql => type ∈ ["SMALLSERIAL", "SERIAL", "BIGSERIAL"]
    | some .sqlite => "AUTOINCREMENT" ∈ clauses
    | some .mysql | some .mariadb => "AUTO_INCREMENT" ∈ clauses
    | some .mssql => "IDENTITY" ∈ clauses
    | some .oracle | none => "GENERATED BY DEFAULT AS IDENTITY" ∈ clauses

variable {db : Database} {columns : List Column} {c : Column} {spelling : ColumnType.Spelling}

namespace Column

theorem definition_of_isGenerated (key : c.isKey = true) (generated : c.isGenerated = true)
    (inlineKey : Bool) :
    c.definition db inlineKey =
      Text.join " " (db.quote c.name.display :: c.storedType db ::
        (c.generationClauses db inlineKey ++ ["NOT NULL"])) := by
  simp [definition, defaultClauses, notNullClauses, key, generated]

theorem storedType_of_spelling (generated : c.isGenerated = true)
    (type_eq : c.type = .text spelling.text) :
    c.storedType db = (ColumnType.Mapping.of db.dialect?).resolve spelling.text true := by
  rw [storedType, type_eq, generated]
  rfl

end Column

theorem isKey_of_keyColumns (only : keyColumns columns = [c]) : c.isKey = true :=
  (mem_keyColumns_iff.mp (only ▸ List.mem_cons_self)).2

theorem hasInlineKey_of_keyColumns (only : keyColumns columns = [c])
    (generated : c.isGenerated = true) :
    hasInlineKey db columns = (db.dialect? == some .sqlite) := by
  simp [hasInlineKey, only, generated]

theorem getElem?_tableClauses (only : keyColumns columns = [c])
    (generated : c.isGenerated = true) {i : Nat}
    (at_i : columns[i]? = some c) :
    (tableClauses db columns)[i]? = some (c.definition db (db.dialect? == some .sqlite)) := by
  have in_range : i < columns.length := (List.getElem?_eq_some_iff.mp at_i).1
  rw [tableClauses, hasInlineKey_of_keyColumns only generated, List.append_assoc,
    List.getElem?_append_left (by simpa using in_range), List.getElem?_map, at_i, Option.map_some,
    isKey_of_keyColumns only, Bool.true_and]

theorem exists_join_eq (name type : String) (clauses : List String) :
    ∃ rest, Text.join " " (name :: type :: clauses) = name ++ " " ++ (type ++ rest) := by
  cases clauses with
  | nil => exact ⟨"", by simp [Text.join, String.intercalate_cons_cons]⟩
  | cons clause rest =>
    exact ⟨" " ++ Text.join " " (clause :: rest), by
      simp [Text.join, String.intercalate_cons_cons, String.append_assoc]⟩

theorem not_generates_of_smallint (name parameters : String) (clauses : List String) :
    ¬ Generates (some .postgresql) name
      (Text.join " " (name :: ("SMALLINT" ++ parameters) :: clauses)) := by
  rintro ⟨type, others, written, serial⟩
  obtain ⟨rest, stored_text⟩ := exists_join_eq name ("SMALLINT" ++ parameters) clauses
  obtain ⟨more, serial_text⟩ := exists_join_eq name type others
  rw [stored_text, serial_text, String.append_right_inj] at written
  have letters := congrArg String.toList written
  -- no serial type starts with the letters of the small integer
  simp only [List.mem_cons, List.not_mem_nil, or_false] at serial
  rcases serial with rfl | rfl | rfl <;> simp at letters

theorem generates_definition_iff (key : c.isKey = true) (generated : c.isGenerated = true)
    (type_eq : c.type = .text spelling.text) (whole : spelling.base ∈ ColumnType.wholeNumbers) :
    Generates db.dialect? (db.quote c.name.display)
      (c.definition db (db.dialect? == some .sqlite)) ↔
      ¬ (db.dialect? = some .postgresql ∧ spelling.base = "TINYINT") := by
  have definition : c.definition db (db.dialect? == some .sqlite) = _ :=
    Column.definition_of_isGenerated key generated _
  have stored : c.storedType db = _ := Column.storedType_of_spelling generated type_eq
  by_cases slip : db.dialect? = some .postgresql ∧ spelling.base = "TINYINT"
  · refine iff_of_false ?_ (not_not_intro slip)
    obtain ⟨postgresql, base⟩ := slip
    rw [postgresql] at stored
    rw [definition, stored, ColumnType.Mapping.resolve_postgresql_tinyint base, postgresql]
    exact not_generates_of_smallint _ _ _
  · refine iff_of_true ⟨c.storedType db, _, definition, ?_⟩ slip
    unfold Column.generationClauses Rendering.generatedClause
    cases dialect : db.dialect? with
    | none => simp [generated]
    | some d =>
      cases d with
      | postgresql =>
        rw [dialect] at stored
        rw [stored]
        exact ColumnType.Mapping.resolve_postgresql whole fun base => slip ⟨dialect, base⟩
      | _ => simp [generated]

theorem definition_sqlite (sqlite : db.dialect? = some .sqlite) (key : c.isKey = true)
    (generated : c.isGenerated = true) (type_eq : c.type = .text spelling.text)
    (whole : spelling.base ∈ ColumnType.wholeNumbers) :
    c.definition db c.isKey = db.quote c.name.display ++ (" INTEGER" ++
      ((if spelling.base = "TINYINT" then spelling.unspaced else "") ++
        " PRIMARY KEY AUTOINCREMENT NOT NULL")) := by
  have stored : c.storedType db = _ := Column.storedType_of_spelling generated type_eq
  rw [sqlite, ColumnType.Mapping.resolve_sqlite whole] at stored
  have word (rest : String) : " " ++ ("INTEGER" ++ rest) = " INTEGER" ++ rest := by
    rw [← String.append_assoc]
    rfl
  rw [key, Column.definition_of_isGenerated key generated, stored]
  simp [Column.generationClauses, Text.join, String.intercalate_cons_cons,
    String.append_assoc, word]

theorem tableClauses_sqlite (sqlite : db.dialect? = some .sqlite) (only : keyColumns columns = [c])
    (generated : c.isGenerated = true) :
    tableClauses db columns =
      columns.map (fun d => d.definition db d.isKey) ++ columns.flatMap
        (Column.constraintClauses db) := by
  have inline : hasInlineKey db columns = true := by
    simp [hasInlineKey_of_keyColumns only generated, sqlite]
  simp [tableClauses, keyClauses, inline]

theorem tablespaceClause_sqlite (sqlite : db.dialect? = some .sqlite) (tablespace : Value) :
    Rendering.tablespaceClause tablespace db = "" := by
  simp [Rendering.tablespaceClause, sqlite]

namespace Change

variable {registry : Registry} {table : CreateTable} {statements : List Statement}

/-- A key that is to be generated is generated by what is rendered, unless it is of the smallest
type on PostgreSQL. -/
theorem generates_createTable_iff (declared : table.columns.all = .ok columns)
    (distinct : (columns.map Column.name).Nodup)
    (compiled : (Change.createTable table).validStatements db registry = .ok statements)
    (only : keyColumns columns = [c]) (generated : c.isGenerated = true)
    (type_eq : c.type = .text spelling.text)
    (whole : spelling.base ∈ ColumnType.wholeNumbers) :
    ∃ t rest tablespace, statements = .createTable t :: rest ∧
      table.tablespace.trimmed? = .ok tablespace ∧
      (∀ sql, Registry.bundled.generate db (.createTable t) = .ok sql ↔
        HaveNames db columns ∧
          ∃ place, db.qualifyName ((Change.createTable table).resolvedSchema db) table.table =
            .ok place ∧
            sql = ["CREATE TABLE " ++ place ++ " (" ++ Text.join ", " (tableClauses db columns) ++
              ")" ++
              Rendering.tablespaceClause (.ofText? tablespace) db]) ∧
      ∀ i : Nat, columns[i]? = some c → ∃ definition, (tableClauses db columns)[i]? =
        some definition ∧
        (Generates db.dialect? (db.quote c.name.display) definition ↔
          ¬ (db.dialect? = some .postgresql ∧ spelling.base = "TINYINT")) := by
  obtain ⟨tablespace, rest, stored, rfl, -, named⟩ :=
    validStatements_createTable declared distinct compiled
  refine ⟨_, rest, tablespace, rfl, stored, fun _ =>
    Registry.generate_ofColumns_eq_ok_iff named distinct, ?_⟩
  intro i at_i
  exact ⟨_, getElem?_tableClauses only generated at_i,
    generates_definition_iff (isKey_of_keyColumns only) generated type_eq whole⟩

def counterColumns (type : String) : List Column := [
  { name := .text "label", type := .text "VARCHAR(20)" },
  { name := .text "Id"
    type := .text type
    autoIncrement := .bool true
    constraints := some { primaryKey := .bool true } }]

def counters (type : String) : CreateTable where
  table := .text "counters"
  schema := .ofDeclared none
  columns := .of (counterColumns type)

def bigCounter : ColumnType.Spelling where
  before := [' ']
  word := ['B', 'i', 'g', 'I', 'n', 't']
  gap := [' ', ' ']
  parameters := ['(', ' ', '2', '0', ')']
  letters := List.all_eq_true.mp rfl
  some_letter := List.cons_ne_nil _ _
  enclosed := .inr rfl
  blank_before := List.all_eq_true.mp rfl
  blank_gap := List.all_eq_true.mp rfl
  blank_after := List.forall_mem_nil _

theorem haveNames_counters (d : Dialect) (type : String) :
    HaveNames (warehouse d) (counterColumns type) where
  key _ named := absurd named Bool.false_ne_true
  unique c hc := by
    simp only [counterColumns, List.mem_cons, List.not_mem_nil, or_false] at hc
    rcases hc with rfl | rfl <;> exact fun unique => absurd unique Bool.false_ne_true

theorem generates_createTable_bigCounters :
    ∃ t rest,
      (Change.createTable (counters bigCounter.text)).validStatements (warehouse .mssql) .bundled =
        .ok (.createTable t :: rest) ∧
      Registry.bundled.generate (warehouse .mssql) (.createTable t) = .ok [
        "CREATE TABLE counters (label VARCHAR(20), [Id] BIGINT(20) IDENTITY NOT NULL, " ++
          "PRIMARY KEY ([Id]))"] ∧
      Generates (warehouse .mssql).dialect? ((warehouse .mssql).quote "Id")
        "[Id] BIGINT(20) IDENTITY NOT NULL" := by
  obtain ⟨statements, compiled⟩ : ∃ statements,
      (Change.createTable (counters bigCounter.text)).validStatements (warehouse .mssql) .bundled =
          .ok statements :=
    exists_eq_ok_of_isSome (by decide +kernel)
  have type_eq : (counterColumns bigCounter.text)[1].type = .text bigCounter.text := rfl
  obtain ⟨t, rest, tablespace, rfl, stored, written, generates⟩ :=
    generates_createTable_iff rfl (by decide) compiled rfl rfl type_eq (by decide +kernel)
  cases stored
  obtain ⟨definition, at_one, generates⟩ := generates 1 rfl
  obtain rfl : definition = "[Id] BIGINT(20) IDENTITY NOT NULL" :=
    Option.some.inj (at_one.symm.trans (by decide +kernel))
  refine ⟨t, rest, compiled, ?_, generates.mpr (by decide +kernel)⟩
  exact (written _).mpr ⟨haveNames_counters .mssql _, "counters", by decide +kernel,
    by decide +kernel⟩

/-- The smallest type counts nothing up on PostgreSQL. -/
theorem tinyCounters_not_generated :
    ∃ t, (Change.createTable (counters "TINYINT")).validStatements
      (warehouse .postgresql) .bundled =
        .ok [.createTable t] ∧
      Registry.bundled.generate (warehouse .postgresql) (.createTable t) = .ok [
        "CREATE TABLE counters (label VARCHAR(20), \"Id\" SMALLINT NOT NULL, " ++
          "PRIMARY KEY (\"Id\"))"] ∧
      ¬ Generates (warehouse .postgresql).dialect? ((warehouse .postgresql).quote "Id")
        "\"Id\" SMALLINT NOT NULL" :=
  ⟨.ofColumns (warehouse .postgresql) .null (.text "counters") (counterColumns "TINYINT"), rfl, rfl,
    not_generates_of_smallint "\"Id\"" "" ["NOT NULL"]⟩

/-- On SQLite a key that is to be generated stands with its column only, whose type is the one word
that SQLite accepts there, unless it is the smallest type and has parameters. -/
theorem sqlite_key_createTable_iff (sqlite : db.dialect? = some .sqlite)
    (declared : table.columns.all = .ok columns)
    (distinct : (columns.map Column.name).Nodup)
    (compiled : (Change.createTable table).validStatements db registry = .ok statements)
    (only : keyColumns columns = [c]) (generated : c.isGenerated = true)
    (type_eq : c.type = .text spelling.text)
    (whole : spelling.base ∈ ColumnType.wholeNumbers) :
    ∃ t rest, statements = .createTable t :: rest ∧
      (∀ sql, Registry.bundled.generate db (.createTable t) = .ok sql ↔
        HaveNames db columns ∧
          ∃ place, db.qualifyName ((Change.createTable table).resolvedSchema db) table.table =
            .ok place ∧
            sql = ["CREATE TABLE " ++ place ++ " (" ++
              Text.join ", " (columns.map (fun d => d.definition db d.isKey) ++
                columns.flatMap (Column.constraintClauses db)) ++ ")"]) ∧
      (c.definition db c.isKey = db.quote c.name.display ++
        " INTEGER PRIMARY KEY AUTOINCREMENT NOT NULL" ↔
        ¬ (spelling.base = "TINYINT" ∧ spelling.parameters ≠ [])) := by
  obtain ⟨tablespace, rest, -, rfl, -, named⟩ :=
    validStatements_createTable declared distinct compiled
  refine ⟨_, rest, rfl, fun sql => ?_, ?_⟩
  · rw [Registry.generate_ofColumns_eq_ok_iff named distinct,
      tableClauses_sqlite sqlite only generated, tablespaceClause_sqlite sqlite]
    simp only [String.append_empty]
  · have plain : " INTEGER PRIMARY KEY AUTOINCREMENT NOT NULL" =
        " INTEGER" ++ " PRIMARY KEY AUTOINCREMENT NOT NULL" := rfl
    rw [definition_sqlite sqlite (isKey_of_keyColumns only) generated type_eq whole, plain,
      String.append_right_inj, String.append_right_inj, String.append_eq_right_iff]
    by_cases smallest : spelling.base = "TINYINT"
    · simp [smallest, ColumnType.unspaced_eq_empty_iff]
    · simp [smallest]

theorem sqlite_key_createTable_bigCounters :
    ∃ t rest,
      (Change.createTable (counters bigCounter.text)).validStatements (warehouse .sqlite) .bundled =
        .ok (.createTable t :: rest) ∧
      Registry.bundled.generate (warehouse .sqlite) (.createTable t) = .ok [
        "CREATE TABLE counters (label VARCHAR(20), \"Id\" INTEGER PRIMARY KEY " ++
          "AUTOINCREMENT NOT NULL)"] ∧
      (counterColumns bigCounter.text)[1].definition (warehouse .sqlite) true =
        "\"Id\" INTEGER PRIMARY KEY AUTOINCREMENT NOT NULL" := by
  obtain ⟨statements, compiled⟩ : ∃ statements,
      (Change.createTable (counters bigCounter.text)).validStatements (warehouse .sqlite) .bundled =
          .ok statements :=
    exists_eq_ok_of_isSome (by decide +kernel)
  have type_eq : (counterColumns bigCounter.text)[1].type = .text bigCounter.text := rfl
  obtain ⟨t, rest, rfl, written, plain⟩ :=
    sqlite_key_createTable_iff rfl rfl (by decide) compiled rfl rfl type_eq (by decide +kernel)
  refine ⟨t, rest, compiled, ?_, plain.mpr (by decide +kernel)⟩
  exact (written _).mpr ⟨haveNames_counters .sqlite _, "counters", by decide +kernel,
    by decide +kernel⟩

/-- The smallest type keeps its parameters, with which SQLite takes no key that counts up. -/
theorem tinyCounters_not_plain :
    ∃ t, (Change.createTable (counters "TINYINT(3)")).validStatements (warehouse .sqlite) .bundled =
        .ok [.createTable t] ∧
      Registry.bundled.generate (warehouse .sqlite) (.createTable t) = .ok [
        "CREATE TABLE counters (label VARCHAR(20), \"Id\" INTEGER(3) PRIMARY KEY " ++
          "AUTOINCREMENT NOT NULL)"] ∧
      (counterColumns "TINYINT(3)")[1].definition (warehouse .sqlite) true ≠
        (warehouse .sqlite).quote "Id" ++ " INTEGER PRIMARY KEY AUTOINCREMENT NOT NULL" :=
  ⟨.ofColumns (warehouse .sqlite) .null (.text "counters") (counterColumns "TINYINT(3)"), rfl, rfl,
    by decide +kernel⟩

end Change

end SchemaMigration
