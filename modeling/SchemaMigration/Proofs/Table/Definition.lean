import SchemaMigration.Proofs.Change.Reversal

namespace SchemaMigration

namespace Column

def storedType (db : Database) (c : Column) : String := db.columnType c.type.display c.isGenerated

def sqlDefault (db : Database) (c : Column) : Option String := (c.defaultText db).toOption.join

def keyName (c : Column) : Name := (c.constraints.map (·.primaryKeyName)).getD .null

def uniqueName (c : Column) : Name := (c.constraints.getD {}).uniqueName

def foreignKey? (c : Column) : Option ForeignKey :=
  let k := c.constraints.getD {}
  c.references.toOption.join.map fun _ =>
    { name := k.foreignKeyName
      references := k.references
      column := c.name
      deleteCascade := .bool k.deleteCascade.isTrue
      deferrable := .bool k.deferrable.isTrue
      initiallyDeferred := .bool k.initiallyDeferred.isTrue }

def tableConstraints (c : Column) : List ColumnConstraint :=
  (if c.isNotNull then [.notNull c.name] else []) ++ (c.foreignKey?.map .foreignKey).toList ++
    (if c.isUnique then [.unique c.uniqueName [c.name]] else []) ++
    (if c.isGenerated then [.generated c.name] else [])

structure IsNamed (c : Column) : Prop where
  name : ∃ s, c.name = .text s
  foreignKey : ∀ k, c.foreignKey? = some k → ∃ s, k.name = .text s

end Column

def keyColumns (columns : List Column) : List Column := columns.filter Column.isKey

def keyName (columns : List Column) : Name :=
  (((keyColumns columns).map Column.keyName).filter Value.isTrue).getLast?.getD .null

namespace TableDefinition

def ofColumns (db : Database) (schema table : Name) (columns : List Column) : TableDefinition where
  schema
  table
  columns := columns.map Column.name
  types := columns.map fun c => (c.name, .text (c.storedType db))
  defaults := columns.filterMap fun c => (c.sqlDefault db).map fun d => (c.name, .text d)
  keyColumns := (SchemaMigration.keyColumns columns).map Column.name
  keyName := SchemaMigration.keyName columns
  constraints := columns.flatMap Column.tableConstraints

end TableDefinition

theorem exists_text_of_trimmed? {v : Value} {t : String} (trimmed : v.trimmed? = .ok (some t)) :
    ∃ s, v = .text s := by
  cases v with
  | null => cases trimmed
  | text s => exact ⟨s, rfl⟩
  | _ => cases trimmed

theorem same_iff_of_texts {a b : Name} (ha : ∃ s, a = .text s) (hb : ∃ s, b = .text s) :
    a.same b = true ↔ a = b := by
  obtain ⟨s, rfl⟩ := ha
  obtain ⟨t, rfl⟩ := hb
  simp

namespace TableDefinition

theorem putAt_of_fresh {column : Name} {v : Value} {pairs : List (Name × Value)}
    (fresh : ∀ p ∈ pairs, p.1.same column = false) : putAt column v pairs = pairs ++
      [(column, v)] := by
  induction pairs with
  | nil => rfl
  | cons p rest ih =>
    obtain ⟨first, others⟩ := List.forall_mem_cons.mp fresh
    rw [putAt, first, ih others]
    rfl

end TableDefinition

namespace Change

variable {db : Database} {schema table : Name}

open TableDefinition (ofColumns putAt putAt_of_fresh foldl_addConstraint addKeyColumn)

theorem storedType_of_columnType {c : Column} {type : String}
    (typed : columnType db c.type c.isGenerated = .ok type) : c.storedType db = type := by
  unfold columnType at typed
  cases kind : c.type with
  | text s =>
    rw [kind] at typed
    rw [Column.storedType, kind]
    exact Except.ok.inj typed
  | _ =>
    rw [kind] at typed
    cases typed

theorem sqlDefault_of_defaultText {c : Column} {default? : Option String}
    (written : part (c.defaultText db) = .ok default?) : c.sqlDefault db = default? := by
  rw [Column.sqlDefault, part_eq_ok written]
  rfl

theorem columnConstraints_eq_ok {c : Column} {constraints : List ColumnConstraint}
    (compiled : columnConstraints c = .ok constraints) :
    constraints = c.tableConstraints ∧ ∀ k, c.foreignKey? = some k →
      ∃ n, k.name.trimmed? = .ok (some n) := by
  have not_null : (c.constraints.getD {}).isNotNull = c.isNotNull := by
    unfold Column.isNotNull
    cases c.constraints <;> rfl
  have unique : (c.constraints.getD {}).unique.isTrue = c.isUnique := by
    unfold Column.isUnique
    cases c.constraints <;> rfl
  obtain ⟨target, referred, compiled⟩ := exists_of_bind_eq_ok compiled
  have references := part_eq_ok referred
  rw [not_null, unique] at compiled
  cases target with
  | none =>
    cases compiled
    have no_key : c.foreignKey? = none := by simp [Column.foreignKey?, references, Except.toOption]
    exact ⟨by simp [Column.tableConstraints, no_key, Column.uniqueName], by simp [no_key]⟩
  | some t =>
    obtain ⟨name, named, compiled⟩ := exists_of_bind_eq_ok compiled
    cases name with
    | none => cases compiled
    | some n =>
      cases compiled
      refine ⟨?_, fun k hk => ?_⟩
      · simp [Column.tableConstraints, Column.foreignKey?, references, Except.toOption,
          Column.uniqueName]
      · obtain ⟨_, -, rfl⟩ := Option.map_eq_some_iff.mp hk
        exact ⟨n, part_eq_ok named⟩

theorem keyName_concat (done : List Column) (c : Column) :
    keyName (done ++ [c]) =
      if c.isKey then (if c.keyName.isTrue then c.keyName else keyName done) else keyName done := by
  unfold keyName keyColumns
  cases key : c.isKey with
  | false => simp [key]
  | true => cases named : c.keyName.isTrue <;> simp [key, named]

theorem addColumn_ofColumns {done : List Column} {c : Column}
    (fresh : ∀ d ∈ done, d.name.same c.name = false) :
    let before := ofColumns db schema table done
    before.addColumn c.name (.text (c.storedType db)) (.ofText? (c.sqlDefault db)) =
      { ofColumns db schema table (done ++ [c]) with
        keyColumns := before.keyColumns
        keyName := before.keyName
        constraints := before.constraints } := by
  intro before
  have types : putAt c.name (.text (c.storedType db)) before.types =
      (ofColumns db schema table (done ++ [c])).types := by
    rw [putAt_of_fresh (by simpa [before, ofColumns] using fresh)]
    simp [before, ofColumns]
  have defaults : (if (Value.ofText? (c.sqlDefault db)).isNull then before.defaults
      else putAt c.name (.ofText? (c.sqlDefault db)) before.defaults) =
        (ofColumns db schema table (done ++ [c])).defaults := by
    cases written : c.sqlDefault db with
    | none => simp [before, ofColumns, written, Value.ofText?, Value.isNull]
    | some d =>
      have fresh_default : ∀ p ∈ before.defaults, p.1.same c.name = false := by
        intro p hp
        obtain ⟨d, hd, written_d⟩ := List.mem_filterMap.mp hp
        obtain ⟨_, -, rfl⟩ := Option.map_eq_some_iff.mp written_d
        exact fresh d hd
      rw [Value.ofText?, putAt_of_fresh fresh_default]
      simp [before, ofColumns, written, Value.isNull]
  unfold TableDefinition.addColumn
  rw [types, defaults]
  simp [before, ofColumns]

theorem defineColumn_ofColumns {done : List Column} {c : Column} {t : TableDefinition}
    (fresh : ∀ d ∈ done, d.name.same c.name = false)
    (defined : defineColumn db (ofColumns db schema table done) c = .ok t) :
    t = ofColumns db schema table (done ++ [c]) ∧ ∀ k, c.foreignKey? = some k →
      ∃ s, k.name = .text s := by
  obtain ⟨type, default?, constraints, typed, written, constrained, rfl⟩ :=
    exists_of_defineColumn defined
  have stored : c.storedType db = type := storedType_of_columnType typed
  have default_eq : c.sqlDefault db = default? := sqlDefault_of_defaultText written
  subst stored default_eq
  obtain ⟨rfl, named⟩ := columnConstraints_eq_ok constrained
  refine ⟨?_, fun k hk => (named k hk).elim fun _ trimmed => exists_text_of_trimmed? trimmed⟩
  rw [foldl_addConstraint, ← Column.keyName, addKeyColumn, addColumn_ofColumns fresh]
  cases key : c.isKey with
  | false => simp [ofColumns, keyColumns, key, keyName_concat]
  | true => simp [ofColumns, keyColumns, key, keyName_concat]

theorem foldlM_ofColumns (done : List Column) {columns : List Column} {t : TableDefinition}
    (named : ∀ c ∈ done ++ columns, ∃ s, c.name = .text s)
    (distinct : ((done ++ columns).map Column.name).Nodup)
    (defined : columns.foldlM (defineColumn db) (ofColumns db schema table done) = .ok t) :
    t = ofColumns db schema table (done ++ columns) ∧ ∀ c ∈ columns, c.IsNamed := by
  induction columns generalizing done with
  | nil =>
    cases defined
    simp
  | cons c rest ih =>
    obtain ⟨t₁, defined_first, defined_rest⟩ := exists_of_bind_eq_ok defined
    have fresh : ∀ d ∈ done, d.name.same c.name = false := by
      intro d hd
      rw [Bool.eq_false_iff, Ne, same_iff_of_texts (named d (by simp [hd])) (named c (by simp))]
      rw [List.map_append] at distinct
      exact (List.nodup_append.mp distinct).2.2 d.name (List.mem_map_of_mem hd) c.name (by simp)
    obtain ⟨rfl, key_named⟩ := defineColumn_ofColumns fresh defined_first
    rw [List.append_cons] at named distinct ⊢
    obtain ⟨defined_all, others_named⟩ := ih (done ++ [c]) named distinct defined_rest
    exact ⟨defined_all, List.forall_mem_cons.mpr ⟨⟨named c (by simp), key_named⟩, others_named⟩⟩

theorem statements_createTable {registry : Registry} {c : CreateTable} {columns : List Column}
    {statements : List Statement} (declared : c.columns.all = .ok columns)
    (named : ∀ column ∈ columns, ∃ s, column.name = .text s)
    (distinct : (columns.map Column.name).Nodup)
    (compiled : (Change.createTable c).statements db registry = .ok statements) :
    ∃ tablespace rest, c.tablespace.trimmed? = .ok tablespace ∧
      statements =
        .createTable { ofColumns db ((Change.createTable c).resolvedSchema db) c.table columns with
        tablespace := .ofText? tablespace } :: rest ∧
      (∀ st ∈ rest, st.isRemark = true) ∧ ∀ column ∈ columns, column.IsNamed := by
  obtain ⟨columns', t, tablespace, declared', -, defined, stored, compiled_by⟩ :=
    exists_of_statements_createTable compiled
  obtain rfl := Except.ok.inj (declared.symm.trans declared')
  obtain rfl := Except.ok.inj (compiled.symm.trans (compiled_by registry))
  -- the definition starts from no columns
  obtain ⟨rfl, sound⟩ := foldlM_ofColumns [] named distinct defined
  exact ⟨tablespace, _, stored, rfl, isRemark_filter (isRemark_declaredRemarks _), sound⟩

theorem validStatements_createTable {registry : Registry} {c : CreateTable} {columns : List Column}
    {statements : List Statement} (declared : c.columns.all = .ok columns)
    (distinct : (columns.map Column.name).Nodup)
    (compiled : (Change.createTable c).validStatements db registry = .ok statements) :
    ∃ tablespace rest, c.tablespace.trimmed? = .ok tablespace ∧
      statements =
        .createTable { ofColumns db ((Change.createTable c).resolvedSchema db) c.table columns with
        tablespace := .ofText? tablespace } :: rest ∧
      (∀ st ∈ rest, st.isRemark = true) ∧ ∀ column ∈ columns, column.IsNamed := by
  obtain ⟨_, valid, compiled⟩ := exists_of_bind_eq_ok compiled
  obtain ⟨-, -, valid_columns⟩ := exists_of_bind_eq_ok valid
  have named : ∀ column ∈ columns, ∃ s, column.name = .text s := fun column hc =>
    let ⟨_, trimmed⟩ := trimmed?_of_requireColumns valid_columns declared column hc
    exists_text_of_trimmed? trimmed
  exact statements_createTable declared named distinct compiled

end Change

theorem Column.any_tableConstraints (c : Column) (p : ColumnConstraint → Bool) :
    c.tableConstraints.any p =
      (c.isNotNull && p (.notNull c.name) || c.foreignKey?.any (fun k => p (.foreignKey k)) ||
        c.isUnique && p (.unique c.uniqueName [c.name]) || c.isGenerated &&
          p (.generated c.name)) := by
  have any_if (b : Bool) (k : ColumnConstraint) : (if b then [k] else []).any p = (b && p k) := by
    cases b <;> simp
  have any_key : (c.foreignKey?.map .foreignKey).toList.any p = c.foreignKey?.any fun k =>
      p (.foreignKey k) := by
    cases c.foreignKey? <;> simp
  simp only [tableConstraints, List.any_append, any_if, any_key]

namespace TableDefinition

variable {db : Database} {schema table : Name} {columns : List Column} {c : Column}

theorem same_name_iff (named : ∀ d ∈ columns, d.IsNamed)
    (distinct : (columns.map Column.name).Nodup)
    {d : Column} (hd : d ∈ columns) (hc : c ∈ columns) : d.name.same c.name = true ↔ d = c := by
  rw [same_iff_of_texts (named d hd).name (named c hc).name]
  exact ⟨fun same => List.inj_on_of_nodup_map distinct hd hc same, congrArg Column.name⟩

theorem any_of_unique {found : Column → Bool} (hc : c ∈ columns)
    (unique : ∀ d ∈ columns, found d = true ↔ d = c)
    (flag : Column → Bool) : columns.any (fun d => flag d && found d) = flag c := by
  rw [Bool.eq_iff_iff, List.any_eq_true]
  constructor
  · rintro ⟨d, hd, both⟩
    obtain ⟨flagged, found⟩ := Bool.and_eq_true_iff.mp both
    rwa [← (unique d hd).mp found]
  · intro flagged
    exact ⟨c, hc, Bool.and_eq_true_iff.mpr ⟨flagged, (unique c hc).mpr rfl⟩⟩

theorem at?_of_mem (named : ∀ d ∈ columns, d.IsNamed) (distinct : (columns.map Column.name).Nodup)
    (hc : c ∈ columns) (value? : Column → Option Value) :
    at? c.name (columns.filterMap fun d => (value? d).map fun v => (d.name, v)) = value? c := by
  unfold at?
  rw [List.find?_filterMap]
  have holds_iff (d : Column) : (((value? d).map fun v => (d.name, v)).any fun p =>
    p.1.same c.name) = true ↔
      (value? d).isSome = true ∧ d.name.same c.name = true := by
    cases value? d <;> simp
  cases found : columns.find? fun d =>
    ((value? d).map fun v => (d.name, v)).any fun p => p.1.same c.name with
  | none =>
    have absent := List.find?_eq_none.mp found c hc
    rw [holds_iff, same_name_iff named distinct hc hc] at absent
    cases value : value? c with
    | none => rfl
    | some v => simp [value] at absent
  | some d =>
    have holds := List.find?_some found
    obtain ⟨-, same⟩ := (holds_iff d).mp holds
    obtain rfl := (same_name_iff named distinct (List.mem_of_find?_eq_some found) hc).mp same
    cases value : value? d <;> simp [value]

variable (named : ∀ d ∈ columns, d.IsNamed)
  (distinct : (columns.map Column.name).Nodup) (hc : c ∈ columns)
include named distinct hc

theorem typeAt_ofColumns :
    at? c.name (ofColumns db schema table columns).types = some (.text (c.storedType db)) := by
  have kept := at?_of_mem named distinct hc fun d => some (.text (d.storedType db))
  simpa [ofColumns] using kept

theorem defaultAt_ofColumns :
    at? c.name (ofColumns db schema table columns).defaults = (c.sqlDefault db).map Value.text := by
  have kept := at?_of_mem named distinct hc fun d => (d.sqlDefault db).map Value.text
  simpa [ofColumns, Function.comp_def] using kept

theorem isNotNull_ofColumns :
    (ofColumns db schema table columns).isNotNull c.name = c.isNotNull := by
  rw [← any_of_unique hc (fun d hd => same_name_iff named distinct hd hc) Column.isNotNull,
    isNotNull, ofColumns, List.any_flatMap]
  simp only [Column.any_tableConstraints, Option.any_false, Bool.and_false, Bool.or_false]

theorem isGenerated_ofColumns :
    (ofColumns db schema table columns).isGenerated c.name = c.isGenerated := by
  rw [← any_of_unique hc (fun d hd => same_name_iff named distinct hd hc) Column.isGenerated,
    isGenerated, ofColumns, List.any_flatMap]
  simp only [Column.any_tableConstraints, Option.any_false, Bool.and_false, Bool.false_or]

theorem isKeyColumn_ofColumns :
    (ofColumns db schema table columns).isKeyColumn c.name = .ok c.isKey := by
  have names : (ofColumns db schema table columns).isKeyColumn c.name =
      .ok (((SchemaMigration.keyColumns columns).map Column.name).any c.name.same) := rfl
  have unique : ∀ d ∈ columns, c.name.same d.name = true ↔ d = c := fun d hd =>
    (same_name_iff named distinct hc hd).trans eq_comm
  rw [names, SchemaMigration.keyColumns, List.any_map, List.any_filter,
    ← any_of_unique hc unique Column.isKey]
  rfl

end TableDefinition

end SchemaMigration
