import Mathlib.Data.List.Nodup
import Mathlib.Logic.Function.Basic
import SchemaMigration.Statement

namespace SchemaMigration

structure Place where
  schema : Name
  name : Name
  deriving DecidableEq

def Place.sibling (p : Place) (name : Name) : Place := { p with name := name }

@[simp] theorem Place.sibling_mk (schema name name' : Name) :
    (⟨schema, name⟩ : Place).sibling name' = ⟨schema, name'⟩ := rfl

structure TableIndex where
  table : Name
  columns : List Name

/-- The tables with their columns in order, and the indexes. Nothing depends on there being finitely
many. -/
@[ext]
structure Catalog where
  columns? : Place → Option (List Name)
  index? : Place → Option TableIndex
  nodup : ∀ p columns, columns? p = some columns → columns.Nodup
  covered : ∀ q i, index? q = some i →
    ∃ columns, columns? (q.sibling i.table) = some columns ∧ i.columns ⊆ columns

namespace Catalog

variable {s s' : Catalog} {p q : Place} {i : TableIndex}

def empty : Catalog where
  columns? _ := none
  index? _ := none
  nodup := nofun
  covered := nofun

theorem not_on_of_columns? (free : s.columns? p = none) (found : s.index? q = some i) :
    q.sibling i.table ≠ p := by
  rintro rfl
  obtain ⟨columns, known, -⟩ := s.covered q i found
  rw [free] at known
  cases known

def addTable (s : Catalog) (p : Place) (columns : List Name) (free : s.columns? p = none)
    (distinct : columns.Nodup) : Catalog where
  columns? := Function.update s.columns? p (some columns)
  index? := s.index?
  nodup q columns' found := by
    by_cases same : q = p
    · rw [same, Function.update_self] at found
      cases found
      exact distinct
    · rw [Function.update_of_ne same] at found
      exact s.nodup q columns' found
  covered q i found := by
    rw [Function.update_of_ne (not_on_of_columns? free found)]
    exact s.covered q i found

def dropTable (s : Catalog) (p : Place) : Catalog where
  columns? := Function.update s.columns? p none
  index? q := (s.index? q).filter fun i => q.sibling i.table ≠ p
  nodup q columns found := by
    by_cases same : q = p
    · rw [same, Function.update_self] at found
      cases found
    · rw [Function.update_of_ne same] at found
      exact s.nodup q columns found
  covered q i found := by
    rw [Option.filter_eq_some_iff, decide_eq_true_eq] at found
    rw [Function.update_of_ne found.2]
    exact s.covered q i found.1

def retargeted (q p : Place) (name : Name) (i : TableIndex) : TableIndex :=
  if q.sibling i.table = p then { i with table := name } else i

/-- A table moves to another name, and its indexes with it. -/
def renameTable (s : Catalog) (p : Place) (name : Name)
    (free : s.columns? (p.sibling name) = none) :
    Catalog where
  columns? := Function.update (Function.update s.columns? p none) (p.sibling name) (s.columns? p)
  index? q := (s.index? q).map (retargeted q p name)
  nodup q columns found := by
    by_cases moved : q = p.sibling name
    · rw [moved, Function.update_self] at found
      exact s.nodup p columns found
    · rw [Function.update_of_ne moved] at found
      by_cases left : q = p
      · rw [left, Function.update_self] at found
        cases found
      · rw [Function.update_of_ne left] at found
        exact s.nodup q columns found
  covered q i found := by
    obtain ⟨j, found_j, rfl⟩ := Option.map_eq_some_iff.mp found
    obtain ⟨columns, known, subset⟩ := s.covered q j found_j
    unfold retargeted
    split
    next on =>
      have place : q.sibling name = p.sibling name := by rw [← on]; rfl
      refine ⟨columns, ?_, subset⟩
      rw [place, Function.update_self, ← on, known]
    next off =>
      refine ⟨columns, ?_, subset⟩
      rw [Function.update_of_ne (not_on_of_columns? free found_j), Function.update_of_ne off, known]

def alterTable (s : Catalog) (p : Place) (change : List Name → List Name)
    (f : TableIndex → Option TableIndex)
    (distinct : ∀ columns, s.columns? p = some columns → (change columns).Nodup)
    (covers : ∀ columns i j, s.columns? p = some columns → i.columns ⊆ columns → f i = some j →
      j.table = i.table ∧ j.columns ⊆ change columns) : Catalog where
  columns? := Function.update s.columns? p ((s.columns? p).map change)
  index? q := (s.index? q).bind fun i => if q.sibling i.table = p then f i else some i
  nodup q columns found := by
    by_cases same : q = p
    · rw [same, Function.update_self] at found
      obtain ⟨before, known, rfl⟩ := Option.map_eq_some_iff.mp found
      exact distinct before known
    · rw [Function.update_of_ne same] at found
      exact s.nodup q columns found
  covered q j found := by
    obtain ⟨i, found_i, found_j⟩ := Option.bind_eq_some_iff.mp found
    obtain ⟨columns, known, subset⟩ := s.covered q i found_i
    split at found_j
    next on =>
      rw [on] at known
      obtain ⟨same_table, subset_j⟩ := covers columns i j known subset found_j
      rw [same_table, on, Function.update_self, known]
      exact ⟨change columns, rfl, subset_j⟩
    next off =>
      cases found_j
      rw [Function.update_of_ne off]
      exact ⟨columns, known, subset⟩

def addColumn (s : Catalog) (p : Place) (c : Name)
    (fresh : ∀ columns, s.columns? p = some columns → c ∉ columns) : Catalog :=
  s.alterTable p (· ++ [c]) some
    (fun columns known => by
      rw [← List.concat_eq_append]
      exact (s.nodup p columns known).concat (fresh columns known))
    fun columns i j _ subset same => by
      cases same
      exact ⟨rfl, fun d hd => List.mem_append_left [c] (subset hd)⟩

def dropColumn (s : Catalog) (p : Place) (c : Name) : Catalog :=
  s.alterTable p (·.erase c) (fun i => if c ∈ i.columns then none else some i)
    (fun columns known => (s.nodup p columns known).erase c)
    fun columns i j _ subset kept => by
      split at kept
      next => cases kept
      next without =>
        cases kept
        refine ⟨rfl, fun d hd => (List.mem_erase_of_ne ?_).mpr (subset hd)⟩
        rintro rfl
        exact without hd

def renamed (c new : Name) (d : Name) : Name := if d = c then new else d

theorem renamed_renamed {c new d : Name} (fresh : d ≠ new) :
    renamed new c (renamed c new d) = d := by
  unfold renamed
  by_cases same : d = c
  · simp [same]
  · simp [same, fresh]

theorem map_renamed_renamed {c new : Name} {columns : List Name} (fresh : new ∉ columns) :
    (columns.map (renamed c new)).map (renamed new c) = columns := by
  conv_rhs => rw [← List.map_id columns]
  rw [List.map_map]
  apply List.map_congr_left
  intro d hd
  apply renamed_renamed
  rintro rfl
  exact fresh hd

theorem mem_map_renamed {c new : Name} {columns : List Name} (has : c ∈ columns) :
    new ∈ columns.map (renamed c new) :=
  List.mem_map.mpr ⟨c, has, if_pos rfl⟩

theorem not_mem_map_renamed {c new : Name} {columns : List Name} (has : c ∈ columns)
    (fresh : new ∉ columns) : c ∉ columns.map (renamed c new) := by
  rw [List.mem_map]
  rintro ⟨d, -, same⟩
  unfold renamed at same
  split at same
  next =>
    rw [same] at fresh
    exact fresh has
  next other => exact other same

def renameColumn (s : Catalog) (p : Place) (c new : Name)
    (fresh : ∀ columns, s.columns? p = some columns → new ∉ columns) : Catalog :=
  s.alterTable p (·.map (renamed c new))
    (fun i => some { i with columns := i.columns.map (renamed c new) })
    (fun columns known => by
      apply List.Nodup.of_map (renamed new c)
      rw [map_renamed_renamed (fresh columns known)]
      exact s.nodup p columns known)
    fun columns i j _ subset same => by
      cases same
      exact ⟨rfl, List.map_subset _ subset⟩

def addIndex (s : Catalog) (p : Place) (i : TableIndex)
    (covers : ∃ columns, s.columns? (p.sibling i.table) = some columns ∧ i.columns ⊆ columns) :
    Catalog where
  columns? := s.columns?
  index? := Function.update s.index? p (some i)
  nodup := s.nodup
  covered q j found := by
    by_cases same : q = p
    · rw [same, Function.update_self] at found
      cases found
      rw [same]
      exact covers
    · rw [Function.update_of_ne same] at found
      exact s.covered q j found

def dropIndex (s : Catalog) (p : Place) : Catalog where
  columns? := s.columns?
  index? := Function.update s.index? p none
  nodup := s.nodup
  covered q j found := by
    by_cases same : q = p
    · rw [same, Function.update_self] at found
      cases found
    · rw [Function.update_of_ne same] at found
      exact s.covered q j found

def hasColumn (s : Catalog) (p : Place) (c : Name) : Bool :=
  (s.columns? p).any fun columns => decide (c ∈ columns)

def lacksColumn (s : Catalog) (p : Place) (c : Name) : Bool :=
  (s.columns? p).any fun columns => decide (c ∉ columns)

theorem hasColumn_iff {c : Name} :
    s.hasColumn p c = true ↔ ∃ columns, s.columns? p = some columns ∧ c ∈ columns := by
  simp [hasColumn, Option.any_eq_true]

theorem lacksColumn_iff {c : Name} :
    s.lacksColumn p c = true ↔ ∃ columns, s.columns? p = some columns ∧ c ∉ columns := by
  simp [lacksColumn, Option.any_eq_true]

theorem fresh_of_lacksColumn {c : Name} (lacks : s.lacksColumn p c = true) :
    ∀ columns, s.columns? p = some columns → c ∉ columns := by
  intro columns known
  simpa [lacksColumn, known] using lacks

def canIndex (s : Catalog) (schema : Name) (i : TableIndex) : Bool :=
  (s.columns? ⟨schema, i.table⟩).any fun columns => decide (i.columns ⊆ columns)

theorem covers_of_canIndex {schema : Name} (can : s.canIndex schema i = true) :
    ∃ columns, s.columns? ⟨schema, i.table⟩ = some columns ∧ i.columns ⊆ columns := by
  simpa [canIndex, Option.any_eq_true] using can

def apply (s : Catalog) : Statement → Option Catalog
  | .createTable t =>
    match t.columnNames with
    | .error _ => none
    | .ok columns =>
      if h : s.columns? ⟨t.schema, t.table⟩ = none ∧ columns.Nodup then
        some (s.addTable ⟨t.schema, t.table⟩ columns h.1 h.2)
      else none
  | .dropTable schema table _ =>
    if (s.columns? ⟨schema, table⟩).isSome then some (s.dropTable ⟨schema, table⟩) else none
  | .renameTable schema table name =>
    if h : (s.columns? ⟨schema, table⟩).isSome ∧ s.columns? ⟨schema, name⟩ = none then
      some (s.renameTable ⟨schema, table⟩ name h.2)
    else none
  | .addColumn a =>
    if h : s.lacksColumn ⟨a.schema, a.table⟩ a.column then
      some (s.addColumn ⟨a.schema, a.table⟩ a.column (fresh_of_lacksColumn h))
    else none
  | .dropColumn schema table column =>
    if s.hasColumn ⟨schema, table⟩ column then some (s.dropColumn ⟨schema, table⟩ column) else none
  | .renameColumn schema table column name _ =>
    if h : s.hasColumn ⟨schema, table⟩ column ∧ s.lacksColumn ⟨schema, table⟩ name then
      some (s.renameColumn ⟨schema, table⟩ column name (fresh_of_lacksColumn h.2))
    else none
  | .createIndex i =>
    if h : s.index? ⟨i.schema, i.index⟩ = none ∧ s.canIndex i.schema ⟨i.table, i.columns⟩ then
      some (s.addIndex ⟨i.schema, i.index⟩ ⟨i.table, i.columns⟩ (covers_of_canIndex h.2))
    else none
  -- a table that is named has to be that of the index
  | .dropIndex schema table index =>
    if (s.index? ⟨schema, index⟩).any fun i => table.isNull || i.table = table then
      some (s.dropIndex ⟨schema, index⟩)
    else none
  | .tableRemarks .. => some s
  | .columnRemarks .. => some s
  | .sql _ => none

/-- A catalog after statements in order, if all of them can be carried out. -/
def run (s : Catalog) : List Statement → Option Catalog
  | [] => some s
  | statement :: rest => (s.apply statement).bind fun s => s.run rest

theorem run_append (s : Catalog) (front rest : List Statement) :
    s.run (front ++ rest) = (s.run front).bind fun s => s.run rest := by
  induction front generalizing s with
  | nil => rfl
  | cons statement front ih =>
    rw [List.cons_append, run, run, Option.bind_assoc]
    congr 1
    funext s
    exact ih s

theorem run_singleton (s : Catalog) (statement : Statement) :
    s.run [statement] = s.apply statement := by
  simp [run]

theorem dropTable_addTable {columns : List Name} (free : s.columns? p = none)
    (distinct : columns.Nodup) :
    (s.addTable p columns free distinct).dropTable p = s := by
  ext1
  · funext q
    by_cases same : q = p
    · simp [dropTable, addTable, same, free]
    · simp [dropTable, addTable, same]
  · funext q
    cases found : s.index? q with
    | none => simp [dropTable, addTable, found]
    | some i => simp [dropTable, addTable, found, not_on_of_columns? free found]

theorem renameTable_renameTable {name : Name} (known : (s.columns? p).isSome)
    (free : s.columns? (p.sibling name) = none)
    (free_again : (s.renameTable p name free).columns? ((p.sibling name).sibling p.name) = none) :
    (s.renameTable p name free).renameTable (p.sibling name) p.name free_again = s := by
  have back : (p.sibling name).sibling p.name = p := rfl
  have apart : p ≠ p.sibling name := by
    intro same
    rw [← same] at free
    rw [free] at known
    cases known
  ext1
  · funext q
    by_cases at_new : q = p.sibling name
    · simp [renameTable, back, at_new, apart.symm, free]
    · by_cases at_old : q = p
      · simp [renameTable, back, at_old]
      · simp [renameTable, back, at_new, at_old]
  · funext q
    cases found : s.index? q with
    | none => simp [renameTable, found]
    | some i =>
      have off_new := not_on_of_columns? free found
      by_cases on : q.sibling i.table = p
      · have followed : (q.sibling name) = p.sibling name := by rw [← on]; rfl
        have own_name : p.name = i.table := by rw [← on]; rfl
        simp [renameTable, found, retargeted, on, followed, own_name]
      · simp [renameTable, found, retargeted, on, off_new]

theorem alterTable_alterTable {change change' : List Name → List Name}
    {f f' : TableIndex → Option TableIndex} {distinct covers distinct' covers'}
    (columns_back : ∀ columns, s.columns? p = some columns → change' (change columns) = columns)
    (index_back : ∀ q i, s.index? q = some i → q.sibling i.table = p →
      ∃ j, f i = some j ∧ j.table = i.table ∧ f' j = some i) :
    (s.alterTable p change f distinct covers).alterTable p change' f' distinct' covers' = s := by
  ext1
  · funext q
    by_cases same : q = p
    · rw [same]
      cases known : s.columns? p with
      | none => simp [alterTable, known]
      | some columns => simp [alterTable, known, columns_back columns known]
    · simp [alterTable, same]
  · funext q
    cases found : s.index? q with
    | none => simp [alterTable, found]
    | some i =>
      by_cases on : q.sibling i.table = p
      · obtain ⟨j, changed, same_table, restored⟩ := index_back q i found on
        simp [alterTable, found, on, changed, same_table, restored]
      · simp [alterTable, found, on]

theorem not_mem_of_fresh {c : Name} (fresh : ∀ columns, s.columns? p = some columns → c ∉ columns)
    (found : s.index? q = some i) (on : q.sibling i.table = p) : c ∉ i.columns := by
  obtain ⟨columns, known, subset⟩ := s.covered q i found
  rw [on] at known
  exact fun mem => fresh columns known (subset mem)

theorem dropColumn_addColumn {c : Name}
    (fresh : ∀ columns, s.columns? p = some columns → c ∉ columns) :
    (s.addColumn p c fresh).dropColumn p c = s := by
  apply alterTable_alterTable
  · intro columns known
    rw [List.erase_append_right _ (fresh columns known), List.erase_cons_head, List.append_nil]
  · intro q i found on
    exact ⟨i, rfl, rfl, if_neg (not_mem_of_fresh fresh found on)⟩

theorem renameColumn_renameColumn {c new : Name}
    (fresh : ∀ columns, s.columns? p = some columns → new ∉ columns)
    (fresh_again : ∀ columns, (s.renameColumn p c new fresh).columns? p = some columns →
      c ∉ columns) :
    (s.renameColumn p c new fresh).renameColumn p new c fresh_again = s := by
  apply alterTable_alterTable
  · intro columns known
    exact map_renamed_renamed (fresh columns known)
  · intro q i found on
    refine ⟨_, rfl, rfl, ?_⟩
    dsimp only
    rw [map_renamed_renamed (not_mem_of_fresh fresh found on)]

theorem dropIndex_addIndex {covers} (free : s.index? p = none) :
    (s.addIndex p i covers).dropIndex p = s := by
  ext1
  · rfl
  · funext q
    by_cases same : q = p
    · simp [dropIndex, addIndex, same, free]
    · simp [dropIndex, addIndex, same]

theorem apply_dropTable_of_createTable {t : TableDefinition}
    (created : s.apply (.createTable t) = some s')
    (cascade : Value) : s'.apply (.dropTable t.schema t.table cascade) = some s := by
  rw [apply] at created
  split at created
  next => cases created
  next columns _ =>
    split at created
    next h =>
      cases created
      rw [apply, if_pos (by simp [addTable]), dropTable_addTable]
    next => cases created

theorem apply_renameTable_of_renameTable {schema table name : Name}
    (renamed : s.apply (.renameTable schema table name) = some s') :
    s'.apply (.renameTable schema name table) = some s := by
  rw [apply] at renamed
  split at renamed
  next h =>
    cases renamed
    have apart : table ≠ name := by
      rintro rfl
      simp [h.2] at h
    rw [apply, dif_pos (by simp [renameTable, h.1, apart])]
    exact congrArg some (renameTable_renameTable h.1 h.2 _)
  next => cases renamed

theorem apply_dropColumn_of_addColumn {a : ColumnAddition}
    (added : s.apply (.addColumn a) = some s') :
    s'.apply (.dropColumn a.schema a.table a.column) = some s := by
  rw [apply] at added
  split at added
  next lacks =>
    cases added
    obtain ⟨columns, known, -⟩ := lacksColumn_iff.mp lacks
    rw [apply, if_pos (by simp [hasColumn, addColumn, alterTable, known]), dropColumn_addColumn]
  next => cases added

theorem apply_renameColumn_of_renameColumn {schema table column name : Name} {type : Value}
    (changed : s.apply (.renameColumn schema table column name type) = some s') :
    s'.apply (.renameColumn schema table name column type) = some s := by
  rw [apply] at changed
  split at changed
  next h =>
    cases changed
    obtain ⟨columns, known, has⟩ := hasColumn_iff.mp h.1
    have fresh := fresh_of_lacksColumn h.2 columns known
    have known' : (s.renameColumn ⟨schema, table⟩ column name (fresh_of_lacksColumn h.2)).columns?
        ⟨schema, table⟩ = some (columns.map (renamed column name)) := by
      simp [renameColumn, alterTable, known]
    rw [apply, dif_pos]
    · exact congrArg some (renameColumn_renameColumn _ _)
    · rw [hasColumn_iff, lacksColumn_iff]
      exact ⟨⟨_, known', mem_map_renamed has⟩, ⟨_, known', not_mem_map_renamed has fresh⟩⟩
  next => cases changed

theorem apply_dropIndex_of_createIndex {i : IndexDefinition}
    (created : s.apply (.createIndex i) = some s') :
    s'.apply (.dropIndex i.schema i.table i.index) = some s := by
  rw [apply] at created
  split at created
  next h =>
    cases created
    rw [apply, if_pos (by simp [addIndex])]
    exact congrArg some (dropIndex_addIndex h.1)
  next => cases created

end Catalog

end SchemaMigration
