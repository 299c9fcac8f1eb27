import SchemaMigration.Sqlite.Evaluation
import SchemaMigration.Sqlite.OwnName

namespace SchemaMigration.Sqlite

namespace Column

def withRule (c : Column) : ColumnRule → Except Fault Column
  | .notNull => .ok { c with isNotNull := true }
  | .default? t =>
    if t.any (fun u => u.isName || u.isQuery || u.isParameter) Term.depth then
      .error (.operational ("default value of column [" ++ c.name ++ "] is not constant"))
    else .ok { c with default? := some t }
  | .collate n =>
    match Collation.ofName? n with
    | some k => .ok { c with collation := k }
    | none => .error (.operational ("no such collation sequence: " ++ n))
  | .generated t => .ok { c with generated := some t }
  | _ => .ok c

def strictTypes : List String := ["INT", "INTEGER", "REAL", "TEXT", "BLOB", "ANY"]

def ofDefinition (isStrict : Bool) (d : ColumnDefinition) : Except Fault Column := do
  if isStrict && !strictTypes.contains d.type.toUpper then
    .error (.operational ("unknown datatype for " ++ d.name))
  let affinity :=
    if isStrict && d.type.toUpper == "ANY" then Affinity.blob else Affinity.ofType d.type
  d.rules.foldlM withRule { name := d.name, type := d.type, affinity := affinity }

end Column

namespace TableDefinition

/-- A key as it is declared: its columns, whether it stands with a column and goes down, and whether
it counts upwards. -/
structure Key where
  columns : List String
  descends : Bool := false
  counts : Bool := false

def columnsOf (d : TableDefinition) : List Term → Except Fault (List String)
  | [] => .ok []
  | t :: rest => do
    let more ← d.columnsOf rest
    match t.column? with
    | none => .error (.operational "expressions prohibited in PRIMARY KEY and UNIQUE constraints")
    | some n =>
      match d.columns.find? fun c => sameName c.name n with
      | some c => .ok (c.name :: more)
      | none => .error (Fault.noColumn n)

def keyedSets (d : TableDefinition) : Except Fault (List (Bool × Key)) := do
  let inColumns := d.columns.flatMap fun c => c.rules.filterMap fun
    | .key descends counts => some (true, (⟨[c.name], descends, counts⟩ : Key))
    | .unique => some (false, ⟨[c.name], false, false⟩)
    | _ => none
  let inRules ← d.rules.filterMapM fun
    | .key ts counts => do
      let ns ← d.columnsOf ts
      return some (true, (⟨ns, false, counts⟩ : Key))
    | .unique ts => do
      let ns ← d.columnsOf ts
      return some (false, ⟨ns, false, false⟩)
    | _ => return none
  return inColumns ++ inRules

def checks (d : TableDefinition) : List Term :=
  (d.columns.flatMap fun c => c.rules.filterMap fun
    | .check t => some t
    | _ => none) ++
  d.rules.filterMap fun
    | .check t => some t
    | _ => none

def hasDuplicates : List String → Bool
  | [] => false
  | n :: rest => rest.any (sameName n) || hasDuplicates rest

/-- What is wrong with the references of a table: they name columns of it, as many as of the
other. -/
def referenceFault? (d : TableDefinition) : Option Fault :=
  let inColumns := d.columns.flatMap fun c => c.rules.filterMap fun
    | .refers _ others => some ([c.name], others)
    | _ => none
  let inRules := d.rules.filterMap fun
    | .refers ns _ others => some (ns, others)
    | _ => none
  (inColumns ++ inRules).findSome? fun (ns, others) =>
    if !others.isEmpty && others.length != ns.length then
      some (.operational "number of columns in foreign key does not match the number of columns")
    else
      (ns.find? fun n => !d.columns.any fun c => sameName c.name n).map fun n =>
        .operational ("unknown column \"" ++ n ++ "\" in foreign key definition")

end TableDefinition

namespace Term

def mapNames (f : List String → Bool → Term) : Nat → Term → Term
  | 0, t => t
  | fuel + 1, t =>
    let go := mapNames f fuel
    match t with
    | .name path inQuotes => f path inQuotes
    | .lead o a => .lead o (go a)
    | .binary o a b => .binary o (go a) (go b)
    | .isNull negated a => .isNull negated (go a)
    | .between negated a b c => .between negated (go a) (go b) (go c)
    | .inList negated a ts => .inList negated (go a) (ts.map go)
    | .like negated k a p e => .like negated k (go a) (go p) (e.map go)
    | .collate a n => .collate (go a) n
    | .cast a type => .cast (go a) type
    | .choice base cases otherwise =>
      .choice (base.map go) (cases.map fun (a, b) => (go a, go b)) (otherwise.map go)
    | .row ts => .row (ts.map go)
    | .call n isDistinct ts order filter =>
      .call n isDistinct (ts.map go) (order.map fun (a, d) => (go a, d)) (filter.map go)
    | t => t

def strict (isColumn : String → Bool) : Term → Term :=
  mapNames (fun path inQuotes => .name path (inQuotes && !path.any isColumn)) depth

def swapNames (f : List String → List String) : Term → Term :=
  mapNames (fun path inQuotes => .name (f path) inQuotes) depth

end Term

namespace Table

def seat (t : Table) (row : Row) : Seat := Seat.ofRow none t.name t row

def scope (t : Table) (row : Row) : Scope :=
  { content := {}, levels := [{ seats := [t.seat row] }] }

def termFault? (t : Table) (u : Term) : Option Fault :=
  if u.any (fun v => v.isQuery || v.isParameter) Term.depth then
    some (.operational "subqueries and parameters prohibited")
  else
    match Evaluation.possible (u.evaluate (t.scope ⟨0, []⟩)) with
    | .ok _ => none
    | .error f => some f

def fixedTermFault? (t : Table) (u : Term) : Option Fault :=
  if u.any Term.isRestless Term.depth then
    some (.operational "non-deterministic functions prohibited")
  else if u.any Term.isQualified Term.depth then
    some (.operational "the \".\" operator prohibited")
  else t.termFault? u

def uniqueSets (columns : List Column) (sets : List (List String)) : List Unique :=
  let collated := sets.map fun ns => ns.map fun n =>
    (n, ((columns.find? fun c => sameName c.name n).map Column.collation).getD .binary)
  collated.foldl (fun kept u => if kept.contains u then kept else kept ++ [u]) []

def rowColumnOf (d : TableDefinition) (key : Option TableDefinition.Key) : Option String :=
  match key with
  | some ⟨[n], false, _⟩ =>
    match d.columns.find? fun c => sameName c.name n with
    | some c => if sameName c.type "INTEGER" && !d.isKeyOrdered then some c.name else none
    | none => none
  | _ => none

def ofDefinition (d : TableDefinition) (sql : Option String) : Except Fault Table := do
  if TableDefinition.hasDuplicates (d.columns.map ColumnDefinition.name) then
    .error (.operational "duplicate column name")
  let columns ← d.columns.mapM (Column.ofDefinition d.isStrict)
  let sets ← d.keyedSets
  let keys := (sets.filter (·.1)).map (·.2)
  if 1 < keys.length then
    .error (.operational ("table \"" ++ d.name ++ "\" has more than one primary key"))
  let key := keys.head?
  let rowColumn := rowColumnOf d key
  if (key.map (·.counts)).getD false then
    if d.isKeyOrdered then .error (.operational "AUTOINCREMENT not allowed on WITHOUT ROWID tables")
    if rowColumn.isNone then
      .error (.operational "AUTOINCREMENT is only allowed on an INTEGER PRIMARY KEY")
  if d.isKeyOrdered && key.isNone then
    .error (.operational ("PRIMARY KEY missing on table " ++ d.name))
  if let some f := d.referenceFault? then .error f
  if columns.all fun c => c.generated.isSome then
    .error (.operational "must have at least one non-generated column")
  let keyColumns := (key.map (·.columns)).getD []
  if columns.any fun c => c.generated.isSome &&
      (c.default?.isSome || keyColumns.any (sameName c.name)) then
    .error (.operational "generated columns cannot be part of the PRIMARY KEY")
  let indexed := sets.filter fun (isKey, _) => !(isKey && rowColumn.isSome)
  let t : Table := {
    definition := d
    columns := columns.map fun c =>
      let isNeeded := d.isKeyOrdered || (d.isStrict && rowColumn.isNone)
      if isNeeded && keyColumns.any (sameName c.name) then { c with isNotNull := true } else c
    key := keyColumns
    rowColumn := rowColumn
    uniques := uniqueSets columns (indexed.map fun (_, k) => k.columns)
    checks := d.checks
    sql := sql }
  if let some f := t.checks.findSome? t.termFault? then .error f
  if let some f := (t.columns.filterMap Column.generated).findSome? t.fixedTermFault? then .error f
  return t

def indexOf (t : Table) (u : Unique) (number : Nat) : Index where
  name := "sqlite_autoindex_" ++ t.name ++ "_" ++ toString number
  table := t.name
  isUnique := true
  terms := u.map fun (n, k) => (.name [n] false, k)

/-- The sets of columns that are kept unique, numbered. That of the key has no index of its own if
the rows are ordered by the key. -/
def numberedSets (t : Table) : List (Unique × Nat) := t.uniques.zipIdx 1

def isKeySet (t : Table) (u : Unique) : Bool := t.isKeyOrdered && u.map (·.1) == t.key

def ownIndexes (t : Table) : List Index :=
  (t.numberedSets.filter fun (u, _) => !t.isKeySet u).map fun (u, n) => t.indexOf u n

def keyIndexes (t : Table) : List Index :=
  (t.numberedSets.filter fun (u, _) => t.isKeySet u).map fun (u, n) => t.indexOf u n

def counts (t : Table) : Bool :=
  t.definition.columns.any (fun c => c.rules.any fun
    | .key _ counts => counts
    | _ => false) ||
  t.definition.rules.any fun
    | .key _ counts => counts
    | _ => false

def sequence : Table where
  definition := ⟨"sqlite_sequence", [⟨"name", "", []⟩, ⟨"seq", "", []⟩], [], false, false⟩
  columns := [{ name := "name" }, { name := "seq" }]
  sql := some "CREATE TABLE sqlite_sequence(name,seq)"

end Table

namespace Content

def isTaken (c : Content) (p : Place) (name : String) : Bool :=
  (c.tableIn? p name).isSome || (c.index? p name).isSome

def createTable (c : Content) (p : Place) (t : Table) : Except Fault Content :=
  if isOwnName t.name then
    .error (.operational ("object name reserved for internal use: " ++ t.name))
  else if (c.tableIn? p t.name).isSome then
    .error (.operational ("table " ++ t.name ++ " already exists"))
  else if (c.index? p t.name).isSome then
    .error (.operational ("there is already an index named " ++ t.name))
  else
    let c := (t.ownIndexes.map Entry.index).foldl (fun c e => c.add p e) (c.add p (.table t))
    .ok (if t.counts && (c.storedTable? p "sqlite_sequence").isNone then c.add p (.table .sequence)
      else c)

structure IndexDefinition where
  name : String
  schema : Option String := none
  table : String
  isUnique : Bool := false
  onlyIfMissing : Bool := false
  terms : List (Term × Direction) := []
  condition : Option Term := none
  sql : Option String := none

def newIndexFault? (t : Table) (d : IndexDefinition) : Option Fault :=
  if d.terms.any fun (_, o) => o.nullsFirst.isSome then
    some (.operational "unsupported use of NULLS")
  else
    (d.terms.map (·.1) ++ d.condition.toList).findSome? fun u =>
      match u.column?, u with
      | some n, .literal _ => if (t.column? n).isSome then none else some (Fault.noColumn n)
      | _, u => t.fixedTermFault? u

def tableOfIndex (c : Content) (d : IndexDefinition) : Except Fault (Place × Table) :=
  match d.schema with
  | some s =>
    match Place.ofName? s with
    | none => .error (.operational ("unknown database " ++ s))
    | some p =>
      match c.tableIn? p d.table with
      | some t => .ok (p, t)
      | none => .error (Fault.noTable d.table)
  | none => c.findTable none d.table

def createIndex (c : Content) (d : IndexDefinition) : Except Fault Content := do
  let (p, t) ← c.tableOfIndex d
  if isOwnName t.name then
    .error (.operational ("table " ++ t.name ++ " may not be indexed"))
  if isOwnName d.name then
    .error (.operational ("object name reserved for internal use: " ++ d.name))
  if (c.tableIn? p d.name).isSome then
    .error (.operational ("there is already a table named " ++ d.name))
  if (c.index? p d.name).isSome then
    if d.onlyIfMissing then return c
    else .error (.operational ("index " ++ d.name ++ " already exists"))
  if let some f := newIndexFault? t d then .error f
  let index : Index := {
    name := d.name
    table := t.name
    isUnique := d.isUnique
    terms := d.terms.map fun (u, _) =>
      let u := (u.column?.bind t.column?).elim u fun c => .name [c.name] false
      let s := t.scope ⟨0, []⟩
      (u, ((s.explicit? u).orElse fun _ => s.implicit? u).getD .binary)
    condition := d.condition
    sql := d.sql }
  return c.add p (.index index)

end Content

end SchemaMigration.Sqlite
