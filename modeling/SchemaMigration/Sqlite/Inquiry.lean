import SchemaMigration.Sqlite.Document.Dissection
import SchemaMigration.Sqlite.Scope
import SchemaMigration.Sqlite.Setting

namespace SchemaMigration.Sqlite

namespace Term

def plainText? : Term → Option String
  | .literal c => some c.quoted
  | .clock word => some word
  | .lead .minus t => (plainText? t).map ("-" ++ ·)
  | .lead .plus t => (plainText? t).map ("+" ++ ·)
  | _ => none

end Term

namespace Table

def placeInKey (t : Table) (column : String) : Nat :=
  match t.key.findIdx? (sameName column) with
  | some n => n + 1
  | none => 0

def columnRows (t : Table) (isLong : Bool) : List (List Cell) :=
  let shown := t.columns.filter fun c => isLong || c.generated.isNone
  shown.zipIdx.map fun (c, n) =>
    [.int n, .text c.name, .text c.type, .ofBool c.isNotNull,
      ((c.default?.bind Term.plainText?).map Cell.text).getD .null, .int (t.placeInKey c.name)] ++
    if isLong then [.int (if c.generated.isSome then 2 else 0)] else []

def references (t : Table) : List (List String × String × List String) :=
  (t.definition.columns.flatMap fun c => c.rules.filterMap fun
    | .refers table others => some ([c.name], table, others)
    | _ => none) ++
  t.definition.rules.filterMap fun
    | .refers names table others => some (names, table, others)
    | _ => none

def referenceRows (t : Table) : List (List Cell) :=
  t.references.reverse.zipIdx.flatMap fun ((names, table, others), id) =>
    names.zipIdx.map fun (n, k) =>
      [.int id, .int k, .text table, .text n, ((others[k]?).map Cell.text).getD .null,
        .text "NO ACTION", .text "NO ACTION", .text "NONE"]

end Table

namespace Index

def listRows (indexes : List Index) : List (List Cell) :=
  indexes.reverse.zipIdx.map fun (i, n) =>
    [.int n, .text i.name, .ofBool i.isUnique, .text (if i.sql.isSome then "c" else "u"),
      .ofBool i.condition.isSome]

end Index

namespace Content

def namingQuestions : List String :=
  ["table_info", "table_xinfo", "index_list", "foreign_key_list", "index_info", "index_xinfo",
    "foreign_key_check"]

def answered : List String :=
  namingQuestions ++ ["table_list", "database_list", "collation_list", "page_count",
    "schema_version", "pragma_list", "optimize", "temp_store_directory"]

def questionNames : List String :=
  (inquiries.map (·.1) ++ ["case_sensitive_like", "incremental_vacuum", "mmap_size",
    "shrink_memory",
    "temp_store_directory", "wal_autocheckpoint", "wal_checkpoint"]).mergeSort fun a b =>
      decide (a ≤ b)

def asksOf (schema : Option String) : List Place :=
  match schema.bind Place.ofName? with
  | some p => [p]
  | none => searched

def indexRows (t : Table) (i : Index) (isLong : Bool) : List (List Cell) :=
  let covered := i.terms.zipIdx.map fun ((u, collation), n) =>
    let place : Option Nat := match u with
      | .name path _ => t.columns.findIdx? fun c => sameName c.name ((path.getLast?).getD "")
      | _ => none
    let column : Option Column := place.bind fun k => t.columns[k]?
    [.int n, .int ((place.map Int.ofNat).getD (-2)), (column.map (Cell.text ·.name)).getD .null] ++
    if isLong then [.int 0, .text collation.name, .int 1] else []
  covered ++
    if isLong && !t.isKeyOrdered then
      [[.int i.terms.length, .int (-1), .null, .int 0, .text Collation.binary.name, .int 0]]
    else []

def tableRows (c : Content) (p : Place) : List (List Cell) :=
  let row := fun (t : Table) =>
    [.text p.name, .text t.name, .text "table", .int t.columns.length, .ofBool t.isKeyOrdered,
      .ofBool t.definition.isStrict]
  let catalog := if p == .temp then "sqlite_temp_schema" else "sqlite_schema"
  ((c.entries p).filterMap fun
    | .table t => some (row t)
    | .index _ => none).reverse ++ [row (.catalog catalog [])]

def pageCount (c : Content) (p : Place) : Nat :=
  if (c.entries p).isEmpty then 0 else (c.entries p).length + 1

def statementCount (c : Content) (p : Place) : Nat :=
  ((c.entries p).filter fun e => e.sql.isSome && !isOwnName e.name).length

/-- The rows that answer a question on a table, in a schema or in the first one that has the
table. -/
def answerRows (c : Content) (question : String) (schema about : Option String) :
    List (List Cell) :=
  let places := asksOf schema
  let table := about.bind fun n => places.findSome? fun p => (c.tableIn? p n).map fun t => (p, t)
  let index := about.bind fun n => places.findSome? fun p => do
    let i ← c.index? p n
    let t ← c.storedTable? p i.table
    some (i, t)
  let place := (schema.bind Place.ofName?).getD .main
  match question, table, index with
  | "table_info", some (_, t), _ => t.columnRows false
  | "table_xinfo", some (_, t), _ => t.columnRows true
  | "index_list", some (p, t), _ => Index.listRows (c.indexesOf p t.name)
  | "foreign_key_list", some (_, t), _ => t.referenceRows
  | "index_info", _, some (i, t) => indexRows t i false
  | "index_xinfo", _, some (i, t) => indexRows t i true
  | "table_list", _, _ =>
    let rows := (if schema.isSome then places else places.reverse).flatMap c.tableRows
    rows.filter fun row => about.all fun n => row[1]?.any fun c => sameName c.toText n
  | "database_list", _, _ => [[.int 0, .text "main", .text ""]]
  | "collation_list", _, _ =>
    ["RTRIM", "NOCASE", "BINARY"].zipIdx.map fun (n, k) => [.int k, .text n]
  | "pragma_list", _, _ => questionNames.map fun n => [.text n]
  | "page_count", _, _ => [[.int (c.pageCount place)]]
  | "schema_version", _, _ => [[.int (c.statementCount place)]]
  | _, _, _ => []

def answer? (c : Content) (question : String) (schema about : Option String) : Option Rows :=
  let question := question.toLower
  let columns := answerColumns question
  if question == "wal_checkpoint" then
    some (.named ["busy", "log", "checkpointed"] [[.int 0, .int (-1), .int (-1)]])
  else if answered.contains question then some (.named columns (c.answerRows question schema about))
  else (settingCell? question about).map fun cell => .named columns [[cell]]

def placeQuestions : List String :=
  ["auto_vacuum", "cache_size", "default_cache_size", "journal_mode", "journal_size_limit",
    "locking_mode", "max_page_count", "page_count", "page_size", "synchronous"]

def mostArguments (question : String) : Nat :=
  if (namingQuestions ++ examinations).contains question then 2
  else if (["table_list", "optimize"] ++ placeQuestions).contains question then 1
  else 0

def dissected (isDeep : Bool) (names : List String) (cells : List Cell) : Except Fault Rows :=
  (Document.rowsOf isDeep cells).map fun rows =>
    ⟨names.map fun n => { name := n, holdsDocuments := n == "value" }, rows⟩

/-- The rows that a query takes from a question, given the cells that the question is asked with:
what it is about, then the schema. -/
def asked (c : Content) (name : String) (cells : List Cell) : Except Fault Rows :=
  let tooMany : Except Fault Rows :=
    .error (.operational ("too many arguments on " ++ name ++ "()"))
  let texts := cells.map fun cell => if cell.isNull then none else some cell.toText
  let first := (texts.head?).getD none
  match dissections.lookup name.toLower, inquiryOf? name with
  | some names, _ =>
    if 2 < cells.length then tooMany
    else if name.toLower == "fts3tokenize" then .ok (.named names [])
    else dissected (name.toLower == "json_tree") names cells
  | none, none => .error (Fault.noTable name)
  | none, some question =>
    let (schema, about) :=
      if placeQuestions.contains question then (first, none) else ((texts[1]?).getD none, first)
    if mostArguments question < cells.length then tooMany
    else if schema.any fun s => (Place.ofName? s).isNone then
      .error (.operational ("unknown database " ++ schema.getD ""))
    else .ok ((c.answer? question schema about).getD (.named (answerColumns question) []))

end Content

end SchemaMigration.Sqlite
