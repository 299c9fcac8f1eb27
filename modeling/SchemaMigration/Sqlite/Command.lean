import SchemaMigration.Sqlite.Alteration

namespace SchemaMigration.Sqlite

inductive Command
  | createTable (schema : Option String) (isTemporary onlyIfMissing : Bool) (d : TableDefinition)
      (sql : String)
  | createIndex (d : Content.IndexDefinition)
  | dropTable (schema : Option String) (name : String) (onlyIfPresent : Bool)
  | dropIndex (schema : Option String) (name : String) (onlyIfPresent : Bool)
  | renameTable (schema : Option String) (name new : String)
  | renameColumn (schema : Option String) (table old new : String) (inQuotes : Bool)
  | addColumn (schema : Option String) (table : String) (d : ColumnDefinition) (text : String)
  | dropColumn (schema : Option String) (table column : String)
  | insert (schema : Option String) (table : String) (columns : List String) (q : Option Query)
      (told : List ResultColumn)
  | update (schema : Option String) (table : String) (alias_ : Option String)
      (sets : List (String × Term)) (condition : Option Term) (told : List ResultColumn)
  | delete (schema : Option String) (table : String) (alias_ : Option String)
    (condition : Option Term)
      (told : List ResultColumn)
  | query (q : Query)
  | pragma (schema : Option String) (name : String) (about : Option String)
  | control (isEnd : Bool)
  | explain (c : Command)
  | nothing

abbrev Answer := Option Rows

namespace Grammar

def tokens (ls : List Lexeme) : List Token := ls.map Lexeme.token

def after? (ws : List String) (ls : List Lexeme) : Option (List Lexeme) :=
  (words? ws (tokens ls)).map fun _ => ls.drop ws.length

def placed? (ls : List Lexeme) : Option ((Option String × String) × List Lexeme) := do
  let (n, rest) ← qualifiedName? (tokens ls)
  some (n, ls.drop (ls.length - rest.length))

def whole? {α : Type} (found : Option (α × List Token)) : Option α :=
  match found with
  | some (a, []) => some a
  | _ => none

def createTable? (isTemporary : Bool) (ls : List Lexeme) : Option Command := do
  let missing := (after? ["IF", "NOT", "EXISTS"] ls)
  let ls := missing.getD ls
  let ((schema, n), rest) ← placed? ls
  let d ← whole? (tableDefinition? n (tokens rest))
  let text := ls.drop (if schema.isSome then 2 else 0)
  some (.createTable schema isTemporary missing.isSome d ("CREATE TABLE " ++ written text))

def createIndex? (isUnique : Bool) (ls : List Lexeme) : Option Command := do
  let missing := (after? ["IF", "NOT", "EXISTS"] ls)
  let ls := missing.getD ls
  let ((schema, n), rest) ← placed? ls
  let rest ← words? ["ON"] (tokens rest)
  let (t, rest) ← name? rest
  let rest ← mark? "(" rest
  let (terms, rest) ← sortTerms (rest.length + 1) rest
  let rest ← mark? ")" rest
  let condition ←
    match words? ["WHERE"] rest with
    | some rest => (whole? (term? rest)).map some
    | none => if rest.isEmpty then some none else none
  let text := ls.drop (if schema.isSome then 2 else 0)
  some (.createIndex {
    name := n, schema := schema, table := t, isUnique := isUnique, onlyIfMissing := missing.isSome
    terms := terms, condition := condition
    sql := some ((if isUnique then "CREATE UNIQUE INDEX " else "CREATE INDEX ") ++ written text) })

def drop? (ls : List Lexeme) : Option (Option String × String × Bool) := do
  let present := after? ["IF", "EXISTS"] ls
  let ((schema, n), rest) ← placed? (present.getD ls)
  if rest.isEmpty then some (schema, n, present.isSome) else none

def alterTable? (ls : List Lexeme) : Option Command := do
  let ((schema, t), rest) ← placed? ls
  match after? ["RENAME", "TO"] rest, after? ["RENAME"] rest, after? ["ADD"] rest,
      after? ["DROP"] rest with
  | some rest, _, _, _ => do
    let new ← whole? (name? (tokens rest))
    some (.renameTable schema t new)
  | _, some rest, _, _ => do
    let rest := (optional ["COLUMN"] (tokens rest)).2
    let (old, rest) ← name? rest
    let rest ← words? ["TO"] rest
    let new ← whole? (name? rest)
    let inQuotes := (rest.head?.bind Token.keyword?).isNone
    some (.renameColumn schema t old new inQuotes)
  | _, _, some rest, _ => do
    let rest := (after? ["COLUMN"] rest).getD rest
    let d ← whole? (columnDefinition? (tokens rest))
    some (.addColumn schema t d (written rest))
  | _, _, _, some rest => do
    let rest := (optional ["COLUMN"] (tokens rest)).2
    let n ← whole? (name? rest)
    some (.dropColumn schema t n)
  | _, _, _, _ => none

def alternative? (s : List Token) : Option (List Token) :=
  match words? ["OR"] s with
  | none => some s
  | some rest =>
    ["ROLLBACK", "ABORT", "FAIL", "IGNORE", "REPLACE"].findSome? fun w => words? [w] rest

def told? (s : List Token) : Option (List ResultColumn) :=
  match words? ["RETURNING"] s with
  | some rest => whole? (resultColumns (fuelFor rest) rest)
  | none => if s.isEmpty then some [] else none

def insert? (s : List Token) : Option Command := do
  let s ← words? ["INTO"] s
  let ((schema, t), s) ← qualifiedName? s
  let s := match words? ["AS"] s with
    | some rest => rest.drop 1
    | none => s
  let (columns, s) ← nameList? s
  match words? ["DEFAULT", "VALUES"] s with
  | some rest => (told? rest).map (.insert schema t columns none)
  | none => do
    let (q, rest) ← query? s
    (told? rest).map (.insert schema t columns (some q))

def assignments : Nat → List Token → Option (List (String × Term) × List Token)
  | 0, _ => none
  | fuel + 1, s => do
    let (n, s) ← name? s
    let s ← mark? "=" s
    let (t, s) ← term? s
    match mark? "," s with
    | some rest => do
      let (more, rest) ← assignments fuel rest
      some ((n, t) :: more, rest)
    | none => some ([(n, t)], s)

def target? (s : List Token) : Option ((Option String × String × Option String) × List Token) := do
  let ((schema, t), s) ← qualifiedName? s
  match words? ["AS"] s with
  | some rest => do
    let (n, rest) ← name? rest
    some ((schema, t, some n), rest)
  | none => some ((schema, t, none), s)

def condition? (s : List Token) : Option (Option Term × List Token) :=
  match words? ["WHERE"] s with
  | some rest => (term? rest).map fun (t, rest) => (some t, rest)
  | none => some (none, s)

def update? (s : List Token) : Option Command := do
  let s ← alternative? s
  let ((schema, t, a), s) ← target? s
  let s ← words? ["SET"] s
  let (sets, s) ← assignments (s.length + 1) s
  let (c, s) ← condition? s
  (told? s).map (.update schema t a sets c)

def delete? (s : List Token) : Option Command := do
  let s ← words? ["FROM"] s
  let ((schema, t, a), s) ← target? s
  let (c, s) ← condition? s
  (told? s).map (.delete schema t a c)

def about? : List Token → Option String
  | [.mark "-", t] => (about? [t]).map ("-" ++ ·)
  | [t] =>
    match t, t.keyword? with
    | .whole n, _ => some (toString n)
    | _, some w => if ["ON", "DELETE", "DEFAULT"].contains w then some w else t.nameOrText?
    | t, none => t.nameOrText?
  | _ => none

def pragma? (s : List Token) : Option Command := do
  let ((schema, n), s) ← qualifiedName? s
  match s with
  | [] => some (.pragma schema n none)
  | .mark "=" :: rest => (about? rest).map fun a => .pragma schema n (some a)
  | .mark "(" :: rest =>
    if rest.getLast? == some (.mark ")") then
      (about? rest.dropLast).map fun a => .pragma schema n (some a)
    else none
  | _ => none

def control? (s : List Token) : Option Command :=
  let starts := ["", "DEFERRED", "IMMEDIATE", "EXCLUSIVE"].map fun w =>
    ["BEGIN", w].filter (· != "")
  let ends := [["COMMIT"], ["END"], ["ROLLBACK"]]
  let isOne := fun (forms : List (List String)) =>
    forms.any fun ws => words? ws s == some [] || words? (ws ++ ["TRANSACTION"]) s == some []
  let isNamed := fun (forms : List (List String)) =>
    forms.any fun ws => ((words? ws s).bind fun rest => whole? (name? rest)).isSome
  if isOne starts || [["ANALYZE"], ["REINDEX"], ["VACUUM"]].any
    (fun ws => words? ws s == some []) ||
      isNamed [["SAVEPOINT"]] then
    some (.control false)
  else if isOne ends || isNamed [["RELEASE"], ["RELEASE", "SAVEPOINT"], ["ROLLBACK", "TO"],
      ["ROLLBACK", "TO", "SAVEPOINT"], ["DETACH"], ["DETACH", "DATABASE"]] then
    some (.control true)
  else none

def plainCommand? (ls : List Lexeme) : Option Command :=
  let s := tokens ls
  match s.head?.bind Token.keyword? with
  | some "CREATE" =>
    [(["CREATE", "TABLE"], createTable? false), (["CREATE", "TEMP", "TABLE"], createTable? true),
      (["CREATE", "TEMPORARY", "TABLE"], createTable? true),
      (["CREATE", "INDEX"], createIndex? false),
      (["CREATE", "UNIQUE", "INDEX"], createIndex? true)].findSome? fun (ws, read) =>
        (after? ws ls).bind read
  | some "DROP" =>
    match (after? ["DROP", "TABLE"] ls).bind drop?, (after? ["DROP", "INDEX"] ls).bind drop? with
    | some (schema, n, present), _ => some (.dropTable schema n present)
    | _, some (schema, n, present) => some (.dropIndex schema n present)
    | _, _ => none
  | some "ALTER" => (after? ["ALTER", "TABLE"] ls).bind alterTable?
  | some "INSERT" => (alternative? (s.drop 1)).bind insert?
  | some "REPLACE" => insert? (s.drop 1)
  | some "UPDATE" => update? (s.drop 1)
  | some "DELETE" => delete? (s.drop 1)
  | some "PRAGMA" => pragma? (s.drop 1)
  | some "SELECT" | some "VALUES" | some "WITH" => (whole? (query? s)).map .query
  | _ => control? s

def command? (ls : List Lexeme) : Option Command :=
  match after? ["EXPLAIN"] ls with
  | some rest => (plainCommand? rest).map .explain
  | none => plainCommand? ls

end Grammar

namespace Command

def read (sql : String) : Except Fault Command :=
  if sql.toList.contains '\x00' then .error (.programming "the query contains a null character")
  else
    let isEnd := fun (l : Lexeme) => l.token == .mark ";"
    let ls := (lexemes sql).dropWhile isEnd
    let first := ls.takeWhile (!isEnd ·)
    let rest := (ls.drop first.length).drop 1
    if ls.isEmpty then .ok .nothing
    else
      match Grammar.command? first with
      | none => .error Fault.syntaxError
      | some c =>
        if first.any fun l => l.token == .parameter then
          .error (.programming "Incorrect number of bindings supplied")
        else if rest.isEmpty then .ok c
        else .error (.programming "You can only execute one statement at a time.")

def changesRows : Command → Bool
  | .insert .. | .update .. | .delete .. => true
  | _ => false

def placeOf (schema : Option String) (isTemporary : Bool) : Except Fault Place :=
  match schema with
  | none => .ok (if isTemporary then .temp else .main)
  | some s =>
    match Place.ofName? s with
    | some p =>
      if isTemporary && p != .temp then
        .error (.operational "temporary table name must be unqualified")
      else .ok p
    | none => .error (.operational ("unknown database " ++ s))

def firstStep : Rows :=
  .named ["addr", "opcode", "p1", "p2", "p3", "p4", "p5", "comment"]
    [[.int 0, .text "Init", .int 0, .int 0, .int 0, .null, .int 0, .null]]

def run (c : Content) : Command → Except Fault (Content × Answer)
  | .createTable schema isTemporary onlyIfMissing d sql => do
    let p ← placeOf schema isTemporary
    if onlyIfMissing && (c.tableIn? p d.name).isSome then return (c, none)
    let t ← Table.ofDefinition d (some sql)
    let c ← c.createTable p t
    return (c, none)
  | .createIndex d => do
    let after ← c.createIndex d
    let (p, t) ← c.tableOfIndex d
    if let some i := after.index? p d.name then t.existingFault? i t.rows
    return (after, none)
  | .dropTable schema n present => (c.dropTable schema n present).map fun c => (c, none)
  | .dropIndex schema n present => (c.dropIndex schema n present).map fun c => (c, none)
  | .renameTable schema t new => (c.renameTable schema t new).map fun c => (c, none)
  | .renameColumn schema t old new inQuotes =>
    (c.renameColumn schema t old new inQuotes).map fun c => (c, none)
  | .addColumn schema t d text => (c.addColumn schema t d text).map fun c => (c, none)
  | .dropColumn schema t n => (c.dropColumn schema t n).map fun c => (c, none)
  | .insert schema t columns q told => do
    let (after, taken) ← c.insert schema t columns q
    return (after, ← after.told taken told)
  | .update schema t a sets condition told => do
    let (after, taken) ← c.update schema t a sets condition
    return (after, ← after.told taken told)
  | .delete schema t a condition told => do
    let (after, taken) ← c.delete schema t a condition
    return (after, ← after.told taken told)
  | .query q => (q.evaluate c).map fun rows => (c, some rows)
  | .pragma schema n about =>
    if schema.any fun s => (Place.ofName? s).isNone then
      .error (.operational ("unknown database " ++ schema.getD ""))
    else .ok (c, c.answer? n schema about)
  | .control true => .error (.operational "cannot commit - no transaction is active")
  | .control false | .nothing => .ok (c, none)
  | .explain d =>
    match d.run c with
    | .error f => if f.isStatic then .error f else .ok (c, some firstStep)
    | .ok _ => .ok (c, some firstStep)

end Command

namespace Content

def execute (c : Content) (sql : String) : Except Fault (Content × Answer) := do
  let command ← Command.read sql
  command.run c

end Content

end SchemaMigration.Sqlite
