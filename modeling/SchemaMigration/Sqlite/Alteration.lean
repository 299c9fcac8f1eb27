import SchemaMigration.Sqlite.Writing

namespace SchemaMigration.Sqlite

def quotedName (n : String) : String :=
  String.ofList ('"' :: n.toList.flatMap (fun c => if c == '"' then [c, c] else [c]) ++ ['"'])

namespace DefinitionText

def renamed (sql name : String) : String :=
  match lexemes sql with
  | create :: table :: _ :: rest =>
    written [create, table] ++ " " ++ quotedName name ++
      String.ofList (rest.flatMap fun l => l.gap ++ l.raw)
  | _ => sql

def withTarget (sql old new : String) : String :=
  let ls := lexemes sql
  let before := none :: ls.map some
  let after := (ls.map some).drop 1 ++ [none]
  written (List.zipWith (fun (a, c) (b : Lexeme) =>
    let isTarget := (a.map fun (l : Lexeme) => l.token.isWord "REFERENCES").getD false ||
      (c.map fun (l : Lexeme) => l.token == .mark ".").getD false
    if isTarget && (b.token.nameOrText?.map (sameName old)).getD false then
      { b with raw := (quotedName new).toList }
    else b) (before.zip after) ls)

def columnEnds : Nat → List Token → List Nat
  | 0, _ => []
  | fuel + 1, s =>
    match Grammar.columnDefinition? s with
    | none => []
    | some (_, rest) =>
      match Grammar.mark? "," rest with
      | some more =>
        if ((more.head?.bind Token.keyword?).map Grammar.ruleWords.contains).getD false then
          [rest.length]
        else rest.length :: columnEnds fuel more
      | none => [rest.length]

def split (ls : List Lexeme) : List Lexeme × List Lexeme :=
  let isOpening := fun (l : Lexeme) => l.token == .mark "("
  (ls.takeWhile (!isOpening ·) ++ (ls.find? isOpening).toList, (ls.dropWhile (!isOpening ·)).drop 1)

def withColumn (sql column : String) : String :=
  let ls := lexemes sql
  let (front, body) := split ls
  match (columnEnds (body.length + 1) (body.map Lexeme.token)).getLast? with
  | some n =>
    let (columns, rest) := body.splitAt (body.length - n)
    written (front ++ columns) ++ String.ofList ((rest.head?.map Lexeme.gap).getD []) ++
      ", " ++ column ++
      written rest
  | none => sql

def withoutColumn (sql : String) (place : Nat) : String :=
  let ls := lexemes sql
  let (front, body) := split ls
  let ends := (columnEnds (body.length + 1) (body.map Lexeme.token)).map (body.length - ·)
  let start := if place == 0 then 0 else (ends[place - 1]?.getD 0) + 1
  let stop := ends[place]?.getD 0
  if place + 1 == ends.length then
    written (front ++ body.take (start - 1)) ++
      String.ofList ((body[start - 1]?.map Lexeme.gap).getD []) ++ written (body.drop stop)
  else
    written (front ++ body.take start) ++
      String.ofList ((body[start]?.map Lexeme.gap).getD []) ++ written (body.drop (stop + 1))

/-- The text of a definition with a name replaced wherever it stands. The new name is put in quotes
where the old one is, or everywhere. -/
def withName (sql old new : String) (inQuotes : Bool) : String :=
  written ((lexemes sql).map fun l =>
    match l.token, l.token.identifier? with
    | .word _, some n =>
      if sameName n old then
        { l with raw := (if inQuotes then quotedName new else new).toList } else l
    | _, some n => if sameName n old then { l with raw := (quotedName new).toList } else l
    | _, none => l)

end DefinitionText

namespace TableDefinition

def mapTerms (f : Term → Term) (d : TableDefinition) : TableDefinition :=
  { d with
    columns := d.columns.map fun c => { c with
      rules := c.rules.map fun
        | .check t => .check (f t)
        | .generated t => .generated (f t)
        | r => r }
    rules := d.rules.map fun
      | .key ts counts => .key (ts.map f) counts
      | .unique ts => .unique (ts.map f)
      | .check t => .check (f t)
      | r => r }

def strict (d : TableDefinition) : TableDefinition :=
  d.mapTerms (Term.strict fun n => d.columns.any fun c => sameName c.name n)

def rename (d : TableDefinition) (old new : String) : TableDefinition :=
  let swap := fun n => if sameName n old then new else n
  let d := d.mapTerms (Term.swapNames fun path =>
    match path.reverse with
    | n :: front => (swap n :: front).reverse
    | [] => [])
  { d with
    columns := d.columns.map fun c => { c with name := swap c.name }
    rules := d.rules.map fun
      | .refers ns table others => .refers (ns.map swap) table others
      | .key ts counts => .key (ts.map (swapText swap)) counts
      | .unique ts => .unique (ts.map (swapText swap))
      | r => r }
where
  swapText (swap : String → String) : Term → Term
    | .literal (.text n) => .literal (.text (swap n))
    | t => t

end TableDefinition

namespace Content

def alterable (c : Content) (schema : Option String) (name : String) :
    Except Fault (Place × Table) := do
  let (p, t) ← c.findTable schema name
  if isOwnName t.name then .error (.operational ("table " ++ t.name ++ " may not be altered"))
  return (p, t)

def redefined (d : TableDefinition) (sql : Option String) (rows : List Row) :
    Except Fault Table := do
  let u ← Table.ofDefinition d sql
  return { u with rows := rows }

def mapIndexes (c : Content) (p : Place) (table : String) (f : Index → Index) : Content :=
  c.setEntries p ((c.entries p).map fun
    | .index i => if sameName i.table table then .index (f i) else .index i
    | e => e)

/-- What is wrong with the indexes of a table once its columns have changed. Names in double quotes
are no texts then. -/
def indexFault? (c : Content) (p : Place) (table : String) : Option Fault :=
  (c.storedTable? p table).bind fun t =>
    let terms := (c.indexesOf p table).flatMap fun i => i.terms.map (·.1) ++ i.condition.toList
    terms.findSome? fun u => t.termFault? (Term.strict (fun _ => true) u)

def renameTable (c : Content) (schema : Option String) (name new : String) :
    Except Fault Content := do
  let (p, t) ← c.alterable schema name
  if isOwnName new then
    .error (.operational ("object name reserved for internal use: " ++ new))
  if c.isTaken p new then
    .error (.operational ("there is already another table or index with this name: " ++ new))
  let d := t.definition.mapTerms (Term.swapNames fun
    | [n, column] => [if sameName n t.name then new else n, column]
    | path => path)
  let u ← redefined { d with name := new } (t.sql.map fun s =>
    DefinitionText.withTarget (DefinitionText.renamed s new) t.name new) t.rows
  let c := c.mapIndexes p t.name fun i =>
    let start := "sqlite_autoindex_" ++ t.name ++ "_"
    { i with
      table := new
      name :=
        if start.toList.isPrefixOf i.name.toList then
          "sqlite_autoindex_" ++ new ++ "_" ++ String.ofList (i.name.toList.drop start.length)
        else i.name
      sql := i.sql.map fun s => DefinitionText.withName s t.name new true }
  let c := c.putTable p t.name u
  return c.setEntries p ((c.entries p).map fun
    | .table v =>
      let isReferring := v.definition.columns.any (fun d => d.rules.any (refersTo t.name)) ||
        v.definition.rules.any (ruleRefersTo t.name)
      if isReferring then
        .table { v with sql := v.sql.map fun s => DefinitionText.withTarget s t.name new }
      else .table v
    | e => e)
where
  refersTo (n : String) : ColumnRule → Bool
    | .refers t _ => sameName t n
    | _ => false
  ruleRefersTo (n : String) : TableRule → Bool
    | .refers _ t _ => sameName t n
    | _ => false

def renameColumn (c : Content) (schema : Option String) (name old new : String) (inQuotes : Bool) :
    Except Fault Content := do
  let (p, t) ← c.alterable schema name
  match t.column? old with
  | none => .error (Fault.noColumn old)
  | some column => do
    let d := t.definition.rename column.name new
    let u ← redefined d (t.sql.map fun s =>
      DefinitionText.withName s column.name new inQuotes) t.rows
    let swap := Term.swapNames fun path =>
      path.map fun n => if sameName n column.name then new else n
    let c := c.mapIndexes p t.name fun i =>
      { i with
        terms := i.terms.map fun (u, k) => (swap u, k)
        condition := i.condition.map swap
        sql := i.sql.map fun s => DefinitionText.withName s column.name new inQuotes }
    let c := c.putTable p t.name u
    if let some f := c.indexFault? p t.name then .error f
    return c

def isPlainDefault : Term → Bool
  | .literal _ => true
  | .lead .plus t | .lead .minus t => isPlainDefault t
  | .cast t _ => isPlainDefault t
  | _ => false

def isNullDefault : Option Term → Bool
  | none | some (.literal .null) => true
  | _ => false

def addColumn (c : Content) (schema : Option String) (name : String) (d : ColumnDefinition)
    (text : String) : Except Fault Content := do
  let (p, t) ← c.alterable schema name
  let column ← Column.ofDefinition t.definition.isStrict d
  let isKeyed := d.rules.any fun
    | .key .. | .unique => true
    | _ => false
  if isKeyed then .error (.operational "Cannot add a PRIMARY KEY or UNIQUE column")
  if column.generated.isNone && !t.rows.isEmpty then
    if column.isNotNull && isNullDefault column.default? then
      .error (.operational "Cannot add a NOT NULL column with default value NULL")
    if !isNullDefault column.default? && !(column.default?.map isPlainDefault).getD true then
      .error (.operational "Cannot add a column with non-constant default")
  let cell ← if t.rows.isEmpty then .ok Cell.null else column.defaultCell
  let rows := t.rows.map fun r => { r with cells := r.cells ++ [cell] }
  let definition := { t.definition with columns := t.definition.columns ++ [d] }
  let u ← redefined definition (t.sql.map fun s => DefinitionText.withColumn s text) rows
  let rows ← u.rows.mapM u.withGenerated
  if d.rules.any fun
      | .check _ | .generated _ => true
      | _ => false then
    for row in rows do u.rowFault? row
  return c.putTable p t.name { u with rows := rows }

def dropColumn (c : Content) (schema : Option String) (name column : String) :
    Except Fault Content := do
  let (p, t) ← c.alterable schema name
  match t.columns.findIdx? fun d => sameName d.name column with
  | none => .error (Fault.noColumn column)
  | some place => do
    let isKeyed := t.key.any (sameName column) ||
      ((t.definition.columns[place]?.map ColumnDefinition.rules).getD []).any fun
        | .unique => true
        | _ => false
    if isKeyed || t.columns.length ≤ 1 then
      .error (.operational ("cannot drop column \"" ++ column ++ "\""))
    let definition :=
      { t.definition.strict with columns := t.definition.strict.columns.eraseIdx place }
    let rows := t.rows.map fun r => { r with cells := r.cells.eraseIdx place }
    let u ← redefined definition (t.sql.map fun s => DefinitionText.withoutColumn s place) rows
    let c := c.putTable p t.name u
    if let some f := c.indexFault? p t.name then .error f
    return c

def dropTable (c : Content) (schema : Option String) (name : String) (onlyIfPresent : Bool) :
    Except Fault Content :=
  match c.findTable schema name with
  | .error f => if onlyIfPresent then .ok c else .error f
  | .ok (p, t) =>
    if isOwnName t.name then .error (.operational ("table " ++ t.name ++ " may not be dropped"))
    else
      .ok (c.setEntries p ((c.entries p).filter fun e => !sameName e.tableName t.name))

def dropIndex (c : Content) (schema : Option String) (name : String) (onlyIfPresent : Bool) :
    Except Fault Content :=
  let places :=
    match schema with
    | some s => (Place.ofName? s).toList
    | none => searched
  match places.findSome? fun p => (c.index? p name).map fun i => (p, i) with
  | none => if onlyIfPresent then .ok c else .error (.operational ("no such index: " ++ name))
  | some (p, i) =>
    if i.sql.isNone then
      .error
        (.operational "index associated with UNIQUE or PRIMARY KEY constraint cannot be dropped")
    else
      .ok (c.setEntries p ((c.entries p).filter fun
        | .index j => !sameName j.name i.name
        | .table _ => true))

end Content

end SchemaMigration.Sqlite
