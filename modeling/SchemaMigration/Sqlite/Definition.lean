import SchemaMigration.Sqlite.Grammar

namespace SchemaMigration.Sqlite

inductive ColumnRule
  | notNull
  | key (descends counts : Bool)
  | unique
  | check (t : Term)
  | default? (t : Term)
  | collate (name : String)
  | refers (table : String) (columns : List String)
  | generated (t : Term)

structure ColumnDefinition where
  name : String
  type : String := ""
  rules : List ColumnRule := []

inductive TableRule
  | key (terms : List Term) (counts : Bool)
  | unique (terms : List Term)
  | check (t : Term)
  | refers (columns : List String) (table : String) (others : List String)

structure TableDefinition where
  name : String
  columns : List ColumnDefinition := []
  rules : List TableRule := []
  isStrict : Bool := false
  isKeyOrdered : Bool := false

namespace Grammar

def conflict? (s : List Token) : Option (List Token) :=
  match words? ["ON"] s with
  | none => some s
  | some _ =>
    ["ROLLBACK", "ABORT", "FAIL", "IGNORE", "REPLACE"].findSome? fun w =>
      words? ["ON", "CONFLICT", w] s

def nameList? (s : List Token) : Option (List String × List Token) :=
  match mark? "(" s with
  | some rest => do
    let (ns, rest) ← names? (rest.length + 1) rest
    let rest ← mark? ")" rest
    some (ns, rest)
  | none => some ([], s)

def actions : List (List String) :=
  [["SET", "NULL"], ["SET", "DEFAULT"], ["CASCADE"], ["RESTRICT"], ["NO", "ACTION"]]

def events : List (List String) := [["ON", "DELETE"], ["ON", "UPDATE"], ["ON", "INSERT"]]

def referenceClauses : Nat → List Token → Option (List Token)
  | 0, s => some s
  | fuel + 1, s =>
    match words? ["MATCH"] s, events.findSome? fun ws => words? ws s with
    | some rest, _ => do
      let (_, rest) ← name? rest
      referenceClauses fuel rest
    | none, some rest => do
      let rest ← actions.findSome? fun ws => words? ws rest
      referenceClauses fuel rest
    | none, none => some s

def reference? (s : List Token) : Option ((String × List String) × List Token) := do
  let (t, s) ← name? s
  let (ns, s) ← nameList? s
  let s ← referenceClauses (s.length + 1) s
  some ((t, ns), s)

def deferral? (s : List Token) : Option (List Token) :=
  match words? ["NOT", "DEFERRABLE"] s, words? ["DEFERRABLE"] s with
  | some rest, _ | none, some rest =>
    match words? ["INITIALLY"] rest with
    | none => some rest
    | some _ =>
      (words? ["INITIALLY", "DEFERRED"] rest).orElse fun _ => words? ["INITIALLY", "IMMEDIATE"] rest
  | none, none => none

def default? (s : List Token) : Option (Term × List Token) :=
  match s with
  | .mark "(" :: rest => do
    let (t, rest) ← term? rest
    let rest ← mark? ")" rest
    some (t, rest)
  | .mark "+" :: t :: rest => (plainDefault? t).map fun u => (.lead .plus u, rest)
  | .mark "-" :: t :: rest =>
    if isLeast (.literal .null) [t] then some (.literal (.int (-Cell.intLimit)), rest)
    else (plainDefault? t).map fun u => (.lead .minus u, rest)
  | t :: rest =>
    match plainDefault? t, t.identifier? with
    | some u, _ => some (u, rest)
    | none, some n =>
      match t.keyword?, truthOf n with
      | some _, some b => some (.literal (.ofBool b), rest)
      | _, _ => some (.literal (.text n), rest)
    | none, none => none
  | [] => none
where
  plainDefault? (t : Token) : Option Term :=
    ((literal? t).map Term.literal).orElse fun _ => (clock? t).map Term.clock
  truthOf (n : String) : Option Bool :=
    if n.toUpper == "TRUE" then some true else if n.toUpper == "FALSE" then some false else none

def generated? (s : List Token) : Option (Term × List Token) := do
  let s ← mark? "(" s
  let (t, s) ← term? s
  let s ← mark? ")" s
  match words? ["STORED"] s, words? ["VIRTUAL"] s with
  | some rest, _ | none, some rest => some (t, rest)
  | none, none => some (t, s)

def keyOrder? (s : List Token) : Option (ColumnRule × List Token) := do
  let (descends, s) :=
    match words? ["DESC"] s with
    | some rest => (true, rest)
    | none => (false, (optional ["ASC"] s).2)
  let s ← conflict? s
  let (counts, s) := optional ["AUTOINCREMENT"] s
  some (.key descends counts, s)

def columnRules : Nat → List Token → Option (List ColumnRule × List Token)
  | 0, s => some ([], s)
  | fuel + 1, s => do
    let more := fun (rule : List ColumnRule) (rest : List Token) => do
      let (rules, rest) ← columnRules fuel rest
      some (rule ++ rules, rest)
    match s with
    | [] => some ([], s)
    | t :: rest =>
      match t.keyword? with
      | some "CONSTRAINT" => do
        let (_, rest) ← name? rest
        more [] rest
      | some "DEFAULT" => do
        let (d, rest) ← default? rest
        more [.default? d] rest
      | some "NULL" => do
        let rest ← conflict? rest
        more [] rest
      | some "NOT" =>
        match words? ["NULL"] rest with
        | some rest => do
          let rest ← conflict? rest
          more [.notNull] rest
        | none => do
          let rest ← deferral? s
          more [] rest
      | some "PRIMARY" => do
        let rest ← words? ["KEY"] rest
        let (rule, rest) ← keyOrder? rest
        more [rule] rest
      | some "UNIQUE" => do
        let rest ← conflict? rest
        more [.unique] rest
      | some "CHECK" => do
        let rest ← mark? "(" rest
        let (c, rest) ← term? rest
        let rest ← mark? ")" rest
        more [.check c] rest
      | some "REFERENCES" => do
        let ((table, columns), rest) ← reference? rest
        more [.refers table columns] rest
      | some "DEFERRABLE" => do
        let rest ← deferral? s
        more [] rest
      | some "COLLATE" => do
        let (n, rest) ← name? rest
        more [.collate n] rest
      | some "GENERATED" => do
        let rest ← words? ["ALWAYS", "AS"] rest
        let (g, rest) ← generated? rest
        more [.generated g] rest
      | some "AS" => do
        let (g, rest) ← generated? rest
        more [.generated g] rest
      | _ => some ([], s)

def columnDefinition? (s : List Token) : Option (ColumnDefinition × List Token) := do
  let (n, s) ← name? s
  let (type, s) ← type? ["GENERATED"] s
  let (rules, s) ← columnRules (s.length + 1) s
  some (⟨n, type, rules⟩, s)

def sortTerms : Nat → List Token → Option (List (Term × Direction) × List Token)
  | 0, _ => none
  | fuel + 1, s => do
    let (t, s) ← term? s
    let (d, s) ← direction? s
    match mark? "," s with
    | some rest => do
      let (ts, rest) ← sortTerms fuel rest
      some ((t, d) :: ts, rest)
    | none => some ([(t, d)], s)

def keyTerms? (s : List Token) : Option (List Term × List Token) := do
  let s ← mark? "(" s
  let (ts, s) ← sortTerms (s.length + 1) s
  if ts.any fun (_, d) => d.nullsFirst.isSome then none else some (ts.map (·.1), s)

def tableRules : Nat → List Token → Option (List TableRule × List Token)
  | 0, _ => none
  | fuel + 1, s => do
    let more := fun (rule : List TableRule) (rest : List Token) => do
      let rest' := (mark? "," rest).getD rest
      if (mark? ")" rest).isSome then some (rule, rest)
      else do
        let (rules, rest) ← tableRules fuel rest'
        some (rule ++ rules, rest)
    match s with
    | [] => none
    | t :: rest =>
      match t.keyword? with
      | some "CONSTRAINT" => do
        let (_, rest) ← name? rest
        more [] rest
      | some "PRIMARY" => do
        let rest ← words? ["KEY"] rest
        let (ts, rest) ← keyTerms? rest
        let (counts, rest) := optional ["AUTOINCREMENT"] rest
        let rest ← mark? ")" rest
        let rest ← conflict? rest
        more [.key ts counts] rest
      | some "UNIQUE" => do
        let (ts, rest) ← keyTerms? rest
        let rest ← mark? ")" rest
        let rest ← conflict? rest
        more [.unique ts] rest
      | some "CHECK" => do
        let rest ← mark? "(" rest
        let (c, rest) ← term? rest
        let rest ← mark? ")" rest
        let rest ← conflict? rest
        more [.check c] rest
      | some "FOREIGN" => do
        let rest ← words? ["KEY"] rest
        let (ns, rest) ← nameList? rest
        let rest ← words? ["REFERENCES"] rest
        let ((table, others), rest) ← reference? rest
        let rest := (deferral? rest).getD rest
        if ns.isEmpty then none else more [.refers ns table others] rest
      | _ => none

def ruleWords : List String := ["CONSTRAINT", "PRIMARY", "UNIQUE", "CHECK", "FOREIGN"]

def tableBody : Nat → List Token → Option ((List ColumnDefinition × List TableRule) × List Token)
  | 0, _ => none
  | fuel + 1, s => do
    let (c, s) ← columnDefinition? s
    match mark? "," s with
    | none => some (([c], []), s)
    | some rest =>
      if ((rest.head?.bind Token.keyword?).map ruleWords.contains).getD false then do
        let (rules, rest) ← tableRules (rest.length + 1) rest
        some (([c], rules), rest)
      else do
        let ((columns, rules), rest) ← tableBody fuel rest
        some ((c :: columns, rules), rest)

def tableOptions : Nat → List Token → Option ((Bool × Bool) × List Token)
  | 0, _ => none
  | fuel + 1, s =>
    let one :=
      match words? ["WITHOUT", "ROWID"] s, words? ["STRICT"] s with
      | some rest, _ => some ((false, true), rest)
      | none, some rest => some ((true, false), rest)
      | none, none => none
    match one with
    | none => none
    | some ((a, b), rest) =>
      match mark? "," rest with
      | some rest => do
        let ((c, d), rest) ← tableOptions fuel rest
        some ((a || c, b || d), rest)
      | none => some ((a, b), rest)

def tableDefinition? (n : String) (s : List Token) : Option (TableDefinition × List Token) := do
  let s ← mark? "(" s
  let ((columns, rules), s) ← tableBody (s.length + 1) s
  let s ← mark? ")" s
  if s.isEmpty then some (⟨n, columns, rules, false, false⟩, s)
  else do
    let ((isStrict, isKeyOrdered), s) ← tableOptions (s.length + 1) s
    some (⟨n, columns, rules, isStrict, isKeyOrdered⟩, s)

end Grammar

end SchemaMigration.Sqlite
