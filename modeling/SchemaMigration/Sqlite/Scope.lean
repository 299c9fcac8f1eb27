import SchemaMigration.Sqlite.Content
import SchemaMigration.Sqlite.Function.Group

namespace SchemaMigration.Sqlite

structure Slot where
  name : String
  affinity : Option Affinity := none
  collation : Option Collation := none
  cell : Cell := .null
  isHidden : Bool := false
  holdsDocuments : Bool := false
  deriving Repr

structure Rows where
  columns : List Slot
  rows : List (List Cell)
  deriving Repr

namespace Rows

def named (names : List String) (rows : List (List Cell)) : Rows :=
  ⟨names.map fun n => { name := n }, rows⟩

end Rows

inductive View
  | query (columns : List String) (q : Query)
  | rows (result : Rows)

structure Seat where
  schema : Option String := none
  name : String
  slots : List Slot
  rowId : Option Cell := none
  deriving Repr

structure Standing where
  seats : List Seat := []
  group : Option (List (List Seat)) := none

/-- All rows of a result, and the place of one of them. The rows come to every call on the rows
around a row in an order of its own. -/
structure Surroundings where
  standings : List Standing
  here : Nat
  orders : List (Nat × List Nat)

structure Level extends Standing where
  aliases : List (String × Term) := []
  windows : List (String × Window) := []
  around : Option Surroundings := none

structure Scope where
  content : Content
  views : List (String × View) := []
  levels : List Level := []

def rowNames : List String := ["rowid", "oid", "_rowid_"]

namespace Slot

def ofColumn (c : Column) (cell : Cell) : Slot :=
  { name := c.name, affinity := some c.affinity, collation := some c.collation, cell := cell }

end Slot

namespace Seat

def ofRow (schema : Option String) (name : String) (t : Table) (row : Row) : Seat where
  schema := schema
  name := name
  slots := List.zipWith Slot.ofColumn t.columns (row.cells ++ List.replicate t.columns.length .null)
  rowId := if t.isKeyOrdered then none else some (.int row.id)

def empty (s : Seat) : Seat :=
  { s with
    slots := s.slots.map fun slot => { slot with cell := .null }
    rowId := s.rowId.map fun _ => .null }

def found (s : Seat) (name : String) : List Slot :=
  match s.slots.filter fun slot => sameName slot.name name, s.rowId with
  | [], some id =>
    if rowNames.any (sameName name) then [{ name := name, affinity := some .integer, cell := id }]
    else []
  | slots, _ => slots.take 1

end Seat

inductive Meaning
  | slot (s : Slot)
  | alias_ (t : Term) (levels : List Level)
  | unknown
  | ambiguous

namespace Level

def found (l : Level) (path : List String) : List Slot :=
  match path with
  | [name] => l.seats.flatMap fun s => (s.found name).filter fun slot => !slot.isHidden
  | [table, name] =>
    (l.seats.filter fun s => sameName s.name table).flatMap fun s => s.found name
  | [schema, table, name] =>
    (l.seats.filter fun s =>
      sameName s.name table && (s.schema.map (sameName schema)).getD false).flatMap fun s =>
        s.found name
  | _ => []

def meaning (l : Level) (path : List String) : Meaning :=
  match l.found path with
  | [] => .unknown
  | [slot] => .slot slot
  | _ => .ambiguous

end Level

def Meaning.of (path : List String) : List Level → Meaning
  | [] => .unknown
  | l :: outer =>
    match l.meaning path, path with
    | .unknown, [name] =>
      match l.aliases.find? fun (n, _) => sameName n name with
      | some (_, t) => .alias_ t ({ l with aliases := [] } :: outer)
      | none => Meaning.of path outer
    | .unknown, _ => Meaning.of path outer
    | m, _ => m

def truthName? (path : List String) (inQuotes : Bool) : Option Bool :=
  match path, inQuotes with
  | [n], false =>
    if sameName n "true" then some true else if sameName n "false" then some false else none
  | _, _ => none

def Window.terms : Window → List Term
  | .mk _ parts order frame => parts ++ order.map (·.1) ++ (frame.map inFrame).getD []
where
  inFrame : Frame → List Term
    | .mk _ a b _ => inBound a ++ inBound b
  inBound : Bound → List Term
    | .before t | .behind t => [t]
    | _ => []

namespace Term

def parts : Term → List Term
  | .lead _ t | .isNull _ t | .collate t _ | .cast t _ | .inQuery _ t _ => [t]
  | .binary _ a b => [a, b]
  | .between _ t a b => [t, a, b]
  | .inList _ t ts => t :: ts
  | .like _ _ t p e => t :: p :: e.toList
  | .choice base cases otherwise =>
    base.toList ++ cases.flatMap (fun (a, b) => [a, b]) ++ otherwise.toList
  | .row ts => ts
  | .call _ _ args order filter => args ++ order.map (·.1) ++ filter.toList
  | .callAll _ filter => filter.toList
  | .over (.call _ _ args order filter) w _ => args ++ order.map (·.1) ++ filter.toList ++ w.terms
  | .over (.callAll _ filter) w _ => filter.toList ++ w.terms
  | _ => []

def any (p : Term → Bool) : Nat → Term → Bool
  | 0, _ => false
  | fuel + 1, t => p t || t.parts.any (any p fuel)

def isOfGroup : Term → Bool
  | .call n _ args .. => Function.isOfGroup n args.length
  | .callAll n _ => sameName n "count"
  | _ => false

def isQuery : Term → Bool
  | .query _ | .isAny _ | .inQuery .. => true
  | _ => false

def isName : Term → Bool
  | .name path inQuotes => (truthName? path inQuotes).isNone
  | _ => false

def isParameter : Term → Bool
  | .parameter => true
  | _ => false

def isQualified : Term → Bool
  | .name path _ => 1 < path.length
  | _ => false

def isRestless : Term → Bool
  | .clock _ => true
  | .call n .. => Function.restless.contains n.toLower
  | _ => false

def depth : Nat := 1000

def isRow : Term → Bool
  | .row _ => true
  | _ => false

def hasGroupCall (t : Term) : Bool := t.any isOfGroup depth

def column? : Term → Option String
  | .name [n] _ => some n
  | .literal (.text n) => some n
  | .collate t _ => column? t
  | _ => none

end Term

namespace Scope

def meaning (s : Scope) (path : List String) : Meaning := Meaning.of path s.levels

def enter (s : Scope) (l : Level) : Scope := { s with levels := l :: s.levels }

def at_ (s : Scope) (l : Level) : Scope := { s with levels := l :: s.levels.drop 1 }

def affinity? (s : Scope) : Term → Option Affinity
  | .name path _ =>
    match s.meaning path with
    | .slot slot => slot.affinity
    | _ => none
  | .cast _ type => some (.ofType type)
  | .collate t _ => affinity? s t
  | _ => none

def explicit? (s : Scope) : Term → Option Collation
  | .collate _ n => Collation.ofName? n
  | .lead .plus t => explicit? s t
  | .cast t _ => explicit? s t
  | .binary _ a b => (explicit? s a).orElse fun _ => explicit? s b
  | _ => none

def implicit? (s : Scope) : Term → Option Collation
  | .name path _ =>
    match s.meaning path with
    | .slot slot => slot.collation
    | _ => none
  | .lead .plus t => implicit? s t
  | .cast t _ => implicit? s t
  | _ => none

def collation? (s : Scope) (t : Term) : Option Collation :=
  (s.explicit? t).orElse fun _ => s.implicit? t

/-- The truth value that a term is compared with, if it is the name of one and no name of a
column. -/
def truthTest? (s : Scope) (o : Operator) (t : Term) : Option Bool :=
  match o, t with
  | .same, .name path inQuotes | .notSame, .name path inQuotes =>
    match s.meaning path with
    | .unknown => truthName? path inQuotes
    | _ => none
  | _, _ => none

def collation (s : Scope) (a b : Term) : Collation :=
  ((s.explicit? a).orElse fun _ => (s.explicit? b).orElse fun _ =>
    (s.implicit? a).orElse fun _ => s.implicit? b).getD .binary

def passing : List String :=
  ["coalesce", "ifnull", "iif", "likelihood", "likely", "max", "min", "nullif", "unlikely"]

def givesDocument (s : Scope) (c : Cell) : Nat → Term → Bool
  | 0, _ => false
  | fuel + 1, t =>
    match t with
    | .call n _ args .. =>
      Document.givesDocument n.toLower args.length c ||
        (passing.contains n.toLower && args.any (givesDocument s c fuel))
    | .binary .part _ _ => c.kindName == "text"
    | .lead .plus t | .collate t _ => givesDocument s c fuel t
    | .choice _ cases otherwise =>
      cases.any (fun (_, t) => givesDocument s c fuel t) || otherwise.any (givesDocument s c fuel)
    | .query (.select _ [.term t _] ..) => givesDocument s c fuel t
    | .name path _ =>
      match s.meaning path with
      | .slot slot => slot.holdsDocuments && Document.startsParts c
      | _ => false
    | _ => false

def argument (s : Scope) (t : Term) (c : Cell) : Argument := ⟨c, s.givesDocument c Term.depth t⟩

end Scope

end SchemaMigration.Sqlite
