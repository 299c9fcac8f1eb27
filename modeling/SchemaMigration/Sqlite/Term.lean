import SchemaMigration.Sqlite.Cell

namespace SchemaMigration.Sqlite

inductive Operator
  | or
  | and
  | equal
  | unequal
  | same
  | notSame
  | less
  | atMost
  | greater
  | atLeast
  | bitAnd
  | bitOr
  | shiftLeft
  | shiftRight
  | add
  | subtract
  | multiply
  | divide
  | remainder
  | join
  | part
  | partCell
  deriving DecidableEq, Repr

inductive Lead
  | not
  | minus
  | plus
  | complement
  deriving DecidableEq, Repr

inductive Combination
  | union
  | unionAll
  | intersect
  | except
  deriving DecidableEq, Repr

structure JoinKind where
  isNatural : Bool := false
  keepsLeft : Bool := false
  keepsRight : Bool := false
  deriving DecidableEq, Repr

structure Direction where
  descends : Bool := false
  nullsFirst : Option Bool := none
  deriving DecidableEq, Repr

inductive FrameUnit
  | rows
  | range
  | groups
  deriving DecidableEq, Repr

/-- What a frame leaves out: nothing, the row itself, all rows that are equal to it in the order, or
those but itself. -/
inductive Exclusion
  | nothing
  | current
  | group
  | ties
  deriving DecidableEq, Repr

mutual
inductive Term
  | literal (c : Cell)
  | clock (word : String)
  /-- A name, the schema and the table in front if they are given. In double quotes a name that
  leads nowhere is a text. -/
  | name (path : List String) (inQuotes : Bool)
  | parameter
  | lead (o : Lead) (t : Term)
  | binary (o : Operator) (a b : Term)
  | isNull (negated : Bool) (t : Term)
  | between (negated : Bool) (t low high : Term)
  | inList (negated : Bool) (t : Term) (members : List Term)
  | inQuery (negated : Bool) (t : Term) (q : Query)
  | like (negated : Bool) (kind : String) (t pattern : Term) (escape : Option Term)
  | collate (t : Term) (name : String)
  | cast (t : Term) (type : String)
  | choice (base : Option Term) (cases : List (Term × Term)) (otherwise : Option Term)
  | isAny (q : Query)
  | query (q : Query)
  | row (ts : List Term)
  | call (name : String) (isDistinct : Bool) (args : List Term) (order : List (Term × Direction))
      (filter : Option Term)
  | callAll (name : String) (filter : Option Term)
  /-- A call on the rows around a row of the result. The place in the statement tells it from
  others. -/
  | over (t : Term) (w : Window) (place : Nat)

/-- Rows around a row: a window of some name with more rules, the terms by which rows are kept
apart, their order, and the frame in it. -/
inductive Window
  | mk (base : Option String) (parts : List Term) (order : List (Term × Direction))
    (frame : Option Frame)

inductive Frame
  | mk (unit : FrameUnit) (first last : Bound) (exclusion : Exclusion)

/-- An end of a frame: an end of all rows, the row itself, or some way before or behind it. -/
inductive Bound
  | first
  | last
  | current
  | before (t : Term)
  | behind (t : Term)

inductive Query
  | select (isDistinct : Bool) (columns : List ResultColumn) (source : Option Source)
      (filter : Option Term) (groups : List Term) (having : Option Term)
      (windows : List (String × Window))
  | values (rows : List (List Term))
  | combine (c : Combination) (a b : Query)
  | arrange (q : Query) (order : List (Term × Direction)) (limit offset : Option Term)
  | naming (tables : List (String × List String × Query)) (q : Query)

inductive ResultColumn
  | all
  | allOf (table : String)
  | term (t : Term) (alias_ : Option String)

inductive Source
  | table (schema : Option String) (name : String) (alias_ : Option String)
  | query (q : Query) (alias_ : Option String)
  | call (name : String) (args : List Term) (alias_ : Option String)
  | join (kind : JoinKind) (a b : Source) (condition : Option Term) (shared : List String)
end

instance : Inhabited Term := ⟨.literal .null⟩

instance : Inhabited Query := ⟨.values []⟩

namespace Term

def bare : Term → Term
  | .collate t _ => bare t
  | t => t

end Term

namespace Source

def isCall : Source → Bool
  | .call .. => true
  | _ => false

end Source

end SchemaMigration.Sqlite
