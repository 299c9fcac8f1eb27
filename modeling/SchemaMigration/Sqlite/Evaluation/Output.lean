import SchemaMigration.Sqlite.Scope

namespace SchemaMigration.Sqlite

inductive Output
  | term (t : Term) (alias_ : Option String)
  | slot (seat place : Nat) (slot : Slot)

namespace Evaluation

def starOutputs (only : Option String) (seats : List Seat) : List Output :=
  (seats.zipIdx.filter fun (s, _) => (only.map (sameName s.name)).getD true).flatMap fun (s, n) =>
    (s.slots.zipIdx.filter fun (slot, _) => only.isSome || !slot.isHidden).map fun (slot, k) =>
      .slot n k slot

def outputsOf (hasSource : Bool) (seats : List Seat) :
    List ResultColumn → Except Fault (List Output)
  | [] => .ok []
  | c :: rest => do
    let more ← outputsOf hasSource seats rest
    match c with
    | .all =>
      if hasSource then .ok (starOutputs none seats ++ more)
      else .error (.operational "no tables specified")
    | .allOf t =>
      if seats.any fun s => sameName s.name t then .ok (starOutputs (some t) seats ++ more)
      else .error (Fault.noTable t)
    | .term t a => .ok (.term t a :: more)

def aliasesOf (outputs : List Output) : List (String × Term) :=
  outputs.filterMap fun
    | .term t (some a) => some (a, t)
    | _ => none

def outputName : Output → String
  | .term _ (some a) => a
  | .term (.name path _) none => (path.getLast?).getD ""
  | .term _ none => ""
  | .slot _ _ slot => slot.name

def outputSlot (s : Scope) (o : Output) : Slot :=
  match o with
  | .term t _ => {
      name := outputName o
      affinity := s.affinity? t
      collation := (s.explicit? t).orElse fun _ => s.implicit? t }
  | .slot _ _ slot => { name := slot.name, affinity := slot.affinity, collation := slot.collation }

def number? : Term → Option Int
  | .literal (.int n) => if n ≤ 2147483647 then some n else none
  | .lead .minus t => (number? t).map (- ·)
  | .lead .plus t => number? t
  | _ => none

/-- The place among results that a term of an order stands for: by number, or by the name of a
result. -/
def resultPlace? (outputs : List Output) (byName : Bool) (t : Term) : Option Int :=
  match t with
  | .collate t _ => resultPlace? outputs byName t
  | .name [n] _ =>
    if byName then
      (outputs.findIdx? fun
        | .term _ (some a) => sameName a n
        | _ => false).map Int.ofNat
    else none
  | t => (number? t).map (· - 1)

def outOfRange : Fault := .operational "term out of range"

def orderPlace (s : Scope) (columns : List Slot) (t : Term) (d : Direction) :
    Except Fault (Nat × Direction × Collation) :=
  match resultPlace? (columns.map fun c => .term (.literal .null) (some c.name)) true t with
  | some n =>
    match columns[n.toNat]? with
    | some c =>
      if 0 ≤ n then .ok (n.toNat, d, ((s.explicit? t).orElse fun _ => c.collation).getD .binary)
      else .error outOfRange
    | none => .error outOfRange
  | none => .error (.operational "ORDER BY term does not match any column in the result set")

def outputTerms (outputs : List Output) : List Term :=
  outputs.filterMap fun
    | .term t _ => some t
    | .slot .. => none

def windowsIn : Nat → Term → List (Nat × Window)
  | 0, _ => []
  | fuel + 1, t =>
    (match t with
      | .over _ w place => [(place, w)]
      | _ => []) ++ t.parts.flatMap (windowsIn fuel)

def picked? (terms : List Term) : Option (Term × Ordering) :=
  match terms.flatMap (calls Term.depth) with
  | [.call n _ [t] _ none] =>
    if sameName n "max" then some (t, .gt) else if sameName n "min" then some (t, .lt) else none
  | _ => none
where
  calls : Nat → Term → List Term
    | 0, _ => []
    | fuel + 1, t => if t.isOfGroup then [t] else t.parts.flatMap (calls fuel)

def sharedNames (left right : List Seat) : List String :=
  (left.flatMap fun s => s.slots.filter fun x => !x.isHidden).map Slot.name |>.filter fun n =>
    right.any fun s => s.slots.any fun x => sameName x.name n

def hide (names : List String) (seats : List Seat) : List Seat :=
  seats.map fun s => { s with
    slots := s.slots.map fun x =>
      if names.any (sameName x.name) then { x with isHidden := true } else x }

def slotIn? (seats : List Seat) (name : String) : Option Slot :=
  seats.findSome? fun s => s.slots.find? fun x => sameName x.name name

def agrees (names : List String) (left right : List Seat) : Bool :=
  names.all fun n =>
    match slotIn? left n, slotIn? right n with
    | some a, some b =>
      Cell.compareOperands? (Cell.commonAffinity? a.affinity b.affinity) (a.collation.getD .binary)
        a.cell b.cell == some .eq
    | _, _ => false

def seatOf (name : String) (columns : List Slot) (row : List Cell) : Seat where
  name := name
  slots := List.zipWith (fun c cell => { c with cell := cell }) columns row

def seatsOf (name : String) (result : Rows) : List Seat × List (List Seat) :=
  let seat := seatOf name result.columns
  ([seat (result.columns.map fun _ => .null)], result.rows.map fun r => [seat r])

def renamed (names : List String) (columns : List Slot) : Except Fault (List Slot) :=
  if names.isEmpty then .ok columns
  else if names.length != columns.length then
    .error (.operational "table has another number of columns")
  else .ok (List.zipWith (fun n (c : Slot) => { c with name := n }) names columns)

end Evaluation

end SchemaMigration.Sqlite
