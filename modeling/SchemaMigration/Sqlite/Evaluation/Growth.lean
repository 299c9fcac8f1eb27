import SchemaMigration.Sqlite.Evaluation.Order

namespace SchemaMigration.Sqlite

structure Growing where
  start : Query
  steps : List Query
  isDistinct : Bool
  order : List (Term × Direction) := []
  limit : Option Term := none
  offset : Option Term := none

namespace Source

def takesFrom (name : String) : Source → Bool
  | .table none n _ => sameName n name
  | .join _ a b _ _ => takesFrom name a || takesFrom name b
  | _ => false

end Source

namespace Query

def takesFrom (name : String) : Query → Bool
  | .select _ _ (some f) .. => f.takesFrom name
  | _ => false

def parted? (name : String) : Query → Option Growing
  | .combine c a b =>
    if !b.takesFrom name || (c != .union && c != .unionAll) then none
    else
      match parted? name a with
      | some g => some { g with steps := g.steps ++ [b], isDistinct := g.isDistinct || c == .union }
      | none => some ⟨a, [b], c == .union, [], none, none⟩
  | _ => none

def growing? (name : String) : Query → Option Growing
  | .arrange q order limit offset =>
    (parted? name q).map fun g => { g with order := order, limit := limit, offset := offset }
  | q => parted? name q

end Query

namespace Evaluation

def sortedByPlaces (places : List (Nat × Direction × Collation)) (rows : List (List Cell)) :
    List (List Cell) :=
  let keyed := rows.map fun r => (r, places.map fun (n, _, _) => r[n]?.getD .null)
  (sortedBy (places.map fun (_, d, c) => (d, c)) keyed).map (·.1)

structure Growth where
  step : List Cell → Except Fault (List (List Cell))
  isDistinct : Bool
  collations : List Collation
  order : List (Nat × Direction × Collation)

namespace Growth

def admitted (g : Growth) (seen : List (List Cell)) :
    List (List Cell) → List (List Cell) × List (List Cell)
  | [] => ([], seen)
  | row :: rest =>
    if g.isDistinct && seen.any fun r => compareKeys (upwards g.collations) r row == .eq then
      g.admitted seen rest
    else
      let (more, seen) := g.admitted (if g.isDistinct then row :: seen else seen) rest
      (row :: more, seen)

/-- The rows in the order in which their turn came, up to a number of them; `made` are those before,
the last one first. -/
def grow (g : Growth) : Nat → List (List Cell) → List (List Cell) → List (List Cell) →
    Except Fault (List (List Cell))
  | 0, _, _, made | _, [], _, made => .ok made.reverse
  | left + 1, row :: rest, seen, made => do
    let found ← if left == 0 then .ok [] else g.step row
    let (new, seen) := g.admitted seen found
    let waiting := rest ++ new
    g.grow left (if g.order.isEmpty then waiting else sortedByPlaces g.order waiting)
      seen (row :: made)

def run (g : Growth) (count : Nat) (start : List (List Cell)) : Except Fault (List (List Cell)) :=
  let (first, seen) := g.admitted [] start
  g.grow count (if g.order.isEmpty then first else sortedByPlaces g.order first) seen []

end Growth

def mostGrown : Nat := 1000000

def growthLimit (limit offset : Option Int) : Nat :=
  match limit with
  | some n => if n < 0 then mostGrown else n.toNat + (offset.getD 0).toNat
  | none => mostGrown

end Evaluation

end SchemaMigration.Sqlite
