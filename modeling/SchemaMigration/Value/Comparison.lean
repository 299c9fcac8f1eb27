import SchemaMigration.Number.Arithmetic
import SchemaMigration.Value.Basic

namespace SchemaMigration.Value

def number? : Value → Option Binary64
  | .bool b => some (.finite false b.toNat 0)
  | .int n => some (.finite (n < 0) n.natAbs 0)
  | .float x => some x
  | _ => none

def orderOfNumbers? : Value → Value → Option Ordering
  | .int m, .int n => some (compare m n)
  | a, b => do
    let x ← a.number?
    let y ← b.number?
    x.compare? y

mutual
def same : Value → Value → Bool
  | .null, .null => true
  | .text s, .text t => s == t
  | .list as, .list bs => sameItems as bs
  | .object as, .object bs => as.length == bs.length && sameFields as bs
  | a, b => orderOfNumbers? a b == some .eq

def sameItems : List Value → List Value → Bool
  | [], [] => true
  | a :: as, b :: bs => same a b && sameItems as bs
  | _, _ => false

def sameFields : List (String × Value) → List (String × Value) → Bool
  | [], _ => true
  | (k, a) :: as, bs =>
    (match bs.find? fun f => f.1 == k with
      | some f => same a f.2
      | none => false) && sameFields as bs
end

@[simp] theorem same_text (s t : String) : (Value.text s).same (.text t) = (s == t) := by
  rw [same]

@[simp] theorem same_int (m n : Int) : (Value.int m).same (.int n) = (m == n) := by
  rw [same, orderOfNumbers?, Bool.eq_iff_iff]
  · simp
  all_goals intros; contradiction

def isKey : Value → Bool
  | .list _ | .object _ => false
  | _ => true

mutual
def order? : Value → Value → Option Ordering
  | .text s, .text t => some (compareOfLessAndEq s t)
  | .list as, .list bs => orderOfItems? as bs
  | a, b =>
    if a.number?.isSome && b.number?.isSome then some ((orderOfNumbers? a b).getD .eq) else none

def orderOfItems? : List Value → List Value → Option Ordering
  | [], [] => some .eq
  | [], _ :: _ => some .lt
  | _ :: _, [] => some .gt
  | a :: as, b :: bs => if same a b then orderOfItems? as bs else order? a b
end

def areOrdered : List Value → Bool
  | [] | [_] => true
  | v :: rest => rest.all (fun w => (order? v w).isSome) && areOrdered rest

def successor? : Value → Option Value
  | .bool b => some (.int (b.toNat + 1))
  | .int n => some (.int (n + 1))
  | .float x => some (.float (x.add (.ofInt 1)))
  | _ => none

def greatest (best : Value) : List Value → Value
  | [] => best
  | v :: rest => greatest (if orderOfNumbers? v best == some .gt then v else best) rest

/-- The number after the greatest of some, and after zero if there are none. Only numbers can be
counted on from. -/
def following? : List Value → Option Value
  | [] => some (.int 1)
  | v :: rest =>
    if (v :: rest).all fun w => w.number?.isSome then (greatest v rest).successor? else none

end SchemaMigration.Value
