import SchemaMigration.Number.Shortest
import SchemaMigration.Text.Quoted
import SchemaMigration.Text.Split

namespace SchemaMigration

inductive Value
  | null
  | bool (b : Bool)
  | int (n : Int)
  | float (x : Binary64)
  | text (s : String)
  | list (items : List Value)
  | object (fields : List (String × Value))
  deriving Repr, Inhabited

namespace Value

mutual
def beq : Value → Value → Bool
  | .null, .null => true
  | .bool a, .bool b => a == b
  | .int a, .int b => a == b
  | .float a, .float b => decide (a = b)
  | .text a, .text b => a == b
  | .list a, .list b => beqItems a b
  | .object a, .object b => beqFields a b
  | _, _ => false

def beqItems : List Value → List Value → Bool
  | [], [] => true
  | a :: as, b :: bs => beq a b && beqItems as bs
  | _, _ => false

def beqFields : List (String × Value) → List (String × Value) → Bool
  | [], [] => true
  | (j, a) :: as, (k, b) :: bs => j == k && beq a b && beqFields as bs
  | _, _ => false
end

instance : BEq Value := ⟨beq⟩

mutual
theorem eq_of_beq : {a b : Value} → beq a b = true → a = b
  | .null, b, h | .bool _, b, h | .int _, b, h | .float _, b, h | .text _, b, h => by
    cases b <;> simp_all [beq]
  | .list _, b, h => by
    cases b <;> simp only [beq, Bool.false_eq_true] at h
    exact congrArg Value.list (eq_of_beqItems h)
  | .object _, b, h => by
    cases b <;> simp only [beq, Bool.false_eq_true] at h
    exact congrArg Value.object (eq_of_beqFields h)

theorem eq_of_beqItems : {as bs : List Value} → beqItems as bs = true → as = bs
  | [], [], _ => rfl
  | [], _ :: _, h | _ :: _, [], h => by simp [beqItems] at h
  | _ :: _, _ :: _, h => by
    rw [beqItems, Bool.and_eq_true] at h
    rw [eq_of_beq h.1, eq_of_beqItems h.2]

theorem eq_of_beqFields : {as bs : List (String × Value)} → beqFields as bs = true → as = bs
  | [], [], _ => rfl
  | [], _ :: _, h | _ :: _, [], h => by simp [beqFields] at h
  | (_, _) :: _, (_, _) :: _, h => by
    rw [beqFields, Bool.and_eq_true, Bool.and_eq_true] at h
    rw [beq_iff_eq.1 h.1.1, eq_of_beq h.1.2, eq_of_beqFields h.2]
end

mutual
theorem beq_self : (a : Value) → beq a a = true
  | .null | .bool _ | .int _ | .float _ | .text _ => by simp [beq]
  | .list items => by rw [beq]; exact beqItems_self items
  | .object fields => by rw [beq]; exact beqFields_self fields

theorem beqItems_self : (as : List Value) → beqItems as as = true
  | [] => rfl
  | a :: as => by rw [beqItems, beq_self a, beqItems_self as]; rfl

theorem beqFields_self : (as : List (String × Value)) → beqFields as as = true
  | [] => rfl
  | (k, a) :: as => by rw [beqFields, beq_self a, beqFields_self as, beq_iff_eq.2 rfl]; rfl
end

instance : LawfulBEq Value where
  eq_of_beq := eq_of_beq
  rfl := beq_self _

instance : DecidableEq Value := fun a b => decidable_of_iff (a == b) beq_iff_eq

def isTrue : Value → Bool
  | .null => false
  | .bool b => b
  | .int n => n != 0
  | .float x => !x.isZero
  | .text s => s != ""
  | .list items => !items.isEmpty
  | .object fields => !fields.isEmpty

@[simp] theorem isTrue_bool (b : Bool) : (Value.bool b).isTrue = b := rfl

def isNull : Value → Bool
  | .null => true
  | _ => false

def boolText (b : Bool) : String := if b then "True" else "False"

mutual
def shown : Value → String
  | .null => "None"
  | .bool b => boolText b
  | .int n => toString n
  | .float x => x.text
  | .text s => Text.quoted s
  | .list items => "[" ++ Text.join ", " (shownItems items) ++ "]"
  | .object fields => "\x7b" ++ Text.join ", " (shownFields fields) ++ "\x7d"

def shownItems : List Value → List String
  | [] => []
  | v :: rest => shown v :: shownItems rest

def shownFields : List (String × Value) → List String
  | [] => []
  | (k, v) :: rest => (Text.quoted k ++ ": " ++ shown v) :: shownFields rest
end

def display : Value → String
  | .text s => s
  | v => v.shown

def text? : Value → Option String
  | .text s => some s
  | _ => none

def field? (name : String) : Value → Option Value
  | .object fields => (fields.find? (·.1 == name)).map (·.2)
  | _ => none

def ofText? : Option String → Value
  | none => .null
  | some s => .text s

end Value

def putPair {α β : Type} [BEq α] (key : α) (value : β) : List (α × β) → List (α × β)
  | [] => [(key, value)]
  | (k, v) :: rest => if k == key then (k, value) :: rest else (k, v) :: putPair key value rest

end SchemaMigration
