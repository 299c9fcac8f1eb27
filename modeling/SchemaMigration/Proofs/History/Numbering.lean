import Mathlib.Data.Int.Order.Basic
import Mathlib.Data.List.Fold
import Mathlib.Data.List.Pairwise
import SchemaMigration.History.Table

namespace SchemaMigration

theorem related_of_pairwise {α : Type} {R : α → α → Prop} {xs : List α}
    (h : xs.Pairwise R) {x y : α}
    (hx : x ∈ xs) (hy : y ∈ xs) (ne : x ≠ y) : R x y ∨ R y x := by
  have symm : Std.Symm fun x y => R x y ∨ R y x := ⟨fun _ _ => Or.symm⟩
  have either : xs.Pairwise fun x y => R x y ∨ R y x := h.imp .inl
  exact either.forall hx hy ne

namespace Record

def IsRanked (r : Record) : Prop := r.order = .null ∨ ∃ n, r.order = .int n

/-- The whole number that the order of a record counts as. -/
def rank (r : Record) : Int :=
  match r.order with
  | .int n => n
  | _ => 0

def IsNumbered (r : Record) : Prop := r.order = .int r.rank ∧ 0 < r.rank

/-- Records whose orders are whole numbers from zero on, or missing. -/
structure AreCounted (records : List Record) : Prop where
  ranked : ∀ r ∈ records, r.IsRanked
  nonneg : ∀ r ∈ records, 0 ≤ r.rank

def highest (records : List Record) : Int := (records.map rank).foldr max 0

variable {r : Record} {records records' : List Record}

theorem rank_of_order {n : Int} (h : r.order = .int n) : r.rank = n := by
  unfold rank
  rw [h]

theorem IsNumbered.of_order {n : Int} (h : r.order = .int n) (pos : 0 < n) : r.IsNumbered := by
  unfold IsNumbered
  rw [rank_of_order h]
  exact ⟨h, pos⟩

theorem IsNumbered.isRanked (h : r.IsNumbered) : r.IsRanked := .inr ⟨r.rank, h.1⟩

theorem rank_congr {s : Record} (h : r.order = s.order) : r.rank = s.rank := by
  unfold rank
  rw [h]

theorem isNumbered_congr {s : Record} (h : r.order = s.order) : r.IsNumbered ↔ s.IsNumbered := by
  unfold IsNumbered
  rw [rank_congr h, h]

theorem isRanked_congr {s : Record} (h : r.order = s.order) : r.IsRanked ↔ s.IsRanked := by
  unfold IsRanked
  rw [h]

theorem AreCounted.map (h : AreCounted records) {f : Record → Record}
    (same_order : ∀ r, (f r).order = r.order) : AreCounted (records.map f) where
  ranked r hr := by
    obtain ⟨old, old_mem, rfl⟩ := List.mem_map.mp hr
    exact (isRanked_congr (same_order old)).mpr (h.ranked old old_mem)
  nonneg r hr := by
    obtain ⟨old, old_mem, rfl⟩ := List.mem_map.mp hr
    rw [rank_congr (same_order old)]
    exact h.nonneg old old_mem

theorem areCounted_append : AreCounted (records ++ records') ↔
    AreCounted records ∧ AreCounted records' := by
  constructor
  · rintro ⟨ranked, nonneg⟩
    rw [List.forall_mem_append] at ranked nonneg
    exact ⟨⟨ranked.1, nonneg.1⟩, ranked.2, nonneg.2⟩
  · rintro ⟨⟨ranked, nonneg⟩, ranked', nonneg'⟩
    exact ⟨List.forall_mem_append.mpr ⟨ranked, ranked'⟩,
      List.forall_mem_append.mpr ⟨nonneg, nonneg'⟩⟩

theorem areCounted_of_isNumbered (h : ∀ r ∈ records, r.IsNumbered) : AreCounted records where
  ranked r hr := (h r hr).isRanked
  nonneg r hr := Int.le_of_lt (h r hr).2

@[simp] theorem highest_nil : highest [] = 0 := rfl

@[simp] theorem highest_cons : highest (r :: records) = max r.rank (highest records) := rfl

theorem highest_nonneg : 0 ≤ highest records := by
  induction records with
  | nil => exact Int.le_refl 0
  | cons r rest ih => exact Int.le_trans ih (Int.le_max_right _ _)

theorem rank_le_highest (h : r ∈ records) : r.rank ≤ highest records := by
  induction records with
  | nil => cases h
  | cons s rest ih =>
    rw [highest_cons]
    rcases List.mem_cons.mp h with rfl | later
    · exact Int.le_max_left _ _
    · exact Int.le_trans (ih later) (Int.le_max_right _ _)

theorem highest_le {n : Int} (nonneg : 0 ≤ n) (h : ∀ r ∈ records, r.rank ≤ n) :
    highest records ≤ n := by
  induction records with
  | nil => exact nonneg
  | cons r rest ih =>
    rw [highest_cons]
    exact Int.max_le.mpr ⟨h r List.mem_cons_self, ih fun s hs => h s (List.mem_cons_of_mem r hs)⟩

theorem highest_congr (h : records.map rank = records'.map rank) :
    highest records = highest records' :=
  congrArg (List.foldr max 0) h

theorem highest_map {f : Record → Record} (same_order : ∀ r, (f r).order = r.order) :
    highest (records.map f) = highest records := by
  apply highest_congr
  have unchanged : rank ∘ f = rank := funext fun r => rank_congr (same_order r)
  rw [List.map_map, unchanged]

@[simp] theorem highest_append :
    highest (records ++ records') = max (highest records) (highest records') := by
  induction records with
  | nil => exact (Int.max_eq_right highest_nonneg).symm
  | cons r rest ih => rw [List.cons_append, highest_cons, ih, highest_cons, max_assoc]

theorem greatest_int (n : Int) (ns : List Int) :
    Value.greatest (.int n) (ns.map Value.int) = .int (ns.foldl max n) := by
  induction ns generalizing n with
  | nil => rfl
  | cons m rest ih =>
    have later : (if Value.orderOfNumbers? (.int m) (.int n) == some .gt then Value.int m
        else .int n) = .int (max n m) := by
      rw [Value.orderOfNumbers?]
      by_cases above : n < m
      · simp [Int.compare_eq_gt.mpr above, Int.max_eq_right (Int.le_of_lt above)]
      · have not_gt : compare m n ≠ .gt := fun gt => above (Int.compare_eq_gt.mp gt)
        simp [not_gt, Int.max_eq_left (Int.not_lt.mp above)]
    rw [List.map_cons, Value.greatest, later, ih, List.foldl_cons]

theorem following?_int {ns : List Int} (nonneg : ∀ n ∈ ns, 0 ≤ n) :
    Value.following? (ns.map Value.int) = some (.int (ns.foldr max 0 + 1)) := by
  cases ns with
  | nil => rfl
  | cons n rest =>
    have numbers : ((n :: rest).map Value.int).all (fun w => w.number?.isSome) = true := by
      simp [Value.number?]
    have from_zero : rest.foldl max n = (n :: rest).foldr max 0 := by
      rw [← List.foldl_eq_foldr, List.foldl_cons, Int.max_eq_right (nonneg n List.mem_cons_self)]
    rw [List.map_cons] at numbers ⊢
    rw [Value.following?, if_pos numbers, greatest_int, from_zero, Value.successor?]

theorem exists_orders (counted : AreCounted records) :
    ∃ ns : List Int, (records.map order).filter (fun v => !v.isNull) = ns.map Value.int ∧
      ns.foldr max 0 = highest records ∧ ∀ n ∈ ns, 0 ≤ n := by
  induction records with
  | nil => exact ⟨[], rfl, rfl, by simp⟩
  | cons r rest ih =>
    obtain ⟨ns, orders, greatest, ns_nonneg⟩ := ih
      ⟨fun s hs => counted.ranked s (List.mem_cons_of_mem r hs),
        fun s hs => counted.nonneg s (List.mem_cons_of_mem r hs)⟩
    rcases counted.ranked r List.mem_cons_self with missing | ⟨n, given⟩
    · have left_out : (!r.order.isNull) = false := by
        rw [missing]
        rfl
      have rank_eq : r.rank = 0 := by
        unfold rank
        rw [missing]
      refine ⟨ns, ?_, ?_, ns_nonneg⟩
      · rw [List.map_cons, List.filter_cons_of_neg (by simp [left_out]), orders]
      · rw [highest_cons, rank_eq, greatest, Int.max_eq_right highest_nonneg]
    · have kept : (!r.order.isNull) = true := by
        rw [given]
        rfl
      have rank_eq := rank_of_order given
      refine ⟨n :: ns, ?_, by simp [rank_eq, greatest], List.forall_mem_cons.mpr ⟨?_, ns_nonneg⟩⟩
      · rw [List.map_cons, List.filter_cons_of_pos (by simp [kept]), orders, given, List.map_cons]
      · rw [← rank_eq]
        exact counted.nonneg r List.mem_cons_self

theorem nextOrder?_eq (counted : AreCounted records) :
    nextOrder? records = some (.int (highest records + 1)) := by
  obtain ⟨ns, orders, greatest, ns_nonneg⟩ := exists_orders counted
  unfold nextOrder?
  rw [orders, following?_int ns_nonneg, greatest]

end Record

namespace TableStore

open Sqlite (Cell)

theorem cellOf_int {n : Int} (nonneg : 0 ≤ n) (below : n < Cell.intLimit) :
    cellOf (.int n) = .int n := by
  have within : Cell.isInt n = true := by
    unfold Cell.isInt Cell.intLimit at *
    simp
    omega
  simp [cellOf, Cell.ofValue, within]

variable {records : List Record}

theorem foldl_greater {n : Int} (numbered : ∀ r ∈ records, r.IsNumbered)
    (below : ∀ r ∈ records, r.rank < Cell.intLimit) :
    records.foldl (fun best r =>
      let c := cellOf r.order
      if best.compareWith .binary c == .lt then c else best) (.int n) =
      .int ((records.map Record.rank).foldl max n) := by
  induction records generalizing n with
  | nil => rfl
  | cons r rest ih =>
    obtain ⟨order_eq, pos⟩ := numbered r List.mem_cons_self
    have cell := cellOf_int (Int.le_of_lt pos) (below r List.mem_cons_self)
    have later : (if (Cell.int n).compareWith .binary (.int r.rank) == .lt then Cell.int r.rank
        else .int n) = .int (max n r.rank) := by
      rw [Cell.compareWith]
      by_cases above : n < r.rank
      · simp [Int.compare_eq_lt.mpr above, Int.max_eq_right (Int.le_of_lt above)]
      · have not_lt : compare n r.rank ≠ .lt := fun lt => above (Int.compare_eq_lt.mp lt)
        simp [not_lt, Int.max_eq_left (Int.not_lt.mp above)]
    rw [List.foldl_cons, List.map_cons, List.foldl_cons, order_eq, cell]
    dsimp only
    rw [later]
    exact ih (fun s hs => numbered s (List.mem_cons_of_mem r hs))
      fun s hs => below s (List.mem_cons_of_mem r hs)

theorem nextOrder_eq (numbered : ∀ r ∈ records, r.IsNumbered)
    (below : Record.highest records + 1 < Cell.intLimit) :
    nextOrder records = .int (Record.highest records + 1) := by
  have all_below : ∀ r ∈ records, r.rank < Cell.intLimit := by
    intro r hr
    have := Record.rank_le_highest hr
    omega
  have nonneg : 0 ≤ Record.highest records := Record.highest_nonneg
  have within : Cell.isInt (Record.highest records + 1) = true := by
    unfold Cell.isInt Cell.intLimit at *
    simp
    omega
  cases records with
  | nil => rfl
  | cons r rest =>
    obtain ⟨order_eq, pos⟩ := numbered r List.mem_cons_self
    have cell := cellOf_int (Int.le_of_lt pos) (all_below r List.mem_cons_self)
    have from_zero : (rest.map Record.rank).foldl max r.rank = Record.highest (r :: rest) := by
      unfold Record.highest
      rw [← List.foldl_eq_foldr, List.map_cons, List.foldl_cons,
        Int.max_eq_right (Int.le_of_lt pos)]
    have first : (if Cell.null.compareWith .binary (.int r.rank) == .lt then Cell.int r.rank
        else .null) = .int r.rank := rfl
    unfold nextOrder
    rw [List.foldl_cons, order_eq, cell]
    dsimp only
    rw [first, foldl_greater (fun s hs => numbered s (List.mem_cons_of_mem r hs))
      fun s hs => all_below s (List.mem_cons_of_mem r hs), from_zero]
    generalize Record.highest (r :: rest) = n at within
    simp [Cell.isNull, Cell.calculate, Cell.number, within, Cell.toValue]

end TableStore

end SchemaMigration
