import SchemaMigration.Proofs.History.Numbering
import SchemaMigration.Proofs.Run.Plan

namespace SchemaMigration

section Sorting

variable {α : Type} {le : α → α → Bool}

theorem split_unique {a : α} {front rest front' rest' : List α}
    (same : front ++ rest = front' ++ rest')
    (before : ∀ b ∈ front, le a b = false) (after : ∀ b ∈ rest, le a b = true)
    (before' : ∀ b ∈ front', le a b = false) (after' : ∀ b ∈ rest', le a b = true) :
    front = front' ∧ rest = rest' := by
  have taken : ∀ xs ys : List α, (∀ b ∈ xs, le a b = false) → (∀ b ∈ ys, le a b = true) →
      (xs ++ ys).takeWhile (fun b => !le a b) = xs := by
    intro xs ys hxs hys
    rw [List.takeWhile_append_of_pos (by simpa using hxs)]
    cases ys with
    | nil => simp
    | cons y ys => simp [hys y List.mem_cons_self]
  have front_eq : front = front' := by
    rw [← taken front rest before after, same, taken front' rest' before' after']
  subst front_eq
  exact ⟨rfl, List.append_cancel_left same⟩

theorem mergeSort_filter (trans : ∀ a b c, le a b = true → le b c = true → le a c = true)
    (total : ∀ a b, (le a b || le b a) = true) (keep : α → Bool) (xs : List α) :
    (xs.filter keep).mergeSort le = (xs.mergeSort le).filter keep := by
  induction xs with
  | nil => simp
  | cons a rest ih =>
    obtain ⟨front, back, sorted, sorted_rest, before⟩ := List.mergeSort_cons trans total a rest
    rw [sorted_rest, List.filter_append] at ih
    rw [sorted]
    cases kept : keep a with
    | false => simp [kept, ih]
    | true =>
      obtain ⟨front', back', sorted', sorted_rest', before'⟩ :=
        List.mergeSort_cons trans total a (rest.filter keep)
      have after := List.pairwise_mergeSort trans total (a :: rest)
      have after' := List.pairwise_mergeSort trans total (a :: rest.filter keep)
      rw [sorted, List.pairwise_append] at after
      rw [sorted', List.pairwise_append] at after'
      obtain ⟨front_eq, back_eq⟩ := split_unique (a := a) (sorted_rest'.symm.trans ih)
        (by simpa using before') (List.pairwise_cons.mp after'.2.1).1
        (fun b hb => by simpa using before b (List.mem_of_mem_filter hb))
        (fun b hb => (List.pairwise_cons.mp after.2.1).1 b (List.mem_of_mem_filter hb))
      simp [kept, sorted', front_eq, back_eq]

theorem eq_filter_append {keep : α → Bool} {xs : List α}
    (first : xs.Pairwise fun a b => keep b = true → keep a = true) :
    xs = xs.filter keep ++ xs.filter fun a => !keep a := by
  induction xs with
  | nil => rfl
  | cons a rest ih =>
    obtain ⟨before, first_rest⟩ := List.pairwise_cons.mp first
    cases kept : keep a with
    | true => simpa [kept] using ih first_rest
    | false =>
      have none_kept : ∀ b ∈ rest, keep b = false := by
        intro b hb
        rw [Bool.eq_false_iff]
        intro kept_b
        rw [before b hb kept_b] at kept
        cases kept
      have all_left : rest.filter (fun b => !keep b) = rest :=
        List.filter_eq_self.mpr fun b hb => by simp [none_kept b hb]
      have no_kept : rest.filter keep = [] :=
        List.filter_eq_nil_iff.mpr fun b hb => by simp [none_kept b hb]
      simp [kept, all_left, no_kept]

end Sorting

namespace Migration

theorem orderOf_eq {r : Record} (ranked : r.IsRanked) : orderOf r = .int r.rank := by
  unfold orderOf Record.rank
  rcases ranked with none_given | ⟨n, given⟩
  · rw [none_given]
    rfl
  · rw [given]
    by_cases zero : n = 0
    · simp [zero, Value.isTrue]
    · simp [zero, Value.isTrue]

theorem order?_orderOf {r s : Record} (ranked_r : r.IsRanked) (ranked_s : s.IsRanked) :
    (orderOf r).order? (orderOf s) = some (compare r.rank s.rank) := by
  rw [orderOf_eq ranked_r, orderOf_eq ranked_s]
  simp [Value.order?, Value.number?, Value.orderOfNumbers?]

theorem notOlder_eq {r s : Record} (ranked_r : r.IsRanked) (ranked_s : s.IsRanked) :
    ((orderOf r).order? (orderOf s) != some .lt) = decide (s.rank ≤ r.rank) := by
  rw [order?_orderOf ranked_r ranked_s, Bool.eq_iff_iff]
  simp [Int.compare_eq_lt]

theorem areOrdered_of_isRanked {records : List Record} (ranked : ∀ r ∈ records, r.IsRanked) :
    Value.areOrdered (records.map orderOf) = true := by
  induction records with
  | nil => rfl
  | cons r rest ih =>
    have ordered_rest := ih fun s hs => ranked s (List.mem_cons_of_mem r hs)
    have with_first : ∀ s ∈ rest, ((orderOf r).order? (orderOf s)).isSome = true := by
      intro s hs
      rw [order?_orderOf (ranked r List.mem_cons_self) (ranked s (List.mem_cons_of_mem r hs))]
      rfl
    cases rest with
    | nil => rfl
    | cons s rest =>
      rw [List.map_cons, List.map_cons, Value.areOrdered, ← List.map_cons, ordered_rest,
        Bool.and_true, List.all_map, List.all_eq_true]
      · exact with_first
      · nofun

theorem newestFirst_eq_mergeSort {recorded : List (ChangeSet × Record)}
    (ranked : ∀ t ∈ recorded, t.2.IsRanked) :
    newestFirst recorded = recorded.mergeSort fun t u => decide (u.2.rank ≤ t.2.rank) := by
  have sorted := List.map_mergeSort (f := id) (l := recorded)
    (r := fun t u => (orderOf t.2).order? (orderOf u.2) != some .lt)
    (s := fun t u => decide (u.2.rank ≤ t.2.rank))
    fun t ht u hu => notOlder_eq (ranked t ht) (ranked u hu)
  simpa [newestFirst] using sorted

theorem rank_trans (t u v : ChangeSet × Record) (htu : decide (u.2.rank ≤ t.2.rank) = true)
    (huv : decide (v.2.rank ≤ u.2.rank) = true) : decide (v.2.rank ≤ t.2.rank) = true := by
  rw [decide_eq_true_eq] at htu huv ⊢
  exact Int.le_trans huv htu

theorem rank_total (t u : ChangeSet × Record) :
    (decide (u.2.rank ≤ t.2.rank) || decide (t.2.rank ≤ u.2.rank)) = true := by
  rw [Bool.or_eq_true, decide_eq_true_eq, decide_eq_true_eq]
  exact Int.le_total _ _

theorem newestFirst_pairwise {recorded : List (ChangeSet × Record)}
    (ranked : ∀ t ∈ recorded, t.2.IsRanked) :
    (newestFirst recorded).Pairwise fun t u => u.2.rank ≤ t.2.rank := by
  rw [newestFirst_eq_mergeSort ranked]
  exact (List.pairwise_mergeSort rank_trans rank_total recorded).imp fun h => of_decide_eq_true h

theorem newestFirst_filter {recorded : List (ChangeSet × Record)}
    (ranked : ∀ t ∈ recorded, t.2.IsRanked)
    (keep : ChangeSet × Record → Bool) :
    newestFirst (recorded.filter keep) = (newestFirst recorded).filter keep := by
  rw [newestFirst_eq_mergeSort ranked,
    newestFirst_eq_mergeSort fun t ht => ranked t (List.mem_of_mem_filter ht)]
  exact mergeSort_filter rank_trans rank_total keep recorded

theorem newestFirst_of_pairwise {runs : List (ChangeSet × Record)}
    (ranked : ∀ t ∈ runs, t.2.IsRanked)
    (upwards : runs.Pairwise fun t u => t.2.rank < u.2.rank) : newestFirst runs = runs.reverse := by
  have same : (newestFirst runs).Perm runs := List.mergeSort_perm _ _
  have downwards : runs.reverse.Pairwise fun t u => u.2.rank ≤ t.2.rank :=
    List.pairwise_reverse.mpr (upwards.imp Int.le_of_lt)
  apply List.Perm.eq_of_pairwise _ (newestFirst_pairwise ranked) downwards
    (same.trans runs.reverse_perm.symm)
  intro t u ht hu le ge
  by_contra ne
  rcases related_of_pairwise upwards (same.subset ht) (List.mem_reverse.mp hu) ne with lt | gt
  · exact absurd le (Int.not_le.mpr lt)
  · exact absurd ge (Int.not_le.mpr gt)

theorem newestFirst_eq_append {recorded : List (ChangeSet × Record)}
    {isNew : ChangeSet × Record → Bool}
    (ranked : ∀ t ∈ recorded, t.2.IsRanked)
    (above : ∀ t ∈ recorded, ∀ u ∈ recorded, isNew t = true → isNew u = false → u.2.rank < t.2.rank)
    (upwards : (recorded.filter isNew).Pairwise fun t u => t.2.rank < u.2.rank) :
    newestFirst recorded = (recorded.filter isNew).reverse ++
      newestFirst (recorded.filter fun t => !isNew t) := by
  have known : ∀ t ∈ newestFirst recorded, t ∈ recorded :=
    fun t ht => (List.mergeSort_perm _ _).subset ht
  have new_first : (newestFirst recorded).Pairwise fun t u => isNew u = true → isNew t = true := by
    refine (newestFirst_pairwise ranked).imp_of_mem fun ht hu downwards new => ?_
    by_contra old
    have lt := above _ (known _ hu) _ (known _ ht) new (Bool.eq_false_iff.mpr old)
    exact absurd downwards (Int.not_le.mpr lt)
  calc newestFirst recorded
      = (newestFirst recorded).filter isNew ++ (newestFirst recorded).filter fun t => !isNew t :=
        eq_filter_append new_first
    _ = newestFirst (recorded.filter isNew) ++ newestFirst (recorded.filter fun t => !isNew t) := by
        rw [newestFirst_filter ranked, newestFirst_filter ranked]
    _ = (recorded.filter isNew).reverse ++ newestFirst (recorded.filter fun t => !isNew t) := by
        rw [newestFirst_of_pairwise (fun t ht => ranked t (List.mem_of_mem_filter ht)) upwards]

theorem run_targets_of_isRanked {m : Migration} {w : World MemoryStore}
    (free : ¬ m.changeLog.changeSets.any (w.store.snapshot m.ignoreCase).isObstructed = true)
    (ranked : ∀ t ∈ recorded (w.store.snapshot m.ignoreCase) m.changeLog.changeSets, t.2.IsRanked)
    (count : Nat) :
    (m.targets count).run w =
      (.ok ((newestFirst (recorded (w.store.snapshot m.ignoreCase) m.changeLog.changeSets)).take
        count),
        w) := by
  have all_ranked : ∀ r ∈ (recorded (w.store.snapshot m.ignoreCase)
    m.changeLog.changeSets).map Prod.snd,
      r.IsRanked := by
    intro r hr
    obtain ⟨t, ht, rfl⟩ := List.mem_map.mp hr
    exact ranked t ht
  have ordered := areOrdered_of_isRanked all_ranked
  rw [List.map_map] at ordered
  rw [run_targets_eq, if_neg free, if_pos (by simpa [Function.comp_def] using ordered)]

end Migration

end SchemaMigration
