import SchemaMigration.Proofs.Run.Restoration

/-! Rollbacks one after the other. What a rollback removes are the records that come first when they
are sorted, the newest first and equal ones in the order of the changelog; so the next rollback goes
on where it stopped, and two of them undo what one of both counts does. -/

namespace SchemaMigration

namespace Migration

variable {m : Migration} {w w' : World MemoryStore} {report : Report}

section Distinct

variable (distinct : ChangeSet.AreDistinct m.ignoreCase m.changeLog.changeSets)
  (recorded_distinct : Record.AreDistinct m.ignoreCase w.store.records)

include distinct recorded_distinct

theorem left_of_rollback {count : Nat}
    (returned : (m.rollback count false).run w = (.ok report, w')) :
    Record.AreDistinct m.ignoreCase w'.store.records ∧
      newestFirst (recorded (w'.store.snapshot m.ignoreCase) m.changeLog.changeSets) =
        (newestFirst (recorded (w.store.snapshot m.ignoreCase) m.changeLog.changeSets)).drop
          count := by
  have found := run_targets_of_distinct distinct recorded_distinct count
  obtain ⟨plan, planned, undone, -⟩ := (rollback_eq_ok_iff found).mp returned
  have targets_eq := plan_targets planned
  rw [← targets_eq, ← List.append_nil (plan.map _)] at found
  have removed := congrArg MemoryStore.records
    (removed_of_undoAll distinct recorded_distinct found undone)
  dsimp only at removed
  constructor
  · rw [removed]
    exact recorded_distinct.filter _
  · apply newestFirst_of_removed distinct recorded_distinct _ removed
    rw [targets_eq, List.take_append_drop]

end Distinct

/-- A rollback of two counts together, if it returns, is one of the first count and then one of the
second: both return, they report the same between them, and they leave the same world. -/
theorem rollback_add (m : Migration) (k n : Nat) (w w' : World MemoryStore) (report : Report)
    (distinct : ChangeSet.AreDistinct m.ignoreCase m.changeLog.changeSets)
    (recorded_distinct : Record.AreDistinct m.ignoreCase w.store.records)
    (returned : (m.rollback (k + n : Nat) false).run w = (.ok report, w')) (now now' : Timestamp) :
    ∃ first second between,
      ({ m with now := now }.rollback k false).run w = (.ok first, between) ∧
      ({ m with now := now' }.rollback n false).run between = (.ok second, w') ∧
      report.statements = first.statements ++ second.statements ∧
      report.rolledBack = first.rolledBack ++ second.rolledBack := by
  have found := run_targets_of_distinct distinct recorded_distinct (k + n)
  obtain ⟨plan, planned, undone, rfl⟩ := (rollback_eq_ok_iff found).mp returned
  -- the targets are those of the first rollback, and then as many of the others as the second one
  -- takes
  rw [List.take_add] at planned
  obtain ⟨front, back, rfl, planned_front, planned_back⟩ := plan_append_eq_ok planned
  rw [undoAll_append, Action.run_bind] at undone
  rcases undone_front : (m.undoAll front).run w with ⟨e | _, between⟩
  · rw [undone_front] at undone
    cases undone
  · rw [undone_front] at undone
    have first : ∀ now, ({ m with now := now }.rollback k false).run w =
        (.ok ({ m with now := now }.reportOfPlan false front), between) := by
      intro now
      apply (rollback_eq_ok_iff (run_targets_of_distinct (m := { m with now := now }) distinct
        recorded_distinct k)).mpr
      exact ⟨front, by rw [plan_with_now]; exact planned_front,
        by rw [undoAll_with_now, undone_front], rfl⟩
    obtain ⟨between_distinct, left⟩ := left_of_rollback distinct recorded_distinct (first m.now)
    have second : ({ m with now := now' }.rollback n false).run between =
        (.ok ({ m with now := now' }.reportOfPlan false back), w') := by
      apply (rollback_eq_ok_iff (run_targets_of_distinct (m := { m with now := now' }) distinct
        between_distinct n)).mpr
      refine ⟨back, ?_, by rw [undoAll_with_now]; exact undone, rfl⟩
      rw [plan_with_now, left]
      exact planned_back
    exact ⟨_, _, between, first now, second, List.flatMap_append, List.map_append⟩

def shopTied : World MemoryStore where
  store := { records := [recordOf "1" .null, recordOf "2" (.int 0), recordOf "3" (.int (-2))] }

def shopTargets : List (ChangeSet × Record) :=
  [(tableSet "1" "customers", recordOf "1" .null), (tableSet "2" "accounts", recordOf "2" (.int 0)),
    (tableSet "3" "orders", recordOf "3" (.int (-2)))]

theorem shopTied_areDistinct : Record.AreDistinct false shopTied.store.records where
  textual := by simp [shopTied, recordOf, Record.identity, Identity.IsTextual]
  ranked := by simp [shopTied, recordOf, Record.IsRanked]
  nodup := by decide +kernel

theorem shopTied_targets :
    (shopRun.targets 2).run shopTied = (.ok (shopTargets.take 2), shopTied) := by
  have recorded_eq : recorded (shopTied.store.snapshot shopRun.ignoreCase)
    shopRun.changeLog.changeSets =
      shopTargets := by
    rfl
  have sorted : newestFirst shopTargets = shopTargets := by
    unfold newestFirst
    apply List.mergeSort_of_pairwise
    decide +kernel
  rw [run_targets_of_distinct shopRun_areDistinct shopTied_areDistinct 2, recorded_eq, sorted]

def shopTiedPlan : List (ChangeSet × Record × List String) :=
  [(tableSet "1" "customers", recordOf "1" .null, ["DROP TABLE customers"]),
    (tableSet "2" "accounts", recordOf "2" (.int 0), ["DROP TABLE accounts"])]

theorem rollback_add_shop :
    ChangeSet.AreDistinct false shopRun.changeLog.changeSets ∧
      Record.AreDistinct false shopTied.store.records ∧
      ∃ report w', (shopRun.rollback (1 + 1 : Nat) false).run shopTied = (.ok report, w') ∧
        report.rolledBack = ["db/changelog.py::1::alice", "db/changelog.py::2::alice"] ∧
        ∃ first second between, (shopRun.rollback (1 : Nat) false).run shopTied =
          (.ok first, between) ∧
          (shopRun.rollback (1 : Nat) false).run between = (.ok second, w') ∧
          report.statements = first.statements ++ second.statements ∧
          report.rolledBack = first.rolledBack ++ second.rolledBack := by
  have planned : shopRun.plan (shopTargets.take 2) = .ok shopTiedPlan := rfl
  have undoes : ((shopRun.undoAll shopTiedPlan).run shopTied).1.toBool = true := by decide +kernel
  rcases undone : (shopRun.undoAll shopTiedPlan).run shopTied with ⟨e | _, w'⟩
  · rw [undone] at undoes
    cases undoes
  · have returned : (shopRun.rollback (1 + 1 : Nat) false).run shopTied =
        (.ok (shopRun.reportOfPlan false shopTiedPlan), w') :=
      (rollback_eq_ok_iff shopTied_targets).mpr ⟨shopTiedPlan, planned, undone, rfl⟩
    refine ⟨shopRun_areDistinct, shopTied_areDistinct, _, w', returned, by decide +kernel, ?_⟩
    exact rollback_add shopRun 1 1 shopTied w' _ shopRun_areDistinct shopTied_areDistinct returned
      shopRun.now shopRun.now

end Migration

end SchemaMigration
