import SchemaMigration.Proofs.Run.Visit

/-! Changesets that have to run, and whether an update that does not get them done leaves them so.
The checksum is written back before the guard is evaluated and before anything is executed; so a
changeset that has to run for its change alone is lost once it was visited. -/

namespace SchemaMigration

/-- Whether a changeset has to run, as far as the store says now. -/
def MemoryStore.isPending (store : MemoryStore) (ignoreCase : Bool) (c : ChangeSet) : Bool :=
  !(store.snapshot ignoreCase).isObstructed c && (store.snapshot ignoreCase).mustRun c

theorem Snapshot.AgreeOn.isPending {ignoreCase : Bool} {c : ChangeSet} {store store' : MemoryStore}
    (h : AgreeOn c (store.snapshot ignoreCase) (store'.snapshot ignoreCase)) :
    store.isPending ignoreCase c = store'.isPending ignoreCase c := by
  unfold MemoryStore.isPending
  rw [h.isObstructed, h.mustRun]

namespace Selection

variable {c : ChangeSet} {s : Selection} {store : MemoryStore}

theorem isPending_writtenBack (hc : c.identity.IsTextual) (current : s.IsCurrent store c)
    (pending : store.isPending s.snapshot.ignoreCase c = true) :
    (s.writtenBack store c).isPending s.snapshot.ignoreCase c =
      (c.runAlways.isTrue || ((store.snapshot s.snapshot.ignoreCase).find? c).isNone) := by
  unfold MemoryStore.isPending at pending ⊢
  rw [Bool.and_eq_true, Bool.not_eq_true'] at pending
  rw [isObstructed_writtenBack, pending.1]
  unfold Snapshot.mustRun
  rw [find?_writtenBack hc current]
  cases (store.snapshot s.snapshot.ignoreCase).find? c with
  | none => simp
  | some r => simp [Snapshot.hasDrifted]

end Selection

namespace Migration

variable {m : Migration} {c : ChangeSet} {s : Selection} {w w₁ w' : World MemoryStore}

theorem Execution.isCommitted {sql : List String} {outcome : Except Failure Step}
    (h : Execution m c sql w (.ok ()) w₁) (transactions : w'.transactions = w₁.transactions) :
    (Visit.mk c w outcome w').isCommitted = true := by
  generalize done : (Except.ok () : Except Failure Unit) = result at h
  cases h with
  | unsent => cases done
  | failed => cases done
  | committed _ sent _ grown =>
    cases Engine.transact_eq_none sent
    simp [Visit.isCommitted, Visit.sent, transactions, grown]

theorem Treatment.store_eq {path : Value} {outcome : Except Failure Step}
    (h : Treatment m path c w outcome w')
    (uncommitted : (Visit.mk c w outcome w').isCommitted = false)
    (unmarked : (Visit.mk c w outcome w').isMarked = false) : w'.store = w.store := by
  cases h with
  | halted _ store _ => exact store
  | heldBack _ store _ => exact store
  | marked => simp [Visit.isMarked] at unmarked
  | unmarked _ store _ => exact markRan_memory_error store
  | unrendered _ _ store _ => exact store
  | unexecuted _ _ execution => exact execution.store_eq
  | unrecorded _ _ execution _ transactions =>
    rw [execution.isCommitted transactions] at uncommitted
    cases uncommitted
  | unconfirmed _ _ execution _ transactions _ =>
    rw [execution.isCommitted transactions] at uncommitted
    cases uncommitted
  | applied _ _ execution _ transactions _ =>
    rw [execution.isCommitted transactions] at uncommitted
    cases uncommitted

theorem Turn.store_eq {result : Except Failure (Step × Selection)} (h : Turn m s c w result w')
    (pending : s.snapshot.isObstructed c = false ∧ s.snapshot.mustRun c = true)
    (uncommitted : (Visit.mk c w (result.map Prod.fst) w').isCommitted = false)
    (unmarked : (Visit.mk c w (result.map Prod.fst) w').isMarked = false) :
    w'.store = s.writtenBack w.store c := by
  cases h with
  | obstructed obstructed => simp [obstructed] at pending
  | skipped _ decided => simp [decided] at pending
  | @treated outcome _ _ _ treatment =>
    rw [map_fst_outcome] at uncommitted unmarked
    exact treatment.store_eq uncommitted unmarked

theorem isPending_updateAll_head {rest : List ChangeSet}
    (distinct : ChangeSet.AreDistinct s.snapshot.ignoreCase (c :: rest))
    (current : ∀ d ∈ c :: rest, s.IsCurrent w.store d)
    (pending : w.store.isPending s.snapshot.ignoreCase c = true)
    (undone : ∀ v ∈ m.visitsFrom s (c :: rest) w, v.changeSet = c →
      v.isCommitted = false ∧ v.isMarked = false) :
    ((m.updateAll false s (c :: rest)).run w).2.store.isPending s.snapshot.ignoreCase c =
        (c.runAlways.isTrue || ((w.store.snapshot s.snapshot.ignoreCase).find? c).isNone) ∧
      ∃ v ∈ m.visitsFrom s (c :: rest) w, v.changeSet = c := by
  have hc := distinct.head
  have current_c := current c List.mem_cons_self
  have turn := run_updateOne m s hc w
  have due : s.snapshot.isObstructed c = false ∧ s.snapshot.mustRun c = true := by
    rw [current_c.agrees.isObstructed, current_c.agrees.mustRun]
    simpa [MemoryStore.isPending] using pending
  have after_first := Selection.isPending_writtenBack hc current_c pending
  rcases visited : (m.updateOne false s c).run w with ⟨e | ⟨step, s'⟩, w'⟩
  · rw [visited] at turn
    rw [visitsFrom_error visited] at undone ⊢
    rw [run_updateAll_error visited]
    obtain ⟨uncommitted, unmarked⟩ := undone _ List.mem_cons_self rfl
    refine ⟨?_, _, List.mem_cons_self, rfl⟩
    rw [turn.store_eq due uncommitted unmarked, after_first]
  · rw [visited] at turn
    rw [visitsFrom_ok visited] at undone ⊢
    rw [run_updateAll_ok visited]
    obtain ⟨uncommitted, unmarked⟩ := undone _ List.mem_cons_self rfl
    refine ⟨?_, _, List.mem_cons_self, rfl⟩
    cases turn.selection_eq
    -- the changesets to come are others, and their visits leave this one as it is
    have later := updateAll_agreeOn m rest (s.noting c) w' (by simpa using distinct.tail)
      (turn.isCurrent distinct current) hc (by
        intro d hd
        simpa using (distinct.head_ne hd).symm)
    rw [Selection.snapshot_noting] at later
    rw [← later.isPending, turn.store_eq due uncommitted unmarked, after_first]

/-- A row of visits leaves a changeset that it gets nothing done of so if it does not come to it, if
the changeset always runs, or if it has no record. -/
theorem isPending_updateAll (m : Migration) (changeSets : List ChangeSet) (s : Selection)
    (w : World MemoryStore) (distinct : ChangeSet.AreDistinct s.snapshot.ignoreCase changeSets)
    (current : ∀ d ∈ changeSets, s.IsCurrent w.store d) (hc : c ∈ changeSets)
    (pending : w.store.isPending s.snapshot.ignoreCase c = true)
    (undone : ∀ v ∈ m.visitsFrom s changeSets w, v.changeSet = c →
      v.isCommitted = false ∧ v.isMarked = false) :
    ((m.updateAll false s changeSets).run w).2.store.isPending s.snapshot.ignoreCase c = true ↔
      c.runAlways.isTrue = true ∨ (w.store.snapshot s.snapshot.ignoreCase).find? c = none ∨
        ∀ v ∈ m.visitsFrom s changeSets w, v.changeSet ≠ c := by
  induction changeSets generalizing s w with
  | nil => cases hc
  | cons d rest ih =>
    rcases List.mem_cons.mp hc with rfl | hc_rest
    · obtain ⟨after, v, hv, at_c⟩ := isPending_updateAll_head distinct current pending undone
      have not_unvisited : ¬ ∀ v ∈ m.visitsFrom s (c :: rest) w, v.changeSet ≠ c :=
        fun unvisited => unvisited v hv at_c
      rw [after, Bool.or_eq_true, Option.isNone_iff_eq_none]
      simp only [not_unvisited, or_false]
    · have turn := run_updateOne m s distinct.head w
      have ne := distinct.head_ne hc_rest
      have d_ne : d ≠ c := by
        rintro rfl
        exact ne rfl
      have agrees := turn.agreeOn distinct.head (current d List.mem_cons_self)
        (distinct.tail.textual c hc_rest) ne
      rcases visited : (m.updateOne false s d).run w with ⟨e | ⟨step, s'⟩, w'⟩
      · rw [visited] at agrees
        rw [run_updateAll_error visited, visitsFrom_error visited]
        dsimp only at agrees ⊢
        rw [← agrees.isPending]
        simp [pending, d_ne]
      · rw [visited] at turn agrees
        cases turn.selection_eq
        rw [visitsFrom_ok visited] at undone ⊢
        rw [run_updateAll_ok visited]
        have rest_iff := ih (s.noting d) w' (by simpa using distinct.tail)
          (turn.isCurrent distinct current) hc_rest
          (by simpa [← agrees.isPending] using pending)
          (fun v hv => undone v (List.mem_cons_of_mem _ hv))
        dsimp only at agrees
        rw [Selection.snapshot_noting, ← agrees.find?] at rest_iff
        rw [rest_iff]
        simp [d_ne]

/-- A changeset that has to run, and that an update neither executes up to its commit nor records,
still has to run afterwards exactly if the update does not come to it, if it always runs, or if it
has no record. -/
theorem isPending_update_iff (m : Migration) (c : ChangeSet) (w : World MemoryStore)
    (distinct : ChangeSet.AreDistinct m.ignoreCase m.changeLog.changeSets)
    (hc : c ∈ m.changeLog.changeSets) (pending : w.store.isPending m.ignoreCase c = true)
    (undone : ∀ v ∈ m.visits w, v.changeSet = c → v.isCommitted = false ∧ v.isMarked = false) :
    ((m.update false).run w).2.store.isPending m.ignoreCase c = true ↔
      c.runAlways.isTrue = true ∨ (w.store.snapshot m.ignoreCase).find? c = none ∨
        ∀ v ∈ m.visits w, v.changeSet ≠ c := by
  have course := run_update m w
  generalize m.visits w = visits at course undone ⊢
  generalize ((m.update false).run w).2 = w' at course ⊢
  generalize ((m.update false).run w).1 = result at course
  cases course with
  | halted _ store _ => simp [store, pending]
  | unmet _ _ store _ => simp [store, pending]
  | @visited log _ w₁ _ _ visited store _ =>
    have row := isPending_updateAll m m.changeLog.changeSets (m.startingSelection w)
      { w with log := log } distinct (fun d _ => Selection.isCurrent_ofStore _ _ d) hc
        pending undone
    rw [visited] at row
    rw [store]
    exact row

/-- A changeset to run on change, and on another dialect only; elsewhere it is to be tried again. -/
def oracleView : ChangeSet where
  id := .text "1"
  author := .text "alice"
  path := .text "db/changelog.py"
  runOnChange := .bool true
  guard :=
    some { policy := { onFail := .retry }, preconditions := [.check (.dbms (.text "oracle"))] }

def oracleViewOnSqlite : Migration where
  changeLog := { path := .text "db/changelog.py", changeSets := [oracleView] }
  database := { name := "sqlite", style := .of (some .sqlite) }
  now := { year := 2024, month := 1, day := 2 }

/-- The world after a run of it with another content. -/
def oracleViewRan : World MemoryStore where
  store := { records :=
    [⟨.text "1", .text "alice", .text "db/changelog.py", .text "old", none, .int 1, .null⟩] }

theorem oracleView_distinct : ChangeSet.AreDistinct false oracleViewOnSqlite.changeLog.changeSets :=
  ChangeSet.areDistinct_singleton ⟨"1", "alice", "db/changelog.py", rfl⟩

theorem oracleView_undone :
    ∀ v ∈ oracleViewOnSqlite.visits oracleViewRan, v.changeSet = oracleView →
    v.isCommitted = false ∧ v.isMarked = false := by
  have nothing_done : (oracleViewOnSqlite.visits oracleViewRan).all
      fun v => !v.isCommitted && !v.isMarked := by decide +kernel
  intro v hv _
  simpa using List.all_eq_true.mp nothing_done v hv

/-- What the guard held back is not tried again. -/
theorem oracleView_lost :
    ChangeSet.AreDistinct false oracleViewOnSqlite.changeLog.changeSets ∧
      oracleView ∈ oracleViewOnSqlite.changeLog.changeSets ∧
      oracleViewRan.store.isPending false oracleView = true ∧
      (∀ v ∈ oracleViewOnSqlite.visits oracleViewRan, v.changeSet = oracleView →
        v.isCommitted = false ∧ v.isMarked = false) ∧
      ((oracleViewOnSqlite.update false).run oracleViewRan).2.store.isPending false oracleView =
        false :=
  ⟨oracleView_distinct, List.mem_cons_self, by decide +kernel, oracleView_undone, by decide +kernel⟩

theorem isPending_update_iff_oracleView :
    oracleViewRan.store.isPending false oracleView = true ∧
      (∀ v ∈ oracleViewOnSqlite.visits oracleViewRan, v.changeSet = oracleView →
        v.isCommitted = false ∧ v.isMarked = false) ∧
      (((oracleViewOnSqlite.update false).run oracleViewRan).2.store.isPending false oracleView =
        true ↔
        oracleView.runAlways.isTrue = true ∨
          (oracleViewRan.store.snapshot false).find? oracleView = none ∨
          ∀ v ∈ oracleViewOnSqlite.visits oracleViewRan, v.changeSet ≠ oracleView) := by
  have pending : oracleViewRan.store.isPending false oracleView = true := by decide +kernel
  refine ⟨pending, oracleView_undone, ?_⟩
  exact isPending_update_iff oracleViewOnSqlite oracleView oracleViewRan oracleView_distinct
    List.mem_cons_self pending oracleView_undone

end Migration

end SchemaMigration
