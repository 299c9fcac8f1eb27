import SchemaMigration.Proofs.Change.Confirmation
import SchemaMigration.Proofs.Run.Visit

namespace SchemaMigration

namespace Migration

section Store

variable {σ : Type} [HistoryStore σ]

def undoOne (m : Migration) (c : ChangeSet) (r : Record) (sql : List String) : Action σ Unit := do
  m.execute c sql
  Action.onStore fun store => HistoryStore.remove store c r.path
  Action.info ("Rolled back " ++ c.key)

theorem undoAll_cons (m : Migration) (c : ChangeSet) (r : Record) (sql : List String)
    (rest : List (ChangeSet × Record × List String)) :
    (m.undoAll ((c, r, sql) :: rest) : Action σ Unit) = (do
      m.undoOne c r sql
      m.undoAll rest) := by
  conv_lhs => unfold undoAll
  unfold undoOne
  simp only [bind_assoc]

theorem undoAll_append (m : Migration) (front back : List (ChangeSet × Record × List String)) :
    (m.undoAll (front ++ back) : Action σ Unit) = (do
      m.undoAll front
      m.undoAll back) := by
  induction front with
  | nil => rfl
  | cons p rest ih =>
    obtain ⟨c, r, sql⟩ := p
    rw [List.cons_append, undoAll_cons, undoAll_cons, ih, bind_assoc]

theorem undoAll_with_now (m : Migration) (now : Timestamp)
    (plan : List (ChangeSet × Record × List String)) :
    ({ m with now := now }.undoAll plan : Action σ Unit) = m.undoAll plan := by
  induction plan with
  | nil => rfl
  | cons p rest ih =>
    obtain ⟨c, r, sql⟩ := p
    rw [undoAll_cons, undoAll_cons, ih]
    rfl

def planned (m : Migration) (count : Int) : Action σ (List (ChangeSet × Record × List String)) :=
  if count < 0 then Action.fail (.negativeCount count)
  else do
    let targets ← m.targets count.toNat
    Action.ofExcept (m.plan targets)

def reportOfPlan (m : Migration) (dryRun : Bool) (plan : List (ChangeSet × Record × List String)) :
    Report where
  operation := "rollback"
  start := m.now
  finish := some m.now
  rolledBack := plan.map fun (c, _, _) => c.key
  statements := plan.flatMap fun (_, _, sql) => sql
  dryRun := dryRun

theorem rollback_eq (m : Migration) (count : Int) (dryRun : Bool) :
    (m.rollback count dryRun : Action σ Report) = (do
      let plan ← m.planned count
      if !dryRun then m.undoAll plan
      return m.reportOfPlan dryRun plan) := by
  unfold rollback planned
  split
  next => rfl
  next =>
    rw [bind_assoc]
    rfl

theorem run_rollback (m : Migration) (count : Int) (w : World σ) :
    (m.rollback count false).run w =
      match (m.planned count).run w with
      | (.ok plan, w') =>
        (((m.undoAll plan).run w').1.map fun _ => m.reportOfPlan false plan,
          ((m.undoAll plan).run w').2)
      | (.error e, w') => (.error e, w') := by
  rw [rollback_eq, Action.run_bind]
  rcases (m.planned count).run w with ⟨e | plan, w'⟩
  · rfl
  · dsimp only
    simp only [Bool.not_false, if_true]
    rw [Action.run_bind]
    rcases (m.undoAll plan).run w' with ⟨e | _, w''⟩
    · rfl
    · rfl

theorem run_rollback_dry (m : Migration) (count : Int) (w : World σ) :
    (m.rollback count true).run w =
      (((m.planned count).run w).1.map (m.reportOfPlan true), ((m.planned count).run w).2) := by
  rw [rollback_eq, Action.run_bind]
  rcases (m.planned count).run w with ⟨e | plan, w'⟩
  · rfl
  · rfl

end Store

variable {m : Migration} {c : ChangeSet} {r : Record} {sql : List String} {w w' : World MemoryStore}

theorem plan_eq_ok_iff {targets : List (ChangeSet × Record)}
    {plan : List (ChangeSet × Record × List String)} :
    m.plan targets = .ok plan ↔
      plan.map (fun p => (p.1, p.2.1)) = targets ∧ ∀ p ∈ plan,
        m.renderRollback p.1 = .ok p.2.2 := by
  induction targets generalizing plan with
  | nil =>
    constructor
    · intro planned
      cases planned
      exact ⟨rfl, fun p hp => by cases hp⟩
    · rintro ⟨no_targets, -⟩
      rw [List.map_eq_nil_iff.mp no_targets]
      rfl
  | cons target rest ih =>
    obtain ⟨c, r⟩ := target
    unfold Migration.plan
    constructor
    · intro planned
      obtain ⟨sql, rendered, planned⟩ := exists_of_bind_eq_ok planned
      obtain ⟨more, planned_rest, planned⟩ := exists_of_bind_eq_ok planned
      cases planned
      obtain ⟨rfl, rendered_rest⟩ := ih.mp planned_rest
      exact ⟨rfl, List.forall_mem_cons.mpr ⟨rendered, rendered_rest⟩⟩
    · rintro ⟨targets_eq, rendered⟩
      obtain ⟨p, more, rfl, first, targets_rest⟩ := List.map_eq_cons_iff.mp targets_eq
      cases first
      obtain ⟨rendered, rendered_rest⟩ := List.forall_mem_cons.mp rendered
      rw [rendered, ih.mpr ⟨targets_rest, rendered_rest⟩]
      rfl

theorem plan_targets {targets : List (ChangeSet × Record)}
    {plan : List (ChangeSet × Record × List String)} (h : m.plan targets = .ok plan) :
    plan.map (fun p => (p.1, p.2.1)) = targets := (plan_eq_ok_iff.mp h).1

theorem plan_append_eq_ok {front back : List (ChangeSet × Record)}
    {plan : List (ChangeSet × Record × List String)} (h : m.plan (front ++ back) = .ok plan) :
    ∃ first second, plan = first ++ second ∧ m.plan front = .ok first ∧
      m.plan back = .ok second := by
  obtain ⟨targets, rendered⟩ := plan_eq_ok_iff.mp h
  obtain ⟨first, second, rfl, first_targets, second_targets⟩ := List.map_eq_append_iff.mp targets
  obtain ⟨rendered_first, rendered_second⟩ := List.forall_mem_append.mp rendered
  exact ⟨first, second, rfl, plan_eq_ok_iff.mpr ⟨first_targets, rendered_first⟩,
    plan_eq_ok_iff.mpr ⟨second_targets, rendered_second⟩⟩

theorem plan_eq_error {targets : List (ChangeSet × Record)} {e : Failure}
    (h : m.plan targets = .error e) : ∃ t ∈ targets, m.renderRollback t.1 = .error e := by
  induction targets with
  | nil => cases h
  | cons target rest ih =>
    obtain ⟨c, r⟩ := target
    unfold Migration.plan at h
    cases rendered : m.renderRollback c with
    | error e' =>
      rw [rendered] at h
      cases h
      exact ⟨_, List.mem_cons_self, rendered⟩
    | ok sql =>
      cases planned : m.plan rest with
      | error e' =>
        rw [rendered, planned] at h
        cases h
        obtain ⟨t, ht, failed⟩ := ih planned
        exact ⟨t, List.mem_cons_of_mem _ ht, failed⟩
      | ok more =>
        rw [rendered, planned] at h
        cases h

theorem inverseStatements_with_now (now : Timestamp) (changes : List Change) :
    { m with now := now }.inverseStatements changes = m.inverseStatements changes := by
  induction changes with
  | nil => rfl
  | cons change rest ih =>
    unfold inverseStatements
    rw [ih]

theorem renderRollback_with_now (now : Timestamp) (c : ChangeSet) :
    { m with now := now }.renderRollback c = m.renderRollback c := by
  unfold renderRollback
  rw [inverseStatements_with_now]
  rfl

theorem plan_with_now (now : Timestamp) (targets : List (ChangeSet × Record)) :
    { m with now := now }.plan targets = m.plan targets := by
  induction targets with
  | nil => rfl
  | cons target rest ih =>
    obtain ⟨c, r⟩ := target
    unfold Migration.plan
    rw [renderRollback_with_now, ih]

theorem recorded_sublist (s : Snapshot) (changeSets : List ChangeSet) :
    ((recorded s changeSets).map Prod.fst).Sublist changeSets := by
  induction changeSets with
  | nil => exact List.Sublist.slnil
  | cons c rest ih =>
    unfold recorded at ih ⊢
    cases found : s.find? c with
    | none =>
      simp only [List.filterMap_cons, found, Option.map_none]
      exact ih.cons c
    | some r =>
      simp only [List.filterMap_cons, found, Option.map_some, List.map_cons]
      exact ih.cons_cons c

theorem mem_recorded {s : Snapshot} {changeSets : List ChangeSet}
    (h : (c, r) ∈ recorded s changeSets) : c ∈ changeSets ∧ s.find? c = some r := by
  obtain ⟨d, hd, found⟩ := List.mem_filterMap.mp h
  obtain ⟨r', found_d, same⟩ := Option.map_eq_some_iff.mp found
  cases same
  exact ⟨hd, found_d⟩

theorem run_targets_eq (m : Migration) (count : Nat) (w : World MemoryStore) :
    (m.targets count).run w =
      (if m.changeLog.changeSets.any (w.store.snapshot m.ignoreCase).isObstructed then
          .error (.store (.misfit .lacking))
        else if Value.areOrdered ((recorded (w.store.snapshot m.ignoreCase)
          m.changeLog.changeSets).map
            fun (_, r) => orderOf r) then
          .ok ((newestFirst (recorded (w.store.snapshot m.ignoreCase) m.changeLog.changeSets)).take
            count)
        else .error (.store (.misfit .unfit)), w) := by
  unfold Migration.targets
  rw [Action.run_bind, run_select]
  dsimp only [startingSelection]
  split
  · rfl
  · split
    · rfl
    · rfl

theorem run_targets (m : Migration) (count : Nat) (w : World MemoryStore) :
    ((m.targets count).run w).2 = w ∧
      ∀ targets, ((m.targets count).run w).1 = .ok targets →
        targets =
          (newestFirst (recorded (w.store.snapshot m.ignoreCase) m.changeLog.changeSets)).take
          count := by
  rw [run_targets_eq]
  refine ⟨rfl, fun targets found => ?_⟩
  dsimp only at found
  split at found
  · cases found
  · split at found
    · exact (Except.ok.inj found).symm
    · cases found

theorem run_targets_of_store_eq {count : Nat} {targets : List (ChangeSet × Record)}
    {u : World MemoryStore}
    (found : (m.targets count).run w = (.ok targets, w)) (same : u.store = w.store) :
    (m.targets count).run u = (.ok targets, u) := by
  rw [run_targets_eq] at found ⊢
  rw [Prod.mk.injEq] at found ⊢
  rw [same]
  exact ⟨found.1, rfl⟩

theorem mem_newestFirst_take {s : Snapshot} {changeSets : List ChangeSet} {t : ChangeSet × Record}
    {count : Nat} (h : t ∈ (newestFirst (recorded s changeSets)).take count) :
    t.1 ∈ changeSets ∧ s.find? t.1 = some t.2 :=
  mem_recorded ((List.mergeSort_perm _ _).mem_iff.mp (List.mem_of_mem_take h))

theorem run_planned (m : Migration) (count : Int) (w : World MemoryStore) :
    ((m.planned count).run w).2 = w ∧
      ∀ plan, ((m.planned count).run w).1 = .ok plan →
        m.plan ((newestFirst (recorded (w.store.snapshot m.ignoreCase) m.changeLog.changeSets)).take
          count.toNat) = .ok plan := by
  unfold planned
  split
  next => exact ⟨rfl, nofun⟩
  next =>
    obtain ⟨unchanged, found⟩ := run_targets m count.toNat w
    rw [Action.run_bind]
    generalize (m.targets count.toNat).run w = ended at unchanged found ⊢
    rcases ended with ⟨e | targets, w'⟩
    · exact ⟨unchanged, nofun⟩
    · refine ⟨unchanged, fun plan planned => ?_⟩
      rw [← found targets rfl]
      exact planned

theorem run_planned_of_targets {count : Nat} {targets : List (ChangeSet × Record)}
    (found : (m.targets count).run w = (.ok targets, w)) :
    (m.planned count).run w = (m.plan targets, w) := by
  unfold planned
  rw [if_neg (by omega), Int.toNat_natCast, Action.run_bind, found]
  rfl

theorem run_rollback_of_plan {count : Nat} {targets : List (ChangeSet × Record)}
    {plan : List (ChangeSet × Record × List String)}
    (found : (m.targets count).run w = (.ok targets, w))
    (planned : m.plan targets = .ok plan) :
    (m.rollback count false).run w =
      (((m.undoAll plan).run w).1.map fun _ => m.reportOfPlan false plan,
        ((m.undoAll plan).run w).2) := by
  rw [run_rollback, run_planned_of_targets found, planned]

theorem rollback_eq_ok_iff {count : Nat} {targets : List (ChangeSet × Record)} {report : Report}
    (found : (m.targets count).run w = (.ok targets, w)) :
    (m.rollback count false).run w = (.ok report, w') ↔
      ∃ plan, m.plan targets = .ok plan ∧ (m.undoAll plan).run w = (.ok (), w') ∧
        report = m.reportOfPlan false plan := by
  rw [run_rollback, run_planned_of_targets found]
  cases planned : m.plan targets with
  | error e => simp
  | ok plan =>
    rcases undone : (m.undoAll plan).run w with ⟨e | _, w₁⟩
    · simp [undone, Except.map]
    · simp [undone, Except.map, eq_comm, and_comm]

inductive Undoing (c : ChangeSet) (r : Record) (sql : List String) (w : World MemoryStore) :
    Except Failure Unit → World MemoryStore → Prop
  | unsent {e : Failure} {w' : World MemoryStore} (store : w'.store = w.store)
      (transactions : w'.transactions = w.transactions) : Undoing c r sql w (.error e) w'
  | failed {e : Failure} {sent : List String} {w' : World MemoryStore} (store : w'.store = w.store)
      (transactions : w'.transactions = w.transactions ++ [⟨false, sent⟩]) :
      Undoing c r sql w (.error e) w'
  | done {w' : World MemoryStore} (store : w'.store = w.store.remove c r.path)
      (transactions : w'.transactions = w.transactions ++ [⟨true, sql⟩]) :
      Undoing c r sql w (.ok ()) w'

theorem run_undoOne (m : Migration) (c : ChangeSet) (r : Record) (sql : List String)
    (w : World MemoryStore) :
    Undoing c r sql w ((m.undoOne c r sql).run w).1 ((m.undoOne c r sql).run w).2 := by
  have execution := run_execute m c sql w
  unfold undoOne
  rw [Action.run_bind]
  generalize (m.execute c sql).run w = executed at execution ⊢
  rcases executed with ⟨e | _, w₁⟩
  · dsimp only at execution ⊢
    cases execution with
    | unsent _ store transactions => exact .unsent store transactions
    | failed _ sent store transactions =>
      obtain ⟨_, rfl, -⟩ := Engine.transact_eq_some sent
      exact .failed store transactions
  · dsimp only at execution ⊢
    generalize done : (Except.ok () : Except Failure Unit) = result at execution
    cases execution with
    | unsent => cases done
    | failed => cases done
    | committed _ sent store transactions =>
      cases Engine.transact_eq_none sent
      refine .done ?_ transactions
      rw [← store]
      rfl

def forget (store : MemoryStore) (targets : List (ChangeSet × Record)) : MemoryStore :=
  targets.foldl (fun store (c, r) => store.remove c r.path) store

theorem undoAll_eq_ok {plan : List (ChangeSet × Record × List String)}
    (returned : (m.undoAll plan).run w = (.ok (), w')) :
    w'.store = forget w.store (plan.map fun p => (p.1, p.2.1)) ∧
      w'.transactions = w.transactions ++ plan.map fun p => ⟨true, p.2.2⟩ := by
  induction plan generalizing w with
  | nil =>
    cases returned
    simp [forget]
  | cons p rest ih =>
    obtain ⟨c, r, sql⟩ := p
    have undoing := run_undoOne m c r sql w
    rw [undoAll_cons, Action.run_bind] at returned
    rcases undone : (m.undoOne c r sql).run w with ⟨e | _, w₁⟩
    · rw [undone] at returned
      cases returned
    · rw [undone] at returned undoing
      dsimp only at undoing
      cases undoing with
      | done store transactions =>
        obtain ⟨store_rest, sent_rest⟩ := ih returned
        rw [store_rest, sent_rest, store, transactions]
        exact ⟨rfl, by simp⟩

theorem undoAll_eq_error {plan : List (ChangeSet × Record × List String)} {e : Failure}
    (failed : (m.undoAll plan).run w = (.error e, w')) :
    ∃ done p rest u, plan = done ++ p :: rest ∧ (m.undoAll done).run w = (.ok (), u) ∧
      (m.undoOne p.1 p.2.1 p.2.2).run u = (.error e, w') := by
  induction plan generalizing w with
  | nil => cases failed
  | cons p rest ih =>
    obtain ⟨c, r, sql⟩ := p
    rw [undoAll_cons, Action.run_bind] at failed
    rcases undone : (m.undoOne c r sql).run w with ⟨e' | _, w₁⟩
    · rw [undone] at failed
      cases failed
      exact ⟨[], (c, r, sql), rest, w, rfl, rfl, undone⟩
    · rw [undone] at failed
      obtain ⟨done, p, later, u, rfl, undone_done, stopped⟩ := ih failed
      refine ⟨(c, r, sql) :: done, p, later, u, rfl, ?_, stopped⟩
      rw [undoAll_cons, Action.run_bind, undone]
      exact undone_done

theorem execute_of_undoOne_error {e : Failure}
    (failed : (m.undoOne c r sql).run w = (.error e, w')) :
    (m.execute c sql).run w = (.error e, w') := by
  unfold undoOne at failed
  rw [Action.run_bind] at failed
  rcases executed : (m.execute c sql).run w with ⟨e' | _, w₁⟩
  · rw [executed] at failed
    exact failed
  · rw [executed] at failed
    cases failed

end Migration

end SchemaMigration
