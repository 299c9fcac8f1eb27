import SchemaMigration.Proofs.Run.Interruption
import SchemaMigration.Proofs.Run.Ranking

/-! Rollbacks that fail, and those that follow on them. All SQL is rendered before any is executed;
and where every changeset has one record at most, a rollback that fails at a target has undone those
in front of it and no more, and the next one goes on with the others in the same order. -/

namespace SchemaMigration

/-- Records as runs write them, one at most for each identity under the policy on letter case. -/
structure Record.AreDistinct (ignoreCase : Bool) (records : List Record) : Prop where
  textual : ∀ r ∈ records, r.identity.IsTextual
  ranked : ∀ r ∈ records, r.IsRanked
  nodup : (records.map fun r => r.identity.texts? ignoreCase).Nodup

theorem Record.AreDistinct.filter {ignoreCase : Bool} {records : List Record}
    (distinct : Record.AreDistinct ignoreCase records) (keep : Record → Bool) :
    Record.AreDistinct ignoreCase (records.filter keep) where
  textual r hr := distinct.textual r (List.mem_of_mem_filter hr)
  ranked r hr := distinct.ranked r (List.mem_of_mem_filter hr)
  nodup := (List.filter_sublist.map _).nodup distinct.nodup

namespace Snapshot

variable {ignoreCase : Bool} {c : ChangeSet} {r s : Record} {records : List Record}

theorem eq_of_texts? (distinct : Record.AreDistinct ignoreCase records) (hr : r ∈ records)
    (hs : s ∈ records) (same : r.identity.texts? ignoreCase = s.identity.texts? ignoreCase) :
    r = s :=
  List.inj_on_of_nodup_map distinct.nodup hr hs same

theorem not_isObstructed (textual : ∀ r ∈ records, r.identity.IsTextual)
    (hc : c.identity.IsTextual) :
    isObstructed ⟨records, ignoreCase⟩ c = false := by
  obtain ⟨a, b, p, declared⟩ := hc
  have declared_path : c.path = .text p := congrArg Identity.path declared
  unfold isObstructed
  rw [Bool.and_eq_false_iff]
  right
  rw [List.any_eq_false]
  intro r hr
  obtain ⟨a', b', q, recorded⟩ := textual r (List.takeWhile_subset _ hr)
  have recorded_path : r.path = .text q := congrArg Identity.path recorded
  simp [declared_path, recorded_path, Value.text?]

theorem find?_filter (distinct : Record.AreDistinct ignoreCase records) (hc : c.identity.IsTextual)
    (keep : Record → Bool) :
    Snapshot.find? ⟨records.filter keep, ignoreCase⟩ c =
      (Snapshot.find? ⟨records, ignoreCase⟩ c).filter keep := by
  unfold Snapshot.find?
  dsimp only
  cases found : records.find? (matches? ignoreCase c) with
  | none =>
    rw [List.find?_eq_none] at found
    rw [Option.filter_none, List.find?_eq_none]
    exact fun r hr => found r (List.mem_of_mem_filter hr)
  | some r =>
    have own := List.find?_some found
    have known := List.mem_of_find?_eq_some found
    -- the record is the only one of the changeset, so without it there is none
    have only : ∀ s ∈ records, matches? ignoreCase c s = true → s = r := by
      intro s hs own_s
      apply eq_of_texts? distinct hs known
      rw [(matches?_iff hc s).mp own_s, (matches?_iff hc r).mp own]
    cases kept : keep r with
    | false =>
      rw [Option.filter_some, if_neg (by simp [kept]), List.find?_eq_none]
      intro s hs own_s
      rw [List.mem_filter] at hs
      rw [only s hs.1 own_s, kept] at hs
      cases hs.2
    | true =>
      rw [Option.filter_some, if_pos kept]
      apply find?_eq_some_of_unique (List.mem_filter.mpr ⟨known, kept⟩) own
      exact fun s hs => only s (List.mem_of_mem_filter hs)

end Snapshot

namespace Migration

variable {m : Migration} {w w' : World MemoryStore} {ignoreCase : Bool} {records : List Record}
  {changeSets : List ChangeSet}

theorem recorded_filter (distinct : Record.AreDistinct ignoreCase records)
    (textual : ∀ c ∈ changeSets, c.identity.IsTextual) (keep : Record → Bool) :
    recorded ⟨records.filter keep, ignoreCase⟩ changeSets =
      (recorded ⟨records, ignoreCase⟩ changeSets).filter fun t => keep t.2 := by
  unfold recorded
  rw [List.filter_filterMap]
  apply List.filterMap_congr
  intro c hc
  rw [Snapshot.find?_filter distinct (textual c hc)]
  cases Snapshot.find? ⟨records, ignoreCase⟩ c with
  | none => rfl
  | some r =>
    cases kept : keep r with
    | false => simp [Option.filter, kept]
    | true => simp [Option.filter, kept]

theorem nodup_recorded (distinct : ChangeSet.AreDistinct ignoreCase changeSets) :
    ((recorded ⟨records, ignoreCase⟩ changeSets).map Prod.snd).Nodup := by
  apply List.Nodup.of_map fun r => r.identity.texts? ignoreCase
  have same : ((recorded ⟨records, ignoreCase⟩ changeSets).map Prod.snd).map
      (fun r => r.identity.texts? ignoreCase) =
        ((recorded ⟨records, ignoreCase⟩ changeSets).map Prod.fst).map
          fun c => c.identity.texts? ignoreCase := by
    rw [List.map_map, List.map_map]
    apply List.map_congr_left
    rintro ⟨c, r⟩ recorded
    obtain ⟨hc, found⟩ := mem_recorded recorded
    exact (Snapshot.matches?_iff (distinct.textual c hc) r).mp (Snapshot.matches?_of_find? found)
  rw [same]
  exact ((recorded_sublist _ _).map _).nodup distinct.nodup

theorem remove_eq_filter {store : MemoryStore} {c : ChangeSet} {r : Record}
    (distinct : Record.AreDistinct ignoreCase records) (known : ∀ s ∈ store.records, s ∈ records)
    (hc : c.identity.IsTextual) (hr : r ∈ records) (own : Snapshot.matches? ignoreCase c r = true) :
    store.remove c r.path =
      { store with records := store.records.filter fun s => decide (s ≠ r) } := by
  unfold MemoryStore.remove
  rw [Snapshot.recordedAs_path hc own]
  congr 1
  apply List.filter_congr
  intro s hs
  rw [Bool.eq_iff_iff, Bool.not_eq_true', Bool.eq_false_iff, ne_eq,
    (distinct.textual r hr).same_iff, decide_eq_true_eq]
  apply not_congr
  constructor
  · intro same
    exact Snapshot.eq_of_texts? distinct (known s hs) hr (by rw [same])
  · rintro rfl
    rfl

theorem forget_eq_filter {store : MemoryStore} {targets : List (ChangeSet × Record)}
    (distinct : Record.AreDistinct ignoreCase records) (known : ∀ s ∈ store.records, s ∈ records)
    (own : ∀ t ∈ targets, t.1.identity.IsTextual ∧ t.2 ∈ records ∧
      Snapshot.matches? ignoreCase t.1 t.2 = true) :
    forget store targets =
      { store with
        records := store.records.filter fun r => decide (r ∉ targets.map Prod.snd) } := by
  induction targets generalizing store with
  | nil => simp [forget]
  | cons t rest ih =>
    obtain ⟨c, r⟩ := t
    obtain ⟨⟨hc, hr, own_r⟩, own_rest⟩ := List.forall_mem_cons.mp own
    have removed := remove_eq_filter distinct known hc hr own_r
    have forgotten : forget store ((c, r) :: rest) = forget (store.remove c r.path) rest := rfl
    rw [forgotten, removed, ih (fun s hs => known s (List.mem_of_mem_filter hs)) own_rest]
    congr 1
    rw [List.filter_filter]
    apply List.filter_congr
    intro s _
    simp only [List.map_cons, List.mem_cons, not_or, ne_eq, Bool.decide_and]
    exact Bool.and_comm _ _

theorem isRanked_of_recorded {store : MemoryStore}
    (distinct : Record.AreDistinct ignoreCase store.records) (changeSets : List ChangeSet) :
    ∀ t ∈ recorded (store.snapshot ignoreCase) changeSets, t.2.IsRanked :=
  fun t ht => distinct.ranked t.2 (List.mem_of_find?_eq_some (mem_recorded ht).2)

def committedBetween {σ : Type} (w w' : World σ) : List String :=
  ((w'.transactions.drop w.transactions.length).filter Transaction.committed).flatMap
    Transaction.statements

theorem committedBetween_append {w w' : World MemoryStore} {sent : List Transaction}
    (transactions : w'.transactions = w.transactions ++ sent) :
    committedBetween w w' = (sent.filter Transaction.committed).flatMap Transaction.statements := by
  unfold committedBetween
  rw [transactions, List.drop_left]

def sqlOf (plan : List (ChangeSet × Record × List String)) : List String :=
  plan.flatMap fun (_, _, sql) => sql

theorem committed_plan (plan : List (ChangeSet × Record × List String)) :
    ((plan.map fun p => (⟨true, p.2.2⟩ : Transaction)).filter Transaction.committed).flatMap
      Transaction.statements = sqlOf plan := by
  induction plan with
  | nil => rfl
  | cons p rest ih => exact congrArg (p.2.2 ++ ·) ih

/-- A rollback that failed at a target, and the rollbacks that follow on it. One that returns
commits, together with the failed one, the SQL of all targets, which is what one rollback commits if
it is not interrupted. -/
structure StoppedAt (m : Migration) (count : Nat) (w : World MemoryStore) (e : Failure)
    (w' : World MemoryStore) (done : List (ChangeSet × Record)) (failed : ChangeSet × Record)
    (rest : List (ChangeSet × Record)) : Prop where
  failure : ∃ sql u, m.renderRollback failed.1 = .ok sql ∧
    (m.execute failed.1 sql).run u = (.error e, w')
  removed : w'.store = { w.store with
    records := w.store.records.filter fun r => decide (r ∉ done.map Prod.snd) }
  committed : ∃ plan, m.plan done = .ok plan ∧ committedBetween w w' = sqlOf plan
  remaining : ∀ now v, v.store = w'.store →
    ({ m with now := now }.targets (count - done.length)).run v = (.ok (failed :: rest), v)
  together : ∃ plan, m.plan (done ++ failed :: rest) = .ok plan ∧
    (∀ now v report v', v.store = w'.store →
      ({ m with now := now }.rollback (count - done.length : Nat) false).run v = (.ok report, v') →
      committedBetween w w' ++ committedBetween v v' = sqlOf plan) ∧
    ∀ now u report u', u.store = w.store →
      ({ m with now := now }.rollback count false).run u = (.ok report, u') →
      committedBetween u u' = sqlOf plan

variable {count : Nat} {targets : List (ChangeSet × Record)}
  {plan : List (ChangeSet × Record × List String)} {e : Failure} {report : Report}

theorem committedBetween_of_undoAll (returned : (m.undoAll plan).run w = (.ok (), w')) :
    committedBetween w w' = sqlOf plan := by
  rw [committedBetween_append (undoAll_eq_ok returned).2, committed_plan]

theorem committedBetween_of_rollback (found : (m.targets count).run w = (.ok targets, w))
    (planned : m.plan targets = .ok plan)
    (returned : (m.rollback count false).run w = (.ok report, w')) :
    committedBetween w w' = sqlOf plan := by
  obtain ⟨_, planned', undone, -⟩ := (rollback_eq_ok_iff found).mp returned
  cases planned.symm.trans planned'
  exact committedBetween_of_undoAll undone

theorem transactions_of_execute_error {c : ChangeSet} {sql : List String}
    (failed : (m.execute c sql).run w = (.error e, w')) :
    w'.store = w.store ∧ ∃ sent, w'.transactions = w.transactions ++ sent ∧
      sent.filter Transaction.committed = [] := by
  have execution := run_execute m c sql w
  rw [failed] at execution
  dsimp only at execution
  cases execution with
  | unsent _ store transactions => exact ⟨store, [], by simpa using transactions, rfl⟩
  | failed _ sent store transactions =>
    obtain ⟨_, rfl, -⟩ := Engine.transact_eq_some sent
    exact ⟨store, _, transactions, rfl⟩

theorem filter_not_mem_of_nodup {done more : List (ChangeSet × Record)}
    (nodup : ((done ++ more).map Prod.snd).Nodup) :
    (done ++ more).filter (fun t => decide (t.2 ∉ done.map Prod.snd)) = more := by
  rw [List.map_append, List.nodup_append] at nodup
  have none_done : done.filter (fun t => decide (t.2 ∉ done.map Prod.snd)) = [] := by
    rw [List.filter_eq_nil_iff]
    intro t ht
    simpa using ⟨t.1, ht⟩
  have all_more : more.filter (fun t => decide (t.2 ∉ done.map Prod.snd)) = more := by
    rw [List.filter_eq_self]
    intro t ht
    rw [decide_eq_true_eq]
    intro also
    exact nodup.2.2 t.2 also t.2 (List.mem_map_of_mem ht) rfl
  rw [List.filter_append, none_done, all_more, List.nil_append]

theorem mem_targets {t : ChangeSet × Record} (found : (m.targets count).run w = (.ok targets, w))
    (ht : t ∈ targets) :
    t.1 ∈ m.changeLog.changeSets ∧ (w.store.snapshot m.ignoreCase).find? t.1 = some t.2 := by
  rw [(run_targets m count w).2 targets (congrArg Prod.fst found)] at ht
  exact mem_newestFirst_take ht

theorem undoAll_of_rollback_error (found : (m.targets count).run w = (.ok targets, w))
    (planned : m.plan targets = .ok plan)
    (stopped : (m.rollback count false).run w = (.error e, w')) :
    (m.undoAll plan).run w = (.error e, w') := by
  rw [run_rollback_of_plan found planned] at stopped
  rcases undone : (m.undoAll plan).run w with ⟨e' | _, w₁⟩
  · rw [undone] at stopped
    cases stopped
    rfl
  · rw [undone] at stopped
    cases stopped

theorem renders_of_plan (planned : m.plan targets = .ok plan) :
    ∀ t ∈ targets, ∃ sql, m.renderRollback t.1 = .ok sql := by
  obtain ⟨rfl, rendered⟩ := plan_eq_ok_iff.mp planned
  intro t ht
  obtain ⟨p, hp, rfl⟩ := List.mem_map.mp ht
  exact ⟨p.2.2, rendered p hp⟩

section Distinct

variable (distinct : ChangeSet.AreDistinct m.ignoreCase m.changeLog.changeSets)
  (recorded_distinct : Record.AreDistinct m.ignoreCase w.store.records)

include distinct recorded_distinct

theorem run_targets_of_distinct (count : Nat) :
    (m.targets count).run w =
      (.ok ((newestFirst (recorded (w.store.snapshot m.ignoreCase) m.changeLog.changeSets)).take
        count),
        w) := by
  have free : ¬ m.changeLog.changeSets.any (w.store.snapshot m.ignoreCase).isObstructed = true := by
    rw [List.any_eq_true]
    rintro ⟨c, hc, obstructed⟩
    have free_c : (w.store.snapshot m.ignoreCase).isObstructed c = false :=
      Snapshot.not_isObstructed recorded_distinct.textual (distinct.textual c hc)
    rw [free_c] at obstructed
    cases obstructed
  exact run_targets_of_isRanked free (isRanked_of_recorded recorded_distinct m.changeLog.changeSets)
    count

theorem newestFirst_of_removed {v : World MemoryStore} {done later : List (ChangeSet × Record)}
    (sorted : newestFirst (recorded (w.store.snapshot m.ignoreCase) m.changeLog.changeSets) =
      done ++ later)
    (removed : v.store.records = w.store.records.filter fun r => decide (r ∉ done.map Prod.snd)) :
    newestFirst (recorded (v.store.snapshot m.ignoreCase) m.changeLog.changeSets) = later := by
  have left : recorded (v.store.snapshot m.ignoreCase) m.changeLog.changeSets =
      (recorded (w.store.snapshot m.ignoreCase) m.changeLog.changeSets).filter
        fun t => decide (t.2 ∉ done.map Prod.snd) := by
    unfold MemoryStore.snapshot
    rw [removed, recorded_filter recorded_distinct distinct.textual]
  have nodup : ((newestFirst (recorded (w.store.snapshot m.ignoreCase)
      m.changeLog.changeSets)).map Prod.snd).Nodup :=
    ((List.mergeSort_perm _ _).map _).nodup_iff.mpr (nodup_recorded distinct)
  rw [sorted] at nodup
  rw [left, newestFirst_filter (isRanked_of_recorded recorded_distinct m.changeLog.changeSets),
    sorted, filter_not_mem_of_nodup nodup]

theorem run_targets_of_removed {v : World MemoryStore} {done later : List (ChangeSet × Record)}
    (found : (m.targets count).run w = (.ok (done ++ later), w))
    (removed : v.store.records = w.store.records.filter fun r => decide (r ∉ done.map Prod.snd)) :
    (m.targets (count - done.length)).run v = (.ok later, v) := by
  rw [run_targets_of_distinct distinct recorded_distinct count] at found
  have taken : (newestFirst (recorded (w.store.snapshot m.ignoreCase) m.changeLog.changeSets)).take
    count =
      done ++ later := by
    simpa using found
  have enough : done.length ≤ count := by
    have all_taken := congrArg List.length taken
    rw [List.length_take, List.length_append] at all_taken
    omega
  obtain ⟨more, sorted⟩ : done <+: newestFirst (recorded (w.store.snapshot m.ignoreCase)
      m.changeLog.changeSets) := by
    have front := List.prefix_append done later
    rw [← taken] at front
    exact front.trans (List.take_prefix count _)
  rw [← sorted, List.take_append, List.take_of_length_le enough, List.append_cancel_left_eq]
    at taken
  rw [run_targets_of_distinct distinct (by rw [removed]; exact recorded_distinct.filter _),
    newestFirst_of_removed distinct recorded_distinct sorted.symm removed, taken]

theorem removed_of_undoAll {done : List (ChangeSet × Record × List String)}
    {later : List (ChangeSet × Record)}
    (found : (m.targets count).run w = (.ok ((done.map fun p => (p.1, p.2.1)) ++ later), w))
    (undone : (m.undoAll done).run w = (.ok (), w')) :
    w'.store = { w.store with
      records := w.store.records.filter
        fun r => decide (r ∉ (done.map fun p => (p.1, p.2.1)).map Prod.snd) } := by
  rw [(undoAll_eq_ok undone).1]
  apply forget_eq_filter recorded_distinct (fun r hr => hr)
  intro t ht
  obtain ⟨known, governed⟩ := mem_targets found (List.mem_append_left later ht)
  exact ⟨distinct.textual t.1 known, List.mem_of_find?_eq_some governed,
    Snapshot.matches?_of_find? governed⟩

theorem stoppedAt_of_plan (found : (m.targets count).run w = (.ok targets, w))
    (planned : m.plan targets = .ok plan)
    (stopped : (m.rollback count false).run w = (.error e, w')) :
    ∃ done failed rest, targets = done ++ failed :: rest ∧
      m.StoppedAt count w e w' done failed rest := by
  obtain ⟨done, p, rest, u, rfl, undone, failed⟩ :=
    undoAll_eq_error (undoAll_of_rollback_error found planned stopped)
  have executed := execute_of_undoOne_error failed
  obtain ⟨store_failed, sent, sent_failed, uncommitted⟩ := transactions_of_execute_error executed
  -- both parts of the plan are plans
  obtain ⟨rfl, rendered⟩ := plan_eq_ok_iff.mp planned
  obtain ⟨rendered_done, rendered_later⟩ := List.forall_mem_append.mp rendered
  have planned_later : m.plan ((p :: rest).map fun p => (p.1, p.2.1)) = .ok (p :: rest) :=
    plan_eq_ok_iff.mpr ⟨rfl, rendered_later⟩
  rw [List.map_append] at found planned ⊢
  have removed := removed_of_undoAll distinct recorded_distinct found undone
  rw [← store_failed] at removed
  have committed : committedBetween w w' = sqlOf done := by
    rw [(undoAll_eq_ok undone).2, List.append_assoc] at sent_failed
    rw [committedBetween_append sent_failed, List.filter_append, uncommitted, List.append_nil,
      committed_plan]
  have remaining : ∀ v : World MemoryStore, v.store = w'.store →
      (m.targets (count - (done.map fun p => (p.1, p.2.1)).length)).run v =
        (.ok ((p :: rest).map fun p => (p.1, p.2.1)), v) := by
    intro v same
    apply run_targets_of_removed distinct recorded_distinct found
    rw [same, removed]
  refine ⟨done.map fun p => (p.1, p.2.1), (p.1, p.2.1), rest.map fun p => (p.1, p.2.1), rfl, ?_⟩
  constructor
  case failure => exact ⟨p.2.2, u, rendered_later p List.mem_cons_self, executed⟩
  case removed => exact removed
  case committed => exact ⟨done, plan_eq_ok_iff.mpr ⟨rfl, rendered_done⟩, committed⟩
  case remaining => exact fun now v same => remaining v same
  case together =>
    refine ⟨done ++ p :: rest, planned, fun now v report v' same returned => ?_,
      fun now u report u' same returned => ?_⟩
    · have resumed : committedBetween v v' = sqlOf (p :: rest) :=
        committedBetween_of_rollback (m := { m with now := now }) (remaining v same)
          (by rw [plan_with_now]; exact planned_later) returned
      rw [committed, resumed, sqlOf, sqlOf, sqlOf, List.flatMap_append]
    · exact committedBetween_of_rollback (m := { m with now := now })
        (run_targets_of_store_eq found same)
        (by rw [plan_with_now]; exact planned) returned

end Distinct

/-- A rollback raises with nothing executed if the SQL of a target cannot be rendered. Otherwise, if
it raises, then at one of its targets: those in front of it were undone, and the rollbacks that
follow do the others, so that together they commit what one rollback would have committed. -/
theorem stoppedAt_of_rollback (m : Migration) (count : Nat) (w : World MemoryStore)
    (distinct : ChangeSet.AreDistinct m.ignoreCase m.changeLog.changeSets)
    (recorded_distinct : Record.AreDistinct m.ignoreCase w.store.records) :
    ∃ targets, (m.targets count).run w = (.ok targets, w) ∧
      targets.Pairwise (fun t u => u.2.rank ≤ t.2.rank) ∧
      ((∃ t ∈ targets, ∃ e, m.renderRollback t.1 = .error e) →
        ∃ t ∈ targets, ∃ e, m.renderRollback t.1 = .error e ∧
          (m.rollback count false).run w = (.error e, w)) ∧
      ((∀ t ∈ targets, ∃ sql, m.renderRollback t.1 = .ok sql) →
        ∀ e w', (m.rollback count false).run w = (.error e, w') →
          ∃ done failed rest, targets = done ++ failed :: rest ∧
            m.StoppedAt count w e w' done failed rest) := by
  have found := run_targets_of_distinct distinct recorded_distinct count
  have sorted := (newestFirst_pairwise (isRanked_of_recorded recorded_distinct
    m.changeLog.changeSets)).sublist (List.take_sublist count _)
  refine ⟨_, found, sorted, ?_, ?_⟩
  · rintro ⟨t, ht, e, failed⟩
    cases planned : m.plan ((newestFirst (recorded (w.store.snapshot m.ignoreCase)
        m.changeLog.changeSets)).take count) with
    | error e' =>
      obtain ⟨u, hu, failed_u⟩ := plan_eq_error planned
      refine ⟨u, hu, e', failed_u, ?_⟩
      rw [run_rollback, run_planned_of_targets found, planned]
    | ok plan =>
      obtain ⟨sql, rendered⟩ := renders_of_plan planned t ht
      rw [rendered] at failed
      cases failed
  · intro renders e w' stopped
    cases planned : m.plan ((newestFirst (recorded (w.store.snapshot m.ignoreCase)
        m.changeLog.changeSets)).take count) with
    | error e' =>
      obtain ⟨t, ht, failed⟩ := plan_eq_error planned
      obtain ⟨sql, rendered⟩ := renders t ht
      rw [rendered] at failed
      cases failed
    | ok plan => exact stoppedAt_of_plan distinct recorded_distinct found planned stopped

def recordOf (id : String) (order : Value) : Record where
  id := .text id
  author := .text "alice"
  path := .text "db/changelog.py"
  checksum := .null
  order := order

def accountsRan : World MemoryStore where
  store := { records := [recordOf "1" (.int 1), recordOf "2" .null, recordOf "3" .null] }

def accountsTargets : List (ChangeSet × Record) :=
  [(tableSet "1" "customers", recordOf "1" (.int 1)), (tableSet "2" "accounts", recordOf "2" .null),
    (tableSet "3" "orders", recordOf "3" .null)]

def accountsPlan : List (ChangeSet × Record × List String) :=
  [(tableSet "1" "customers", recordOf "1" (.int 1), ["DROP TABLE customers"]),
    (tableSet "2" "accounts", recordOf "2" .null, ["DROP TABLE accounts"]),
    (tableSet "3" "orders", recordOf "3" .null, ["DROP TABLE orders"])]

theorem accountsRun_areDistinct : ChangeSet.AreDistinct false accountsRun.changeLog.changeSets where
  textual := by simp [accountsRun, tableSet, ChangeSet.identity, Identity.IsTextual]
  nodup := by decide +kernel

theorem accountsRan_areDistinct : Record.AreDistinct false accountsRan.store.records where
  textual := by simp [accountsRan, recordOf, Record.identity, Identity.IsTextual]
  ranked := by simp [accountsRan, recordOf, Record.IsRanked]
  nodup := by decide +kernel

theorem accountsRun_plan : accountsRun.plan accountsTargets = .ok accountsPlan := rfl

theorem accountsRun_targets :
    (accountsRun.targets 3).run accountsRan = (.ok accountsTargets, accountsRan) := by
  have recorded_eq : recorded (accountsRan.store.snapshot accountsRun.ignoreCase)
      accountsRun.changeLog.changeSets = accountsTargets := by
    rfl
  have sorted : newestFirst accountsTargets = accountsTargets := by
    unfold newestFirst
    apply List.mergeSort_of_pairwise
    decide +kernel
  rw [run_targets_of_distinct accountsRun_areDistinct accountsRan_areDistinct 3,
    recorded_eq, sorted]
  rfl

theorem stoppedAt_of_rollback_accounts :
    ChangeSet.AreDistinct false accountsRun.changeLog.changeSets ∧
      Record.AreDistinct false accountsRan.store.records ∧
      ∃ e w', (accountsRun.rollback (3 : Nat) false).run accountsRan = (.error e, w') ∧
        ∃ done failed rest, accountsTargets = done ++ failed :: rest ∧
          accountsRun.StoppedAt 3 accountsRan e w' done failed rest := by
  have fails : ((accountsRun.undoAll accountsPlan).run accountsRan).1.toBool = false := by
    decide +kernel
  refine ⟨accountsRun_areDistinct, accountsRan_areDistinct, ?_⟩
  obtain ⟨targets, found, -, -, stopped⟩ :=
    stoppedAt_of_rollback accountsRun 3 accountsRan accountsRun_areDistinct accountsRan_areDistinct
  rw [accountsRun_targets] at found
  cases found
  rcases undone : (accountsRun.undoAll accountsPlan).run accountsRan with ⟨e | _, w'⟩
  · have failed : (accountsRun.rollback (3 : Nat) false).run accountsRan = (.error e, w') := by
      rw [run_rollback_of_plan accountsRun_targets accountsRun_plan, undone]
      rfl
    exact ⟨e, w', failed, stopped (renders_of_plan accountsRun_plan) e w' failed⟩
  · rw [undone] at fails
    cases fails

end Migration

end SchemaMigration
