import SchemaMigration.Proofs.Run.Renewal
import SchemaMigration.Proofs.Run.Resumption

/-! An update and a rollback of what it applied. The records that the update added are above all
others, so the rollback finds them first, the last one foremost, and forgets them and no others;
what stays of the update are the checksums that it wrote back. -/

namespace SchemaMigration

namespace Migration

variable {m : Migration} {s : Snapshot} {c : ChangeSet} {changeSets : List ChangeSet}

def newRuns (m : Migration) (s : Snapshot) (changeSets : List ChangeSet) :
    List (ChangeSet × Record) :=
  m.runsFrom (Record.highest s.records) (s.unseen changeSets)

def leftBy (m : Migration) (s : Snapshot) (changeSets : List ChangeSet) : Snapshot where
  records := m.recordsLeft s changeSets s.records
  ignoreCase := s.ignoreCase

theorem find?_leftBy (m : Migration) (s : Snapshot) (changeSets : List ChangeSet) (c : ChangeSet) :
    (m.leftBy s changeSets).find? c = ((s.renewed changeSets).find? c).or
      (((m.newRuns s changeSets).map Prod.snd).find? (Snapshot.matches? s.ignoreCase c)) :=
  List.find?_append

theorem map_fst_newRuns (m : Migration) (s : Snapshot) (changeSets : List ChangeSet) :
    (m.newRuns s changeSets).map Prod.fst = s.unseen changeSets :=
  map_fst_runsFrom m (Record.highest s.records) (s.unseen changeSets)

theorem unseen_of_newRuns {t : ChangeSet × Record} (ht : t ∈ m.newRuns s changeSets) :
    t.1 ∈ changeSets ∧ s.find? t.1 = none := by
  have known : t.1 ∈ s.unseen changeSets := by
    rw [← map_fst_newRuns m s changeSets]
    exact List.mem_map_of_mem ht
  obtain ⟨hc, missing⟩ := List.mem_filter.mp known
  exact ⟨hc, Option.isNone_iff_eq_none.mp missing⟩

section Found

variable (distinct : ChangeSet.AreDistinct s.ignoreCase changeSets)
  {t : ChangeSet × Record} {r : Record}

include distinct

theorem find?_newRuns (ht : t ∈ m.newRuns s changeSets) :
    ((m.newRuns s changeSets).map Prod.snd).find? (Snapshot.matches? s.ignoreCase t.1) =
      some t.2 := by
  have hc := (unseen_of_newRuns ht).1
  apply find?_eq_some_of_unique (List.mem_map_of_mem ht)
    (Snapshot.matches?_of_identity (distinct.textual t.1 hc) (identity_of_runsFrom ht))
  intro r hr own
  obtain ⟨u, hu, rfl⟩ := List.mem_map.mp hr
  have hd := (unseen_of_newRuns hu).1
  have texts := (Snapshot.matches?_iff (distinct.textual t.1 hc) u.2).mp own
  rw [identity_of_runsFrom hu] at texts
  have same : u.1 = t.1 := by
    by_contra ne
    exact distinct.texts?_ne hd hc ne texts
  have once : ((m.newRuns s changeSets).map Prod.fst).Nodup := by
    rw [map_fst_newRuns]
    exact (List.Nodup.of_map _ distinct.nodup).filter _
  exact congrArg Prod.snd (List.inj_on_of_nodup_map once hu ht same)

theorem find?_leftBy_of_some (hc : c ∈ changeSets) (found : s.find? c = some r) :
    (m.leftBy s changeSets).find? c = some { r with checksum := .text c.checksum } := by
  have governed := Snapshot.find?_renewed_of_mem distinct hc
  rw [found, Option.map_some] at governed
  rw [find?_leftBy, governed, Option.some_or]

theorem find?_leftBy_of_newRuns (ht : t ∈ m.newRuns s changeSets) :
    (m.leftBy s changeSets).find? t.1 = some t.2 := by
  have none_governs := Snapshot.find?_renewed s changeSets t.1
  rw [(unseen_of_newRuns ht).2, Option.map_none] at none_governs
  rw [find?_leftBy, none_governs, Option.none_or, find?_newRuns distinct ht]

end Found

theorem recorded_filter_fst (keep : ChangeSet → Bool) :
    (recorded s changeSets).filter (fun t => keep t.1) = recorded s (changeSets.filter keep) := by
  unfold recorded
  rw [List.filter_filterMap, List.filterMap_filter]
  apply List.filterMap_congr
  intro c _
  cases s.find? c with
  | none => simp
  | some r =>
    cases kept : keep c with
    | false => simp [Option.filter, kept]
    | true => simp [Option.filter, kept]

theorem recorded_unseen (distinct : ChangeSet.AreDistinct s.ignoreCase changeSets) :
    recorded (m.leftBy s changeSets) (s.unseen changeSets) = m.newRuns s changeSets := by
  have each : ∀ t ∈ m.newRuns s changeSets,
      ((m.leftBy s changeSets).find? t.1).map (fun r => (t.1, r)) = some t := by
    intro t ht
    rw [find?_leftBy_of_newRuns distinct ht]
    rfl
  conv_lhs => rw [← map_fst_newRuns m s changeSets]
  unfold recorded
  rw [List.filterMap_map]
  exact (List.filterMap_congr each).trans List.filterMap_some

theorem areCounted_leftBy (counted : Record.AreCounted s.records) :
    Record.AreCounted (m.leftBy s changeSets).records :=
  areCounted_recordsLeft counted

theorem isRanked_of_recorded_leftBy (counted : Record.AreCounted s.records) {t : ChangeSet × Record}
    (ht : t ∈ recorded (m.leftBy s changeSets) changeSets) : t.2.IsRanked :=
  (areCounted_leftBy counted).ranked t.2 (List.mem_of_find?_eq_some (mem_recorded ht).2)

theorem take_newestFirst_leftBy (distinct : ChangeSet.AreDistinct s.ignoreCase changeSets)
    (counted : Record.AreCounted s.records) :
    (newestFirst (recorded (m.leftBy s changeSets) changeSets)).take (s.unseen changeSets).length =
      (m.newRuns s changeSets).reverse := by
  have new_eq : (recorded (m.leftBy s changeSets) changeSets).filter
      (fun t => (s.find? t.1).isNone) = m.newRuns s changeSets := by
    rw [recorded_filter_fst fun c => (s.find? c).isNone]
    exact recorded_unseen distinct
  have ranked : ∀ t ∈ recorded (m.leftBy s changeSets) changeSets, t.2.IsRanked :=
    fun t ht => isRanked_of_recorded_leftBy counted ht
  have above : ∀ t ∈ recorded (m.leftBy s changeSets) changeSets,
      ∀ u ∈ recorded (m.leftBy s changeSets) changeSets,
      (s.find? t.1).isNone = true → (s.find? u.1).isNone = false → u.2.rank < t.2.rank := by
    intro t ht u hu new old
    have run : t ∈ m.newRuns s changeSets := by
      rw [← new_eq]
      exact List.mem_filter.mpr ⟨ht, new⟩
    obtain ⟨hc, found_after⟩ := mem_recorded hu
    obtain ⟨r, found⟩ := Option.isSome_iff_exists.mp (by simpa using old)
    rw [find?_leftBy_of_some distinct hc found] at found_after
    have same_rank : u.2.rank = r.rank := by
      rw [← Option.some.inj found_after]
      rfl
    rw [same_rank]
    have not_above := Record.rank_le_highest (List.mem_of_find?_eq_some found)
    exact Int.lt_of_le_of_lt not_above (order_of_runsFrom run).2
  have upwards : (m.newRuns s changeSets).Pairwise fun t u => t.2.rank < u.2.rank :=
    pairwise_runsFrom _ _ _
  rw [← new_eq] at upwards
  have length_eq : (s.unseen changeSets).length = (m.newRuns s changeSets).reverse.length := by
    rw [← map_fst_newRuns m s changeSets, List.length_map, List.length_reverse]
  rw [newestFirst_eq_append ranked above upwards, new_eq, length_eq, List.take_left]

theorem forget_records (store : MemoryStore) (targets : List (ChangeSet × Record)) :
    (forget store targets).records = store.records.filter fun r =>
      targets.all fun t => !r.identity.same (t.1.recordedAs t.2.path) := by
  induction targets generalizing store with
  | nil => simp [forget]
  | cons t rest ih =>
    have forgotten : forget store (t :: rest) = forget (store.remove t.1 t.2.path) rest := rfl
    rw [forgotten, ih]
    unfold MemoryStore.remove
    rw [List.filter_filter]
    apply List.filter_congr
    intro r _
    rw [List.all_cons, Bool.and_comm]

theorem recordedAs_of_runsFrom {order : Int} {t : ChangeSet × Record}
    (ht : t ∈ m.runsFrom order changeSets) :
    t.1.recordedAs t.2.path = t.1.identity := by
  have path_eq : t.2.path = t.1.path := congrArg Identity.path (identity_of_runsFrom ht)
  rw [path_eq]
  unfold ChangeSet.recordedAs
  split
  · rfl
  · rfl

theorem forget_newRuns {store : MemoryStore}
    (distinct : ChangeSet.AreDistinct s.ignoreCase changeSets)
    (records_eq : store.records = (m.leftBy s changeSets).records) :
    (forget store (m.newRuns s changeSets).reverse).records = (s.renewed changeSets).records := by
  have textual : ∀ t ∈ m.newRuns s changeSets, t.1.identity.IsTextual :=
    fun t ht => distinct.textual t.1 (unseen_of_newRuns ht).1
  have old_kept : ∀ r ∈ (s.renewed changeSets).records,
      ((m.newRuns s changeSets).reverse.all fun t => !r.identity.same (t.1.recordedAs t.2.path)) =
          true := by
    intro r hr
    obtain ⟨old, old_mem, rfl⟩ := List.mem_map.mp hr
    rw [List.all_reverse, List.all_eq_true]
    intro t ht
    rw [recordedAs_of_runsFrom ht, Snapshot.identity_refreshed, Bool.not_eq_true',
      Bool.eq_false_iff]
    intro same
    -- a record of the changeset would have been found
    have missing := (unseen_of_newRuns ht).2
    unfold Snapshot.find? at missing
    rw [List.find?_eq_none] at missing
    apply missing old old_mem
    exact Snapshot.matches?_of_identity (textual t ht) ((textual t ht).same_iff.mp same)
  have new_dropped : ∀ r ∈ (m.newRuns s changeSets).map Prod.snd,
      ¬ ((m.newRuns s changeSets).reverse.all fun t => !r.identity.same (t.1.recordedAs t.2.path)) =
          true := by
    intro r hr all_apart
    obtain ⟨t, ht, rfl⟩ := List.mem_map.mp hr
    have apart := List.all_eq_true.mp all_apart t (List.mem_reverse.mpr ht)
    rw [recordedAs_of_runsFrom ht, identity_of_runsFrom ht, (textual t ht).same_iff.mpr rfl]
      at apart
    cases apart
  have left : store.records = (s.renewed changeSets).records ++
      (m.newRuns s changeSets).map Prod.snd :=
    records_eq
  rw [forget_records, left, List.filter_append, List.filter_eq_self.mpr old_kept,
    List.filter_eq_nil_iff.mpr new_dropped, List.append_nil]

section Runs

variable {w w' w'' : World MemoryStore} {report report' : Report}

theorem isSteady_of_unguarded (unguarded : ∀ c ∈ m.changeLog.changeSets, c.guard = none) :
    m.IsSteady w := by
  intro v hv
  rw [unguarded v.changeSet (changeSet_mem_of_visits m hv), passage_none, passage_none]

theorem exists_status_of_update (open_log : m.changeLog.guard = none)
    (unguarded : ∀ c ∈ m.changeLog.changeSets, c.guard = none)
    (updated : (m.update false).run w = (.ok report, w')) :
    ∃ due, (m.status.run w).1 = .ok due ∧ report.applied = due.map ChangeSet.key := by
  obtain ⟨⟨rehearsed, foreseen, foretells⟩, -⟩ :=
    foretells_of_update (isSteady_of_unguarded unguarded) updated
  rw [foretells.applied]
  exact applied_of_foreseenReport open_log unguarded foreseen

theorem snapshot_of_update (open_log : m.changeLog.guard = none)
    (unguarded : ∀ c ∈ m.changeLog.changeSets, c.guard = none)
    (distinct : ChangeSet.AreDistinct m.ignoreCase m.changeLog.changeSets)
    (unseen_only : (w.store.snapshot m.ignoreCase).RunsUnseenOnly m.changeLog.changeSets)
    (counted : Record.AreCounted w.store.records)
    (updated : (m.update false).run w = (.ok report, w')) :
    w'.store.snapshot m.ignoreCase = m.leftBy (w.store.snapshot m.ignoreCase)
      m.changeLog.changeSets := by
  obtain ⟨log, ended, alike⟩ := run_update_of_open m w open_log
  rw [updated] at ended alike
  rcases row : (m.updateAll false (m.startingSelection w) m.changeLog.changeSets).run
    { w with log := log } with ⟨e | steps, w₁⟩
  · rw [row] at ended
    cases ended
  · rw [row] at alike
    have current : ∀ c ∈ m.changeLog.changeSets, (m.startingSelection w).IsCurrent w.store c :=
      fun c _ => Selection.isCurrent_ofStore _ _ c
    have left := records_of_updateAll (s := m.startingSelection w) (w := { w with log := log })
      distinct current unguarded unseen_only counted row
    rw [alike.store]
    exact congrArg (fun records => Snapshot.mk records m.ignoreCase) left

theorem snapshot_of_rollback {now : Timestamp}
    (distinct : ChangeSet.AreDistinct s.ignoreCase m.changeLog.changeSets)
    (counted : Record.AreCounted s.records)
    (left : w'.store.snapshot m.ignoreCase = m.leftBy s m.changeLog.changeSets)
    (returned : ({ m with now := now }.rollback (s.unseen m.changeLog.changeSets).length false).run
      w' =
      (.ok report', w'')) :
    report'.rolledBack = ((s.unseen m.changeLog.changeSets).map ChangeSet.key).reverse ∧
      w''.store.snapshot m.ignoreCase = s.renewed m.changeLog.changeSets := by
  obtain ⟨unchanged, found⟩ :=
    run_planned { m with now := now } (s.unseen m.changeLog.changeSets).length w'
  rw [run_rollback] at returned
  generalize ({ m with now := now }.planned (s.unseen m.changeLog.changeSets).length).run w' =
    planned
    at unchanged found returned
  obtain ⟨e | plan, w₁⟩ := planned
  · cases returned
  · cases unchanged
    have targets_eq := plan_targets (found plan rfl)
    dsimp only at targets_eq
    rw [left, Int.toNat_natCast, take_newestFirst_leftBy distinct counted] at targets_eq
    dsimp only at returned
    rcases undone : ({ m with now := now }.undoAll plan).run w₁ with ⟨e | _, w₂⟩
    · rw [undone] at returned
      cases returned
    · rw [undone] at returned
      cases returned
      constructor
      · have keys_eq := congrArg (List.map fun t : ChangeSet × Record => t.1.key) targets_eq
        rw [List.map_map, List.map_reverse] at keys_eq
        calc plan.map (fun p => p.1.key)
            = ((m.newRuns s m.changeLog.changeSets).map fun t => t.1.key).reverse := keys_eq
          _ = ((s.unseen m.changeLog.changeSets).map ChangeSet.key).reverse := by
              rw [← map_fst_newRuns m s m.changeLog.changeSets, List.map_map]
              rfl
      · obtain ⟨records_eq, policy_eq⟩ := Snapshot.mk.inj left
        have forgotten := forget_newRuns distinct records_eq
        rw [← targets_eq, ← (undoAll_eq_ok undone).1] at forgotten
        unfold MemoryStore.snapshot
        rw [forgotten, policy_eq]
        rfl

theorem run_status_of_renewed (distinct : ChangeSet.AreDistinct m.ignoreCase m.changeLog.changeSets)
    (unseen_only : (w.store.snapshot m.ignoreCase).RunsUnseenOnly m.changeLog.changeSets)
    (renewed : w'.store.snapshot m.ignoreCase =
      (w.store.snapshot m.ignoreCase).renewed m.changeLog.changeSets) :
    (m.status.run w').1 = (m.status.run w).1 := by
  have obstructed_eq : m.changeLog.changeSets.any (w'.store.snapshot m.ignoreCase).isObstructed =
      m.changeLog.changeSets.any (w.store.snapshot m.ignoreCase).isObstructed := by
    apply List.any_congr rfl
    intro c
    rw [renewed]
    exact Snapshot.isObstructed_renewed _ _ c
  have due_eq : m.changeLog.changeSets.filter (w'.store.snapshot m.ignoreCase).mustRun =
      m.changeLog.changeSets.filter (w.store.snapshot m.ignoreCase).mustRun := by
    rw [renewed]
    exact List.filter_congr fun c hc => Snapshot.mustRun_renewed distinct unseen_only hc
  rw [run_status, run_status, obstructed_eq, due_eq]

/-- What an update and the rollback of what it applied leave: the records that there were, with the
checksums that had drifted renewed, and the same changesets to be run. -/
structure IsRestored (m : Migration) (w w' : World MemoryStore)
    (applied rolledBack : List String) : Prop where
  reversed : rolledBack = applied.reverse
  records : w'.store.records =
    w.store.records.map ((w.store.snapshot m.ignoreCase).refreshed m.changeLog.changeSets)
  governing : ∀ c ∈ m.changeLog.changeSets, (w'.store.snapshot m.ignoreCase).find? c =
    ((w.store.snapshot m.ignoreCase).find? c).map fun r => { r with checksum := .text c.checksum }
  due : ∃ due, (m.status.run w).1 = .ok due ∧ (m.status.run w').1 = .ok due ∧
    due.map ChangeSet.key = applied

/-- Where nothing that is recorded has to run again, a rollback of all that an update has applied
restores the history. -/
theorem isRestored_of_rollback {now : Timestamp} (open_log : m.changeLog.guard = none)
    (unguarded : ∀ c ∈ m.changeLog.changeSets, c.guard = none)
    (distinct : ChangeSet.AreDistinct m.ignoreCase m.changeLog.changeSets)
    (unseen_only : (w.store.snapshot m.ignoreCase).RunsUnseenOnly m.changeLog.changeSets)
    (counted : Record.AreCounted w.store.records)
    (updated : (m.update false).run w = (.ok report, w'))
    (rolledBack : ({ m with now := now }.rollback report.applied.length false).run w' =
      (.ok report', w'')) :
    m.IsRestored w w'' report.applied report'.rolledBack := by
  obtain ⟨due, listed, applied⟩ := exists_status_of_update open_log unguarded updated
  have due_eq : due = (w.store.snapshot m.ignoreCase).unseen m.changeLog.changeSets := by
    rw [run_status] at listed
    dsimp only at listed
    split at listed
    · cases listed
    · rw [← Except.ok.inj listed]
      exact List.filter_congr fun c hc => unseen_only.mustRun_eq hc
  have left := snapshot_of_update open_log unguarded distinct unseen_only counted updated
  rw [applied, due_eq, List.length_map] at rolledBack
  obtain ⟨keys, renewed⟩ := snapshot_of_rollback distinct counted left rolledBack
  refine ⟨?_, congrArg Snapshot.records renewed, ?_, due, listed, ?_, applied.symm⟩
  · rw [keys, applied, due_eq]
  · intro c hc
    rw [renewed]
    exact Snapshot.find?_renewed_of_mem distinct hc
  · rw [run_status_of_renewed distinct unseen_only renewed]
    exact listed

end Runs

def shopRun : Migration :=
  { accountsRun with
    database := { accountsRun.database with engine := some ({} : EngineScript).engine } }

/-- The world after a run of the first one, with nothing known of its content, and a run of
something else. -/
def shopRan : World MemoryStore where
  store := { records := [recordOf "1" .null, recordOf "9" (.int 5)] }

def shopPlan : List (ChangeSet × Record × List String) :=
  [(tableSet "3" "orders",
      Record.ofRun (tableSet "3" "orders") (.text "db/changelog.py") shopRun.now (.int 7),
      ["DROP TABLE orders"]),
    (tableSet "2" "accounts",
      Record.ofRun (tableSet "2" "accounts") (.text "db/changelog.py") shopRun.now (.int 6),
      ["DROP TABLE accounts"])]

theorem shopRun_areDistinct : ChangeSet.AreDistinct false shopRun.changeLog.changeSets :=
  accountsRun_areDistinct

theorem shopRan_areCounted : Record.AreCounted shopRan.store.records where
  ranked := by simp [shopRan, recordOf, Record.IsRanked]
  nonneg := by decide +kernel

theorem shopRan_runsUnseenOnly :
    (shopRan.store.snapshot false).RunsUnseenOnly shopRun.changeLog.changeSets := by
  unfold Snapshot.RunsUnseenOnly
  decide +kernel

theorem shopRun_rollback {w : World MemoryStore}
    (left : w.store.snapshot false = shopRun.leftBy (shopRan.store.snapshot false)
      shopRun.changeLog.changeSets) :
    (shopRun.rollback (2 : Nat) false).run w =
      (((shopRun.undoAll shopPlan).run w).1.map fun _ => shopRun.reportOfPlan false shopPlan,
        ((shopRun.undoAll shopPlan).run w).2) := by
  have free : ¬ shopRun.changeLog.changeSets.any (w.store.snapshot false).isObstructed = true := by
    rw [left]
    decide +kernel
  have ranked : ∀ t ∈ recorded (w.store.snapshot false) shopRun.changeLog.changeSets,
      t.2.IsRanked := by
    rw [left]
    exact fun t ht => isRanked_of_recorded_leftBy shopRan_areCounted ht
  have two_new : ((shopRan.store.snapshot false).unseen shopRun.changeLog.changeSets).length =
      2 := by
    decide +kernel
  have newest := take_newestFirst_leftBy (m := shopRun) (s := shopRan.store.snapshot false)
    shopRun_areDistinct shopRan_areCounted
  rw [two_new, ← left] at newest
  have found : (shopRun.targets 2).run w = (.ok (shopPlan.map fun p => (p.1, p.2.1)), w) := by
    rw [run_targets_of_isRanked free ranked]
    exact congrArg (fun targets => (Except.ok targets, w)) newest
  have planned : shopRun.plan (shopPlan.map fun p => (p.1, p.2.1)) = .ok shopPlan := rfl
  exact run_rollback_of_plan found planned

theorem isRestored_of_rollback_shop :
    shopRun.changeLog.guard = none ∧ (∀ c ∈ shopRun.changeLog.changeSets, c.guard = none) ∧
      ChangeSet.AreDistinct false shopRun.changeLog.changeSets ∧
      (shopRan.store.snapshot false).RunsUnseenOnly shopRun.changeLog.changeSets ∧
      Record.AreCounted shopRan.store.records ∧
      ∃ report w report' w', (shopRun.update false).run shopRan = (.ok report, w) ∧
        report.applied = ["db/changelog.py::2::alice", "db/changelog.py::3::alice"] ∧
        (shopRun.rollback report.applied.length false).run w = (.ok report', w') ∧
        shopRun.IsRestored shopRan w' report.applied report'.rolledBack := by
  have open_log : shopRun.changeLog.guard = none := rfl
  have unguarded : ∀ c ∈ shopRun.changeLog.changeSets, c.guard = none := by decide +kernel
  have applied : ((shopRun.update false).run shopRan).1.toOption.map Report.applied =
      some ["db/changelog.py::2::alice", "db/changelog.py::3::alice"] := by decide +kernel
  have undoes : ((shopRun.undoAll shopPlan).run ((shopRun.update false).run shopRan).2).1.toBool =
      true := by
    decide +kernel
  refine ⟨open_log, unguarded, shopRun_areDistinct, shopRan_runsUnseenOnly, shopRan_areCounted, ?_⟩
  rcases updated : (shopRun.update false).run shopRan with ⟨e | report, w⟩
  · rw [updated] at applied
    cases applied
  · rw [updated] at applied undoes
    have keys_eq := Option.some.inj applied
    have left := snapshot_of_update open_log unguarded shopRun_areDistinct shopRan_runsUnseenOnly
      shopRan_areCounted updated
    have rollback_eq := shopRun_rollback left
    rcases undone : (shopRun.undoAll shopPlan).run w with ⟨e | _, w'⟩
    · rw [undone] at undoes
      cases undoes
    · rw [undone] at rollback_eq
      have rolledBack : (shopRun.rollback report.applied.length false).run w =
          (.ok (shopRun.reportOfPlan false shopPlan), w') := by
        rw [keys_eq]
        exact rollback_eq
      exact ⟨report, w, _, w', rfl, keys_eq, rolledBack,
        isRestored_of_rollback open_log unguarded shopRun_areDistinct shopRan_runsUnseenOnly
          shopRan_areCounted updated rolledBack⟩

end Migration

end SchemaMigration
