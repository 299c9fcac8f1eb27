import SchemaMigration.Proofs.Run.SideBySide
import SchemaMigration.Proofs.Run.Undoing

/-! Runs of two changelogs that differ in the letter case of their paths, where case does not count:
from one history on, the same updates and rollbacks of either end alike. A rollback removes what it
found when it was planned, and what told the records of two stores alike then does so as long as
records are only removed. -/

namespace SchemaMigration

theorem forall₂_mergeSort {α β : Type} {R : α → β → Prop} {le : α → α → Bool} {le' : β → β → Bool}
    {xs : List α} {ys : List β} (both : List.Forall₂ R xs ys)
    (same : ∀ a a' b b', R a a' → R b b' → le a b = le' a' b') :
    List.Forall₂ R (xs.mergeSort le) (ys.mergeSort le') := by
  obtain ⟨lengths, related⟩ := List.forall₂_iff_zip.mp both
  have left : (xs.zip ys).map Prod.fst = xs := List.map_fst_zip (Nat.le_of_eq lengths)
  have right : (xs.zip ys).map Prod.snd = ys := List.map_snd_zip (Nat.le_of_eq lengths.symm)
  -- the pairs are sorted once, by either side
  have sorted : ((xs.zip ys).mergeSort fun p q => le p.1 q.1).map Prod.fst = xs.mergeSort le := by
    rw [List.map_mergeSort (f := Prod.fst) (s := le) fun _ _ _ _ => rfl, left]
  have sorted' : ((xs.zip ys).mergeSort fun p q => le p.1 q.1).map Prod.snd = ys.mergeSort le' := by
    rw [List.map_mergeSort (f := Prod.snd) (s := le')
      fun p hp q hq => same _ _ _ _ (related hp) (related hq), right]
  rw [← sorted, ← sorted', List.forall₂_map_left_iff, List.forall₂_map_right_iff, List.forall₂_same]
  intro p hp
  exact related ((List.mergeSort_perm _ _).mem_iff.mp hp)

namespace Migration

variable {m n : Migration} {w w' : World MemoryStore}
  {vacant : Option (String × String × String) → Prop}
  {start kept : List Record} {new : List (Record × Record)}

structure IsSameTarget (kept : List Record)
    (new : List (Record × Record)) (t t' : ChangeSet × Record) : Prop where
  recased : t.1.IsRecased t'.1
  textual : t.1.identity.IsTextual
  both : (t.2, t'.2) ∈ Record.counterparts kept new
  own : Snapshot.matches? true t.1 t.2 = true
  own' : Snapshot.matches? true t'.1 t'.2 = true

section Targets

variable {store store' : MemoryStore}
  (stores : MemoryStore.SideBySide vacant start kept new store store')

include stores

theorem forall₂_recorded {cs ds : List ChangeSet} (recased : List.Forall₂ ChangeSet.IsRecased cs ds)
    (textual : ∀ c ∈ cs, c.identity.IsTextual) :
    List.Forall₂ (IsSameTarget kept new) (recorded (store.snapshot true) cs)
      (recorded (store'.snapshot true) ds) := by
  unfold recorded
  induction recased with
  | nil => exact .nil
  | @cons c d _ _ first _ ih =>
    have hc := textual c List.mem_cons_self
    have later := ih fun c hc => textual c (List.mem_cons_of_mem _ hc)
    rcases stores.find?_cases first hc with ⟨left, right⟩ | ⟨r, r', both, left, right⟩
    · rw [List.filterMap_cons, List.filterMap_cons, left, right]
      exact later
    · rw [List.filterMap_cons, List.filterMap_cons, left, right]
      exact .cons ⟨first, hc, both, Snapshot.matches?_of_find? left,
        Snapshot.matches?_of_find? right⟩ later

theorem any_isObstructed_eq {cs ds : List ChangeSet}
    (recased : List.Forall₂ ChangeSet.IsRecased cs ds)
    (textual : ∀ c ∈ cs, c.identity.IsTextual) :
    ds.any (store'.snapshot true).isObstructed = cs.any (store.snapshot true).isObstructed := by
  induction recased with
  | nil => rfl
  | @cons c d _ _ first _ ih =>
    have later := ih fun c hc => textual c (List.mem_cons_of_mem _ hc)
    rw [List.any_cons, List.any_cons, later,
      stores.isObstructed_eq first (textual c List.mem_cons_self)]

theorem orderOf_eq_of_isSameTarget {t t' : ChangeSet × Record} (same : IsSameTarget kept new t t') :
    orderOf t'.2 = orderOf t.2 := by
  unfold orderOf
  rw [stores.others_eq same.both]

theorem map_orderOf_eq {ts ts' : List (ChangeSet × Record)}
    (same : List.Forall₂ (IsSameTarget kept new) ts ts') :
    (ts'.map fun t => orderOf t.2) = ts.map fun t => orderOf t.2 := by
  induction same with
  | nil => rfl
  | cons first _ ih =>
    rw [List.map_cons, List.map_cons, ih, orderOf_eq_of_isSameTarget stores first]

theorem forall₂_newestFirst {ts ts' : List (ChangeSet × Record)}
    (same : List.Forall₂ (IsSameTarget kept new) ts ts') :
    List.Forall₂ (IsSameTarget kept new) (newestFirst ts) (newestFirst ts') := by
  refine forall₂_mergeSort same fun t t' u u' same_t same_u => ?_
  rw [orderOf_eq_of_isSameTarget stores same_t, orderOf_eq_of_isSameTarget stores same_u]

end Targets

theorem ends_targets (h : m.IsRecased n) (folded : m.ignoreCase = true)
    (textual : ∀ c ∈ m.changeLog.changeSets, c.identity.IsTextual)
    (worlds : World.SideBySide vacant start kept new w w') (count : Nat) :
    Ends (List.Forall₂ (IsSameTarget kept new)) (World.KeepStores w w')
      ((m.targets count).run w) ((n.targets count).run w') := by
  have found := forall₂_recorded worlds.store h.changeSets textual
  have orders := map_orderOf_eq worlds.store found
  rw [run_targets_eq, run_targets_eq, h.ignoreCase_eq, folded,
    any_isObstructed_eq worlds.store h.changeSets textual]
  refine ⟨?_, rfl, rfl, worlds.transactions⟩
  dsimp only
  -- the order numbers decide whether the records can be ranked, and how
  rw [orders]
  split
  · exact .error (.same _)
  · split
    · exact .ok (List.forall₂_take count (forall₂_newestFirst worlds.store found))
    · exact .error (.same _)

structure IsSameItem (kept : List Record) (new : List (Record × Record))
    (p p' : ChangeSet × Record × List String) : Prop where
  recased : p.1.IsRecased p'.1
  sql : p'.2.2 = p.2.2
  textual : (p.1.recordedAs p.2.1.path).IsTextual
  textual' : (p'.1.recordedAs p'.2.1.path).IsTextual
  tally : Identity.Tally kept new (p.1.recordedAs p.2.1.path) (p'.1.recordedAs p'.2.1.path)

theorem IsSameTarget.isSameItem {store store' : MemoryStore}
    (stores : MemoryStore.SideBySide vacant start kept new store store') {t t' : ChangeSet × Record}
    (same : IsSameTarget kept new t t') (sql : List String) :
    IsSameItem kept new (t.1, t.2, sql) (t'.1, t'.2, sql) := by
  have hd := same.recased.isTextual same.textual
  have place := Snapshot.recordedAs_path same.textual same.own
  have place' := Snapshot.recordedAs_path hd same.own'
  refine ⟨same.recased, rfl, ?_, ?_, ?_⟩
  · rw [place]
    exact Snapshot.isTextual_of_matches? same.textual same.own
  · rw [place']
    exact Snapshot.isTextual_of_matches? hd same.own'
  · rw [place, place']
    exact stores.tally same.both

theorem matched_plan (h : m.IsRecased n) {store store' : MemoryStore}
    (stores : MemoryStore.SideBySide vacant start kept new store store')
    {ts ts' : List (ChangeSet × Record)}
    (same : List.Forall₂ (IsSameTarget kept new) ts ts') :
    Matched (List.Forall₂ (IsSameItem kept new)) (m.plan ts) (n.plan ts') := by
  induction same with
  | nil => exact .ok .nil
  | @cons t t' rest rest' first _ ih =>
    obtain ⟨c, r⟩ := t
    obtain ⟨d, r'⟩ := t'
    unfold plan
    rw [h.renderRollback_eq first.recased]
    cases m.renderRollback c with
    | error e => exact .error (.same e)
    | ok sql =>
      generalize m.plan rest = planned at ih ⊢
      generalize n.plan rest' = planned' at ih ⊢
      cases ih with
      | error failures => exact .error failures
      | ok later => exact .ok (.cons (first.isSameItem stores sql) later)

theorem ends_planned (h : m.IsRecased n) (folded : m.ignoreCase = true)
    (textual : ∀ c ∈ m.changeLog.changeSets, c.identity.IsTextual)
    (worlds : World.SideBySide vacant start kept new w w') (count : Int) :
    Ends (List.Forall₂ (IsSameItem kept new)) (World.KeepStores w w')
      ((m.planned count).run w) ((n.planned count).run w') := by
  unfold planned
  split
  · exact ⟨.error (.same _), rfl, rfl, worlds.transactions⟩
  · refine (ends_targets h folded textual worlds count.toNat).bind (fun _ _ same => same) ?_
    intro ts ts' v v' same kept_stores
    exact ⟨matched_plan h worlds.store same, kept_stores⟩

def KeepTallies (vacant : Option (String × String × String) → Prop) (start kept : List Record)
    (new : List (Record × Record)) (v v' : World MemoryStore) : Prop :=
  ∃ kept₁ new₁, World.SideBySide vacant start kept₁ new₁ v v' ∧
    ∀ i i', Identity.Tally kept new i i' → Identity.Tally kept₁ new₁ i i'

theorem ends_undoOne (h : m.IsRecased n) {p p' : ChangeSet × Record × List String}
    (same : IsSameItem kept new p p') (worlds : World.SideBySide vacant start kept new w w') :
    Ends (fun _ _ => True) (KeepTallies vacant start kept new)
      ((m.undoOne p.1 p.2.1 p.2.2).run w) ((n.undoOne p'.1 p'.2.1 p'.2.2).run w') := by
  unfold undoOne
  rw [same.sql]
  refine (ends_execute h same.recased p.2.2 worlds.transactions).bind
    (fun v v' kept_stores => ⟨kept, new, worlds.keepStores kept_stores, fun _ _ tally => tally⟩) ?_
  intro _ _ v v' _ kept_stores
  have worlds₁ := worlds.keepStores kept_stores
  exact ⟨.ok trivial, _, _,
    ⟨worlds₁.transactions, worlds₁.store.remove same.tally same.textual same.textual'⟩,
    fun i i' tally => tally.filter⟩

theorem ends_undoAll (h : m.IsRecased n) {plan plan' : List (ChangeSet × Record × List String)}
    (same : List.Forall₂ (IsSameItem kept new) plan plan')
    (worlds : World.SideBySide vacant start kept new w w') :
    Ends (fun _ _ => True) (World.AreSideBySide vacant start) ((m.undoAll plan).run w)
      ((n.undoAll plan').run w') := by
  induction plan generalizing plan' kept new w w' with
  | nil =>
    cases same
    exact ⟨.ok trivial, kept, new, worlds⟩
  | cons p rest ih =>
    obtain _ | ⟨first, later⟩ := same
    rw [undoAll_cons, undoAll_cons]
    refine (ends_undoOne h first worlds).bind
      (fun v v' ⟨kept₁, new₁, worlds₁, _⟩ => ⟨kept₁, new₁, worlds₁⟩) ?_
    rintro _ _ v v' _ ⟨kept₁, new₁, worlds₁, tallies⟩
    -- the plan was made on the stores before: its other items tell the remaining records alike, too
    exact ih (later.imp fun q q' item => { item with tally := tallies _ _ item.tally }) worlds₁

theorem isRecased_reportOfPlan (h : m.IsRecased n)
    {plan plan' : List (ChangeSet × Record × List String)}
    (same : List.Forall₂ (IsSameItem kept new) plan plan') :
    (m.reportOfPlan false plan).IsRecased (n.reportOfPlan false plan') where
  others := by
    have statements : (plan'.flatMap fun p => p.2.2) = plan.flatMap fun p => p.2.2 := by
      induction same with
      | nil => rfl
      | cons first _ ih => rw [List.flatMap_cons, List.flatMap_cons, first.sql, ih]
    unfold reportOfPlan
    rw [statements, h.now_eq]
  applied := .nil
  skipped := .nil
  markedRan := .nil
  rolledBack := by
    unfold reportOfPlan
    rw [List.forall₂_map_left_iff, List.forall₂_map_right_iff]
    exact same.imp fun _ _ item => isRecasedKey item.recased

theorem ends_rollback (h : m.IsRecased n) (folded : m.ignoreCase = true)
    (textual : ∀ c ∈ m.changeLog.changeSets, c.identity.IsTextual)
    (worlds : World.AreSideBySide vacant start w w') (count : Int) :
    Ends Report.IsRecased (World.AreSideBySide vacant start) ((m.rollback count false).run w)
      ((n.rollback count false).run w') := by
  obtain ⟨kept, new, both⟩ := worlds
  rw [rollback_eq, rollback_eq]
  refine (ends_planned h folded textual both count).bind
    (fun v v' same => ⟨kept, new, both.keepStores same⟩) ?_
  intro plan plan' v v' same kept_stores
  refine Ends.bind (ends_undoAll h same (both.keepStores kept_stores)) (fun _ _ after => after) ?_
  intro _ _ u u' _ after
  exact ⟨.ok (isRecased_reportOfPlan h same), after⟩

def Call.result {σ : Type} [HistoryStore σ] (m : Migration) : Call → World σ → Except Failure Report
  | .update now, w => (({ m with now := now }.update false).run w).1
  | .rollback now count, w => (({ m with now := now }.rollback count false).run w).1

/-- The results of calls in a row, each after the one before, with the world that they end in. -/
def runCalls {σ : Type} [HistoryStore σ] (m : Migration) :
    List Call → World σ → List (Except Failure Report) × World σ
  | [], w => ([], w)
  | call :: rest, w =>
    let (results, w') := m.runCalls rest (call.run m w)
    (call.result m w :: results, w')

theorem IsRecased.with_now (h : m.IsRecased n) (now : Timestamp) :
    IsRecased { m with now := now } { n with now := now } where
  others := by rw [h.others]
  changeSets := h.changeSets

/-- Whether there was no record of an identity at the start of calls in a row, or after one of
them. -/
def WasVacant (m : Migration) (calls : List Call) (w : World MemoryStore)
    (texts : Option (String × String × String)) : Prop :=
  ∃ earlier, earlier <+: calls ∧ (m.runCalls earlier w).2.store.IsVacant texts

theorem ends_call (h : m.IsRecased n) (folded : m.ignoreCase = true)
    (distinct : ChangeSet.AreDistinct true m.changeLog.changeSets)
    (worlds : World.AreGrowing vacant start w w') (call : Call) :
    Ends Report.IsRecased (World.AreSideBySide vacant start) (call.result m w, call.run m w)
      (call.result n w', call.run n w') := by
  cases call with
  | update now =>
    obtain ⟨results, worlds₁⟩ := ends_update (h.with_now now) folded distinct worlds
    exact ⟨results, worlds₁.sideBySide⟩
  | rollback now count =>
    exact ends_rollback (h.with_now now) folded distinct.textual worlds.sideBySide count

theorem ends_runCalls (h : m.IsRecased n) (folded : m.ignoreCase = true)
    (distinct : ChangeSet.AreDistinct true m.changeLog.changeSets) (calls : List Call)
    (vacancies : ∀ texts, m.WasVacant calls w texts → vacant texts)
    (worlds : World.AreSideBySide vacant start w w') :
    List.Forall₂ (Matched Report.IsRecased) (m.runCalls calls w).1 (n.runCalls calls w').1 ∧
      World.AreSideBySide vacant start (m.runCalls calls w).2 (n.runCalls calls w').2 := by
  induction calls generalizing w w' with
  | nil => exact ⟨.nil, worlds⟩
  | cons call rest ih =>
    have now_vacant : ∀ texts, w.store.IsVacant texts → vacant texts :=
      fun texts free => vacancies texts ⟨[], List.nil_prefix, free⟩
    have later_vacant : ∀ texts, m.WasVacant rest (call.run m w) texts → vacant texts := by
      rintro texts ⟨earlier, before, free⟩
      exact vacancies texts ⟨call :: earlier, (List.prefix_cons_inj call).mpr before, free⟩
    obtain ⟨first, worlds₁⟩ := ends_call h folded distinct ⟨worlds, now_vacant⟩ call
    obtain ⟨later, worlds₂⟩ := ih later_vacant worlds₁
    exact ⟨.cons first later, worlds₂⟩

/-- Two migrations of the same changesets, under paths that differ in letter case, where case does
not count. From one history on, calls of either end alike and send the same SQL; and their stores
hold the same records, but for the case of the paths of those that came since. A record came since
only if there was none of its identity, in whatever case, at the start or after one of the calls. -/
theorem sideBySide_of_isRecased (m n : Migration) (recased : m.IsRecased n)
    (folded : m.ignoreCase = true)
    (distinct : ChangeSet.AreDistinct true m.changeLog.changeSets) (calls : List Call)
    (w : World MemoryStore) :
    List.Forall₂ (Matched Report.IsRecased) (m.runCalls calls w).1 (n.runCalls calls w).1 ∧
      (n.runCalls calls w).2.transactions = (m.runCalls calls w).2.transactions ∧
      ∃ kept new, MemoryStore.SideBySide (m.WasVacant calls w) w.store.records kept new
        (m.runCalls calls w).2.store (n.runCalls calls w).2.store := by
  obtain ⟨results, kept, new, worlds⟩ :=
    ends_runCalls recased folded distinct calls (fun _ free => free)
    ⟨w.store.records, [], rfl, .refl w.store⟩
  exact ⟨results, worlds.transactions, kept, new, worlds.store⟩

def customersIn (path : String) : Migration :=
  { customersThere with
    changeLog := { path := .text path, changeSets := [{ customersTable with path := .text path }] }
    ignoreCase := true }

def customersRecorded : World MemoryStore where
  store := { records := ["Db/changelog.py", "db/CHANGELOG.py"].map fun path =>
    ⟨.text "1", .text "alice", .text path, .null, none, .int 1, .null⟩ }

def updatesAndRollbacks : List Call :=
  [.update customersThere.now, .rollback customersThere.now 1, .update customersThere.now,
    .rollback customersThere.now 1, .update customersThere.now]

theorem customersIn_isRecased :
    (customersIn "db/changelog.py").IsRecased (customersIn "DB/Changelog.py") where
  others := rfl
  changeSets := .cons ⟨rfl, by decide +kernel⟩ .nil

theorem sideBySide_of_isRecased_customers :
    let runs := fun path (calls : List Call) => (customersIn path).runCalls calls customersRecorded
    (runs "db/changelog.py" (updatesAndRollbacks.take 3)).2.store.records.map Record.path =
        [.text "db/CHANGELOG.py"] ∧
      (runs "DB/Changelog.py" updatesAndRollbacks).2.store.records.map Record.path =
        [.text "DB/Changelog.py"] ∧
      List.Forall₂ (Matched Report.IsRecased) (runs "db/changelog.py" updatesAndRollbacks).1
        (runs "DB/Changelog.py" updatesAndRollbacks).1 ∧
      ∃ kept new, MemoryStore.SideBySide
        ((customersIn "db/changelog.py").WasVacant updatesAndRollbacks customersRecorded)
        customersRecorded.store.records kept new
          (runs "db/changelog.py" updatesAndRollbacks).2.store
        (runs "DB/Changelog.py" updatesAndRollbacks).2.store := by
  have distinct : ChangeSet.AreDistinct true (customersIn "db/changelog.py").changeLog.changeSets :=
    ChangeSet.areDistinct_singleton ⟨"1", "alice", "db/changelog.py", rfl⟩
  obtain ⟨results, -, stores⟩ := sideBySide_of_isRecased (customersIn "db/changelog.py")
    (customersIn "DB/Changelog.py") customersIn_isRecased rfl distinct updatesAndRollbacks
      customersRecorded
  exact ⟨by decide +kernel, by decide +kernel, results, stores⟩

end Migration

end SchemaMigration
