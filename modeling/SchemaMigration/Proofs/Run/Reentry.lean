import SchemaMigration.Proofs.Run.Visit

/-! Updates that follow on one that has come to its end. Without guards, a visit that succeeds
settles its changeset: the governing record holds the checksum. Settled changesets run again only if
they always do, and an update on nothing but settled ones asks the store for its records and does no
more. -/

namespace SchemaMigration

namespace Snapshot

variable {c : ChangeSet} {s t : Snapshot}

/-- A changeset whose governing record is found, and holds its checksum. -/
structure IsSettled (s : Snapshot) (c : ChangeSet) : Prop where
  free : s.isObstructed c = false
  current : ∃ r, s.find? c = some r ∧ r.checksum = .text c.checksum

theorem IsSettled.of_agreeOn (h : s.IsSettled c) (agrees : AgreeOn c s t) : t.IsSettled c where
  free := agrees.isObstructed ▸ h.free
  current := agrees.find? ▸ h.current

theorem IsSettled.mustRun_eq (h : s.IsSettled c) : s.mustRun c = c.runAlways.isTrue := by
  obtain ⟨r, found, same⟩ := h.current
  simp [mustRun, found, hasDrifted, same]

theorem IsSettled.toReconcile?_eq_none (h : s.IsSettled c) :
    ({ snapshot := s } : Selection).toReconcile? c = none := by
  obtain ⟨r, found, same⟩ := h.current
  simp [Selection.toReconcile?, found, hasDrifted, same]

end Snapshot

namespace Migration

variable {m : Migration} {c : ChangeSet} {s : Selection} {w w' : World MemoryStore}

theorem Treatment.marked_of_ok {path : Value} {step : Step} (unguarded : c.guard = none)
    (h : Treatment m path c w (.ok step) w') : w.store.markRan m.now c path = .ok w'.store := by
  generalize done : (Except.ok step : Except Failure Step) = result at h
  cases h with
  | halted => cases done
  | heldBack guard =>
    rw [unguarded, passage_none] at guard
    cases guard
  | marked _ store _ => exact markRan_memory_ok store
  | unmarked => cases done
  | unrendered => cases done
  | unexecuted => cases done
  | unrecorded => cases done
  | unconfirmed => cases done
  | applied _ _ execution store _ _ => exact execution.store_eq ▸ markRan_memory_ok store

theorem Turn.isSettled {step : Step} {s' : Selection} (hc : c.identity.IsTextual)
    (unguarded : c.guard = none) (current : s.IsCurrent w.store c)
    (h : Turn m s c w (.ok (step, s')) w') :
    (w'.store.snapshot s.snapshot.ignoreCase).IsSettled c := by
  generalize done : (Except.ok (step, s') : Except Failure (Step × Selection)) = result at h
  cases h with
  | obstructed => cases done
  | skipped free decided store _ =>
    rw [store]
    constructor
    · rw [Selection.isObstructed_writtenBack, ← current.agrees.isObstructed, free]
    · rw [Selection.find?_writtenBack hc current]
      rw [current.agrees.mustRun] at decided
      cases found : (w.store.snapshot s.snapshot.ignoreCase).find? c with
      | none => simp [Snapshot.mustRun, found] at decided
      | some r => exact ⟨_, rfl, rfl⟩
  | @treated outcome _ free decided treatment =>
    cases outcome with
    | error e => cases done
    | ok step =>
      have marked := treatment.marked_of_ok unguarded
      rw [← Selection.recordedPath_writtenBack hc current] at marked
      constructor
      · rw [Snapshot.isObstructed_markRan hc marked, Selection.isObstructed_writtenBack,
          ← current.agrees.isObstructed, free]
      · exact Snapshot.find?_markRan hc marked

theorem isSettled_updateAll (m : Migration) (changeSets : List ChangeSet) (s : Selection)
    (w : World MemoryStore) (distinct : ChangeSet.AreDistinct s.snapshot.ignoreCase changeSets)
    (current : ∀ c ∈ changeSets, s.IsCurrent w.store c)
    (unguarded : ∀ c ∈ changeSets, c.guard = none) {steps : List (ChangeSet × Step)}
    (returned : (m.updateAll false s changeSets).run w = (.ok steps, w')) :
    ∀ c ∈ changeSets, (w'.store.snapshot s.snapshot.ignoreCase).IsSettled c := by
  induction changeSets generalizing s w steps with
  | nil => nofun
  | cons c rest ih =>
    have turn := run_updateOne m s distinct.head w
    rcases visited : (m.updateOne false s c).run w with ⟨e | ⟨step, s'⟩, w₁⟩
    · rw [run_updateAll_error visited] at returned
      cases returned
    · rw [visited] at turn
      have settled := turn.isSettled distinct.head (unguarded c List.mem_cons_self)
        (current c List.mem_cons_self)
      have current' := turn.isCurrent distinct current
      cases turn.selection_eq
      have tail_distinct : ChangeSet.AreDistinct (s.noting c).snapshot.ignoreCase rest := by
        simpa using distinct.tail
      have later :=
        updateAll_agreeOn m rest (s.noting c) w₁ tail_distinct current' distinct.head (by
        intro d hd
        simpa using (distinct.head_ne hd).symm)
      rw [run_updateAll_ok visited] at returned
      generalize row : (m.updateAll false (s.noting c) rest).run w₁ = ended at returned later
      obtain ⟨result, w₂⟩ := ended
      obtain ⟨result_eq, rfl⟩ := Prod.mk.inj returned
      cases result with
      | error e => cases result_eq
      | ok more =>
        have settled_rest := ih (s.noting c) w₁ tail_distinct current'
          (fun d hd => unguarded d (List.mem_cons_of_mem c hd)) row
        rw [Selection.snapshot_noting] at settled_rest later
        intro d hd
        -- what the first visit settled is not touched by the later ones
        rcases List.mem_cons.mp hd with rfl | hd_rest
        · exact settled.of_agreeOn later
        · exact settled_rest d hd_rest

theorem isSettled_update (m : Migration) {report : Report}
    (distinct : ChangeSet.AreDistinct m.ignoreCase m.changeLog.changeSets)
    (open_log : m.changeLog.guard = none) (unguarded : ∀ c ∈ m.changeLog.changeSets, c.guard = none)
    (returned : (m.update false).run w = (.ok report, w')) :
    ∀ c ∈ m.changeLog.changeSets, (w'.store.snapshot m.ignoreCase).IsSettled c := by
  obtain ⟨log, ended, alike⟩ := run_update_of_open m w open_log
  rw [returned] at ended alike
  rcases row : (m.updateAll false (m.startingSelection w) m.changeLog.changeSets).run
    { w with log := log } with ⟨e | steps, w₁⟩
  · rw [row] at ended
    cases ended
  · rw [row] at alike
    rw [alike.store]
    exact isSettled_updateAll m m.changeLog.changeSets (m.startingSelection w) { w with log := log }
      distinct (fun c _ => Selection.isCurrent_ofStore _ _ c) unguarded row

theorem run_status_of_isSettled (m : Migration) (w : World MemoryStore)
    (settled : ∀ c ∈ m.changeLog.changeSets, (w.store.snapshot m.ignoreCase).IsSettled c) :
    m.status.run w = (.ok (m.changeLog.changeSets.filter fun c => c.runAlways.isTrue), w) := by
  have free : m.changeLog.changeSets.any (w.store.snapshot m.ignoreCase).isObstructed = false := by
    rw [List.any_eq_false]
    intro c hc
    rw [Bool.not_eq_true]
    exact (settled c hc).free
  have decided : m.changeLog.changeSets.filter (w.store.snapshot m.ignoreCase).mustRun =
      m.changeLog.changeSets.filter fun c => c.runAlways.isTrue :=
    List.filter_congr fun c hc => (settled c hc).mustRun_eq
  rw [run_status, if_neg (Bool.eq_false_iff.mp free), decided]

section Store

variable {σ : Type} [HistoryStore σ]

theorem run_updateOne_of_isSettled (m : Migration) {snapshot : Snapshot}
    (settled : snapshot.IsSettled c)
    (once : c.runAlways.isTrue = false) (v : World σ) :
    (m.updateOne false { snapshot := snapshot } c).run v =
      (.ok (.skipped, { snapshot := snapshot }), v) := by
  have unwritten : ({ snapshot := snapshot } : Selection).reconcile v.store c =
      (.ok (false, { snapshot := snapshot }), v.store) := by
    simp [Selection.reconcile, settled.free, settled.toReconcile?_eq_none]
  have reconciled : (reconcile { snapshot := snapshot } c).run v =
      (.ok { snapshot := snapshot }, v) := by
    unfold reconcile
    rw [Action.run_bind, Action.run_onStore_ok unwritten]
    rfl
  simp [updateOne, Action.run_bind, reconciled, settled.free, settled.mustRun_eq, once]

theorem run_updateAll_of_isSettled (m : Migration) {snapshot : Snapshot}
    (changeSets : List ChangeSet)
    (settled : ∀ c ∈ changeSets, snapshot.IsSettled c)
    (once : ∀ c ∈ changeSets, c.runAlways.isTrue = false) (v : World σ) :
    (m.updateAll false { snapshot := snapshot } changeSets).run v =
      (.ok (changeSets.map fun c => (c, .skipped)), v) := by
  induction changeSets with
  | nil => rfl
  | cons c rest ih =>
    have visited := run_updateOne_of_isSettled m (settled c List.mem_cons_self)
      (once c List.mem_cons_self) v
    have row := ih (fun d hd => settled d (List.mem_cons_of_mem c hd))
      fun d hd => once d (List.mem_cons_of_mem c hd)
    rw [run_updateAll_ok visited, row]
    rfl

/-- An update that skips every changeset: of whatever store has these records it asks them, and no
more, and it executes nothing. -/
def IsIdle (m : Migration) (records : List Record) : Prop :=
  ∀ {σ : Type} [HistoryStore σ] (v : World σ) (loaded : σ),
    HistoryStore.load v.store = (.ok records, loaded) →
      ∃ report log, (m.update false).run v = (.ok report, { v with store := loaded, log := log }) ∧
        report.applied = [] ∧ report.markedRan = [] ∧ report.statements = [] ∧
        report.skipped = m.changeLog.changeSets.map ChangeSet.key

theorem isIdle_of_isSettled (m : Migration) (records : List Record)
    (open_log : m.changeLog.guard = none)
    (settled : ∀ c ∈ m.changeLog.changeSets, Snapshot.IsSettled ⟨records, m.ignoreCase⟩ c)
    (once : ∀ c ∈ m.changeLog.changeSets, c.runAlways.isTrue = false) : m.IsIdle records := by
  intro σ _ v loaded load_eq
  have opened : ∃ log, (m.opening false).run v =
      (.ok (some { snapshot := ⟨records, m.ignoreCase⟩ }),
          { v with store := loaded, log := log }) := by
    have selected (log : List LogLine) : m.select.run { v with log := log } =
        (.ok { snapshot := ⟨records, m.ignoreCase⟩ }, { v with store := loaded, log := log }) := by
      apply Action.run_onStore_ok
      simp [Selection.ofStore, load_eq, Except.map]
    unfold opening Action.info
    rw [open_log, Action.run_bind, Action.run_writeLog]
    dsimp only [pass]
    rw [pure_bind, Action.run_bind, selected]
    exact ⟨_, rfl⟩
  obtain ⟨log, opened⟩ := opened
  have row := run_updateAll_of_isSettled m m.changeLog.changeSets settled once
    { v with store := loaded, log := log }
  rw [update_eq, Action.run_bind, opened]
  dsimp only
  rw [Action.run_bind, row]
  refine ⟨_, _, rfl, ?_⟩
  simp [reportOf, Step.isApplied, Step.isMarkedRan, Step.isSkipped, Step.sql]

end Store

/-- After an update that comes to its end, those changesets have to run that always do. If there are
none, a second update skips every changeset: it leaves the store as it is, whatever that does with
the checksums and the runs it is asked to write, and executes nothing. -/
theorem status_and_update_of_update (m : Migration) (w w' : World MemoryStore) (report : Report)
    (distinct : ChangeSet.AreDistinct m.ignoreCase m.changeLog.changeSets)
    (open_log : m.changeLog.guard = none) (unguarded : ∀ c ∈ m.changeLog.changeSets, c.guard = none)
    (returned : (m.update false).run w = (.ok report, w')) :
    (m.status.run w').1 = .ok (m.changeLog.changeSets.filter fun c => c.runAlways.isTrue) ∧
      ((∀ c ∈ m.changeLog.changeSets, c.runAlways.isTrue = false) → ∀ now,
        { m with now := now }.IsIdle w'.store.records ∧
        ∃ second log, ({ m with now := now }.update false).run w' =
          (.ok second, { w' with log := log }) ∧
          second.applied = [] ∧ second.markedRan = [] ∧ second.statements = [] ∧
          second.skipped = m.changeLog.changeSets.map ChangeSet.key) := by
  have settled := isSettled_update m distinct open_log unguarded returned
  refine ⟨by rw [run_status_of_isSettled m w' settled], fun once now => ?_⟩
  have idle : { m with now := now }.IsIdle w'.store.records :=
    isIdle_of_isSettled { m with now := now } w'.store.records open_log settled once
  exact ⟨idle, idle w' w'.store rfl⟩

def reportView : ChangeSet where
  id := .text "1"
  author := .text "alice"
  path := .text "db/changelog.py"
  runOnChange := .bool true

def reportViewRun : Migration where
  changeLog := { path := .text "db/changelog.py", changeSets := [reportView] }
  database := {
    name := "sqlite"
    style := .of (some .sqlite)
    engine := some ({} : EngineScript).engine }
  ignoreCase := true
  now := { year := 2024, month := 1, day := 2 }

def reportViewRan : World MemoryStore where
  store := {
    records := [
      ⟨.text "1", .text "alice", .text "DB/changelog.py", .text "old", none, .int 1, .null⟩,
      ⟨.text "1", .text "alice", .text "db/changelog.py", .null, none, .int 2, .null⟩] }

theorem status_and_update_of_update_view :
    ∃ report w', (reportViewRun.update false).run reportViewRan = (.ok report, w') ∧
      (reportViewRun.status.run w').1 = .ok [] ∧ reportViewRun.IsIdle w'.store.records := by
  have returns : ((reportViewRun.update false).run reportViewRan).1.toBool = true := by
    decide +kernel
  rcases returned : (reportViewRun.update false).run reportViewRan with ⟨e | report, w'⟩
  · rw [returned] at returns
    cases returns
  · have distinct : ChangeSet.AreDistinct true reportViewRun.changeLog.changeSets :=
      ChangeSet.areDistinct_singleton ⟨"1", "alice", "db/changelog.py", rfl⟩
    obtain ⟨status, again⟩ :=
      status_and_update_of_update reportViewRun reportViewRan w' report distinct rfl
      (fun c hc => List.mem_singleton.mp hc ▸ rfl) returned
    have once : ∀ c ∈ reportViewRun.changeLog.changeSets, c.runAlways.isTrue = false :=
      fun c hc => List.mem_singleton.mp hc ▸ rfl
    exact ⟨report, w', rfl, status, (again once reportViewRun.now).1⟩

end Migration

end SchemaMigration
