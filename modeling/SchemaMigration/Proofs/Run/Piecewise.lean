import SchemaMigration.Proofs.Run.Visit

/-! One snapshot for a whole run, and a fresh one for each changeset. What a run writes for a
changeset changes nothing that its snapshot says of those to come; so an update does what updates of
one changeset each do in a row, and fails where they fail. -/

namespace SchemaMigration

structure Report.IsSumOf (report : Report) (parts : List Report) : Prop where
  applied : report.applied = parts.flatMap Report.applied
  skipped : report.skipped = parts.flatMap Report.skipped
  markedRan : report.markedRan = parts.flatMap Report.markedRan
  statements : report.statements = parts.flatMap Report.statements

namespace Migration

def only (m : Migration) (c : ChangeSet) : Migration :=
  { m with changeLog := { m.changeLog with changeSets := [c] } }

def updateEach {σ : Type} [HistoryStore σ] (m : Migration) : List ChangeSet → Action σ (List Report)
  | [] => pure []
  | c :: rest => do
    let report ← (m.only c).update false
    let more ← m.updateEach rest
    return report :: more

/-- The end of an update, and that of updates of one changeset each: the same failure, or a report
with the same lists. -/
inductive Accord : Except Failure Report → Except Failure (List Report) → Prop
  | error (e : Failure) : Accord (.error e) (.error e)
  | ok {report : Report} {parts : List Report} (sum : report.IsSumOf parts) :
      Accord (.ok report) (.ok parts)

theorem keysOf_cons (p : ChangeSet × Step) (more : List (ChangeSet × Step)) (kind : Step → Bool) :
    keysOf (p :: more) kind = keysOf [p] kind ++ keysOf more kind := by
  unfold keysOf
  rw [← List.map_append, ← List.filter_append]
  rfl

theorem isSumOf_cons (m : Migration) (p : ChangeSet × Step) {more : List (ChangeSet × Step)}
    {parts : List Report} (h : (m.reportOf false more).IsSumOf parts) :
    (m.reportOf false (p :: more)).IsSumOf (m.reportOf false [p] :: parts) where
  applied := by
    rw [List.flatMap_cons, ← h.applied]
    exact keysOf_cons p more Step.isApplied
  skipped := by
    rw [List.flatMap_cons, ← h.skipped]
    exact keysOf_cons p more Step.isSkipped
  markedRan := by
    rw [List.flatMap_cons, ← h.markedRan]
    exact keysOf_cons p more Step.isMarkedRan
  statements := by
    rw [List.flatMap_cons, ← h.statements]
    simp [reportOf]

variable {m : Migration} {c : ChangeSet} {s t : Selection} {w v : World MemoryStore}

theorem run_updateOne_congr (hc : c.identity.IsTextual)
    (policy : s.snapshot.ignoreCase = t.snapshot.ignoreCase) (current_s : s.IsCurrent w.store c)
    (current_t : t.IsCurrent w.store c) :
    ((m.updateOne false s c).run w).1.map Prod.fst =
      ((m.updateOne false t c).run w).1.map Prod.fst ∧
      ((m.updateOne false s c).run w).2 = ((m.updateOne false t c).run w).2 := by
  have agrees : Snapshot.AgreeOn c s.snapshot t.snapshot := by
    have agrees_s := current_s.agrees
    rw [policy] at agrees_s
    exact agrees_s.trans current_t.agrees.symm
  have due : s.toReconcile? c = t.toReconcile? c := by
    rw [Selection.toReconcile?_of_unwritten current_s.unwritten,
      Selection.toReconcile?_of_unwritten current_t.unwritten, agrees.find?]
  have written : s.writtenBack w.store c = t.writtenBack w.store c := by
    unfold Selection.writtenBack
    rw [due]
  have path : s.snapshot.recordedPath c = t.snapshot.recordedPath c := by
    unfold Snapshot.recordedPath
    rw [agrees.find?]
  rw [run_updateOne_eq m s hc, run_updateOne_eq m t hc, agrees.isObstructed, agrees.mustRun,
    written, path]
  cases t.snapshot.isObstructed c with
  | true => exact ⟨rfl, rfl⟩
  | false =>
    cases t.snapshot.mustRun c with
    | false => exact ⟨rfl, rfl⟩
    | true =>
      simp only [Bool.not_true, Bool.false_eq_true, if_false]
      rcases (m.applyOne false (t.snapshot.recordedPath c) c).run
        { w with store := t.writtenBack w.store c } with ⟨e | step, after⟩
      · exact ⟨rfl, trivial⟩
      · exact ⟨rfl, trivial⟩

theorem run_update_only (hc : c.identity.IsTextual) (open_log : m.changeLog.guard = none)
    (policy : s.snapshot.ignoreCase = m.ignoreCase) (current : s.IsCurrent w.store c)
    (alike : w.Alike v) :
    (((m.only c).update false).run v).1 =
        ((m.updateOne false s c).run w).1.map (fun (step, _) => m.reportOf false [(c, step)]) ∧
      ((m.updateOne false s c).run w).2.Alike (((m.only c).update false).run v).2 := by
  obtain ⟨log, result, ended⟩ := run_update_of_open (m.only c) v open_log
  have fresh_current : ((m.only c).startingSelection v).IsCurrent w.store c :=
    alike.store ▸ Selection.isCurrent_ofStore v.store m.ignoreCase c
  obtain ⟨same_outcome, same_world⟩ := run_updateOne_congr (m := m) hc policy current fresh_current
  obtain ⟨same_result, after⟩ := isBlind_updateOne m ((m.only c).startingSelection v) c w
    { v with log := log } (alike.trans (.with_log v log))
  rw [← same_world] at after
  rw [same_result] at same_outcome
  rw [result]
  -- what is left is a row of one visit, with the selection of that update
  generalize (m.updateOne false s c).run w = visit at same_outcome after ⊢
  rcases fresh : (m.updateOne false ((m.only c).startingSelection v) c).run
      { v with log := log } with
    ⟨e | ⟨step, s'⟩, v'⟩
  · rw [fresh] at same_outcome after
    have row : ((m.only c).updateAll false ((m.only c).startingSelection v)
        (m.only c).changeLog.changeSets).run { v with log := log } = (.error e, v') :=
      run_updateAll_error fresh
    rw [row] at ended ⊢
    refine ⟨?_, after.trans ended.symm⟩
    obtain ⟨e' | _, w'⟩ := visit
    · cases same_outcome
      rfl
    · cases same_outcome
  · rw [fresh] at same_outcome after
    have row : ((m.only c).updateAll false ((m.only c).startingSelection v)
        (m.only c).changeLog.changeSets).run { v with log := log } = (.ok [(c, step)], v') :=
      run_updateAll_ok fresh
    rw [row] at ended ⊢
    refine ⟨?_, after.trans ended.symm⟩
    obtain ⟨_ | ⟨step', _⟩, w'⟩ := visit
    · cases same_outcome
    · cases same_outcome
      rfl

theorem accord_updateAll (m : Migration) (changeSets : List ChangeSet) (s : Selection)
    (w v : World MemoryStore) (open_log : m.changeLog.guard = none)
    (policy : s.snapshot.ignoreCase = m.ignoreCase)
    (distinct : ChangeSet.AreDistinct m.ignoreCase changeSets)
    (current : ∀ c ∈ changeSets, s.IsCurrent w.store c) (alike : w.Alike v) :
    Accord (((m.updateAll false s changeSets).run w).1.map (m.reportOf false))
        ((m.updateEach changeSets).run v).1 ∧
      ((m.updateAll false s changeSets).run w).2.Alike ((m.updateEach changeSets).run v).2 := by
  induction changeSets generalizing s w v with
  | nil => exact ⟨.ok ⟨rfl, rfl, rfl, rfl⟩, alike⟩
  | cons c rest ih =>
    have distinct_s : ChangeSet.AreDistinct s.snapshot.ignoreCase (c :: rest) := policy ▸ distinct
    have turn := run_updateOne m s distinct.head w
    obtain ⟨same, after⟩ := run_update_only distinct.head open_log policy
      (current c List.mem_cons_self) alike
    unfold updateEach
    rw [Action.run_bind]
    generalize ((m.only c).update false).run v = part at same after ⊢
    obtain ⟨result, v'⟩ := part
    rcases visited : (m.updateOne false s c).run w with ⟨e | ⟨step, s'⟩, w'⟩
    · rw [visited] at same after
      cases same
      rw [run_updateAll_error visited]
      exact ⟨.error e, after⟩
    · rw [visited] at turn same after
      cases same
      have current' := turn.isCurrent distinct_s current
      cases turn.selection_eq
      obtain ⟨accord, alike'⟩ :=
        ih (s.noting c) w' v' (by simpa using policy) distinct.tail current' after
      rw [run_updateAll_ok visited]
      dsimp only
      rw [Action.run_bind]
      generalize (m.updateAll false (s.noting c) rest).run w' = row at accord alike' ⊢
      generalize (m.updateEach rest).run v' = parts at accord alike' ⊢
      obtain ⟨e | more, w''⟩ := row
      · obtain ⟨e' | reports, v''⟩ := parts
        · cases accord
          exact ⟨.error e, alike'⟩
        · cases accord
      · obtain ⟨e' | reports, v''⟩ := parts
        · cases accord
        · cases accord with
          | ok sum => exact ⟨.ok (isSumOf_cons m (c, step) sum), alike'⟩

/-- An update ends as updates of one changeset each do, from the first failure to the lists of the
reports; it leaves the store the same records and checksum updates, and has sent the engine the same
transactions. -/
theorem accord_update (m : Migration) (w : World MemoryStore) (open_log : m.changeLog.guard = none)
    (distinct : ChangeSet.AreDistinct m.ignoreCase m.changeLog.changeSets) :
    let whole := (m.update false).run w
    let pieces := (m.updateEach m.changeLog.changeSets).run w
    Accord whole.1 pieces.1 ∧ whole.2.store.records = pieces.2.store.records ∧
      whole.2.store.checksumUpdates = pieces.2.store.checksumUpdates ∧
      whole.2.transactions = pieces.2.transactions := by
  obtain ⟨log, result, ended⟩ := run_update_of_open m w open_log
  obtain ⟨accord, alike⟩ := accord_updateAll m m.changeLog.changeSets (m.startingSelection w)
    { w with log := log } w open_log rfl distinct
      (fun c _ => Selection.isCurrent_ofStore _ _ c) ⟨rfl, rfl⟩
  have same := ended.trans alike
  dsimp only
  rw [result, same.store, same.transactions]
  exact ⟨accord, rfl, rfl, rfl⟩

def viewThenDrop : List ChangeSet := [
  { id := .text "1", author := .text "alice", path := .text "db/changelog.py"
    runOnChange := .bool true },
  { id := .text "2", author := .text "alice", path := .text "db/changelog.py"
    changes := [.dropTable { table := .text "customers" }] }]

def viewThenDropRun : Migration where
  changeLog := { path := .text "db/changelog.py", changeSets := viewThenDrop }
  database := {
    name := "sqlite"
    style := .of (some .sqlite)
    engine := some ({ faults := [("DROP", .database "locked")] } : EngineScript).engine }
  now := { year := 2024, month := 1, day := 2 }

def viewRan : World MemoryStore where
  store := {
    records :=
      [⟨.text "1", .text "alice", .text "db/changelog.py", .text "old", none, .int 1, .null⟩] }

theorem viewThenDrop_distinct : ChangeSet.AreDistinct false viewThenDrop where
  textual c hc := by
    rcases List.mem_cons.mp hc with rfl | last
    · exact ⟨"1", "alice", "db/changelog.py", rfl⟩
    · rw [List.mem_singleton.mp last]
      exact ⟨"2", "alice", "db/changelog.py", rfl⟩
  nodup := by decide

theorem accord_update_viewThenDrop :
    ChangeSet.AreDistinct false viewThenDrop ∧
      let whole := (viewThenDropRun.update false).run viewRan
      let pieces := (viewThenDropRun.updateEach viewThenDrop).run viewRan
      Accord whole.1 pieces.1 ∧ whole.2.store.records = pieces.2.store.records ∧
        whole.2.store.checksumUpdates = pieces.2.store.checksumUpdates ∧
        whole.2.transactions = pieces.2.transactions :=
  ⟨viewThenDrop_distinct, accord_update viewThenDropRun viewRan rfl viewThenDrop_distinct⟩

end Migration

end SchemaMigration
