import SchemaMigration.Proofs.Run.Handling
import SchemaMigration.Proofs.Run.Plan

/-! Dry runs. What an update does at a changeset is decided on the snapshot and by the guard, and
neither is touched by what the run writes; so a dry run takes the same steps as the run that it
rehearses, and the engine is sent the SQL of these steps. -/

namespace SchemaMigration

/-- A rehearsal lists what the report of the run itself lists. -/
structure Report.Foretells (rehearsed report : Report) : Prop where
  applied : report.applied = rehearsed.applied
  skipped : report.skipped = rehearsed.skipped
  markedRan : report.markedRan = rehearsed.markedRan
  rolledBack : report.rolledBack = rehearsed.rolledBack
  statements : report.statements = rehearsed.statements

/-- Between two worlds, changesets were carried out: a committed transaction for each key, and the
statements in all of them together. -/
def CarriedOut {σ : Type} (keys statements : List String) (w w' : World σ) : Prop :=
  ∃ deeds : List (String × List String), keys = deeds.map Prod.fst ∧
    statements = deeds.flatMap Prod.snd ∧
    w'.transactions = w.transactions ++ deeds.map fun deed => ⟨true, deed.2⟩

namespace Migration

section Store

variable {σ : Type} [HistoryStore σ] [DetachedStore σ] {m : Migration} {s s' : Selection}
  {c : ChangeSet} {step : Step} {w w' : World σ}

/-- The step at a changeset, as far as it can be told from a snapshot and the transactions so
far. -/
def foreseen (m : Migration) (snapshot : Snapshot) (transactions : List Transaction)
    (c : ChangeSet) :
    Except Failure Step :=
  if snapshot.isObstructed c then .error (.store (.misfit .lacking))
  else if !snapshot.mustRun c then .ok .skipped
  else
    match m.passage c.guard transactions with
    | .error result => .error (.guard result)
    | .ok .skip => .ok .skipped
    | .ok .markRan => .ok .markedRan
    | .ok .proceed => (m.render c.changes).map .applied

theorem run_updateOne_dry (m : Migration) (s : Selection) (c : ChangeSet) (w : World σ) :
    ∃ log, (m.updateOne true s c).run w =
      ((m.foreseen s.snapshot w.transactions c).map fun step => (step, s),
        { w with log := log }) := by
  unfold updateOne foreseen
  simp only [if_true, pure_bind]
  cases s.snapshot.isObstructed c with
  | true => exact ⟨w.log, rfl⟩
  | false =>
    cases s.snapshot.mustRun c with
    | false => exact ⟨w.log, rfl⟩
    | true =>
      obtain ⟨log, passed⟩ := run_pass m c.guard w
      refine ⟨log, ?_⟩
      simp only [Bool.false_eq_true, if_false, Bool.not_true, applyOne, Action.run_bind, passed]
      cases m.passage c.guard w.transactions with
      | error result => rfl
      | ok passage =>
        cases passage with
        | skip => rfl
        | markRan => rfl
        | proceed =>
          cases m.render c.changes with
          | error e => rfl
          | ok sql => rfl

omit [DetachedStore σ] in
theorem Handling.foreseen_eq (h : Handling m s c w (.ok (step, s')) w') :
    m.foreseen s.snapshot w.transactions c = .ok step ∧
      w'.transactions = w.transactions ++ step.sent := by
  obtain ⟨written, w₁, reconciled, transactions, course⟩ := h.eq_ok
  have free := (Selection.reconcile_eq_ok reconciled).1
  rcases course with ⟨decided, rfl, alike⟩ | ⟨decided, treatment⟩
  · refine ⟨?_, by simpa [Step.sent, alike.transactions] using transactions⟩
    simp [foreseen, free, decided]
  · obtain ⟨sent, steps⟩ := treatment.eq_ok
    rw [transactions] at sent steps
    refine ⟨?_, sent⟩
    simp only [foreseen, free, decided, Bool.not_true, Bool.false_eq_true, if_false]
    rcases steps with ⟨rfl, guard, -⟩ | ⟨rfl, guard, -⟩ | ⟨sql, rfl, guard, rendered, -⟩
    · rw [guard]
    · rw [guard]
    · rw [guard, rendered]
      rfl

def foreseenAll (m : Migration) (snapshot : Snapshot) (transactions : List Transaction) :
    List ChangeSet → Except Failure (List (ChangeSet × Step))
  | [] => .ok []
  | c :: rest => do
    let step ← m.foreseen snapshot transactions c
    let more ← m.foreseenAll snapshot transactions rest
    return (c, step) :: more

theorem run_updateAll_dry (m : Migration) (s : Selection) (changeSets : List ChangeSet)
    (w : World σ) :
    ∃ log, (m.updateAll true s changeSets).run w =
      (m.foreseenAll s.snapshot w.transactions changeSets, { w with log := log }) := by
  induction changeSets generalizing w with
  | nil => exact ⟨w.log, rfl⟩
  | cons c rest ih =>
    obtain ⟨log, first⟩ := run_updateOne_dry m s c w
    unfold foreseenAll
    cases step : m.foreseen s.snapshot w.transactions c with
    | error e =>
      rw [step] at first
      exact ⟨log, run_updateAll_error first⟩
    | ok step' =>
      rw [step] at first
      obtain ⟨log', others⟩ := ih { w with log := log }
      refine ⟨log', ?_⟩
      rw [run_updateAll_ok first, others]
      cases m.foreseenAll s.snapshot w.transactions rest with
      | error e => rfl
      | ok more => rfl

theorem updateAll_sent {steps : List (ChangeSet × Step)} {changeSets : List ChangeSet}
    (returned : (m.updateAll false s changeSets).run w = (.ok steps, w')) :
    w'.transactions = w.transactions ++ steps.flatMap fun (_, step) => step.sent := by
  induction changeSets generalizing s w steps with
  | nil =>
    cases returned
    simp
  | cons c rest ih =>
    obtain ⟨step, s₁, w₁, more, visited, row, rfl⟩ := run_updateAll_cons_eq_ok returned
    have handling := run_updateOne_handling m s c w
    rw [visited] at handling
    rw [ih row, handling.foreseen_eq.2, List.flatMap_cons, List.append_assoc]

/-- An update that returns takes the steps that are foreseen at its start, if the guards of the
changesets that it visits let them pass as they would have at the start. -/
theorem foreseenAll_of_updateAll {steps : List (ChangeSet × Step)} {changeSets : List ChangeSet}
    {start : List Transaction} (returned : (m.updateAll false s changeSets).run w = (.ok steps, w'))
    (steady : ∀ v ∈ m.visitsFrom s changeSets w,
      m.passage v.changeSet.guard v.before.transactions = m.passage v.changeSet.guard start) :
    m.foreseenAll s.snapshot start changeSets = .ok steps := by
  induction changeSets generalizing s w steps with
  | nil =>
    cases returned
    rfl
  | cons c rest ih =>
    obtain ⟨step, s₁, w₁, more, visited, row, rfl⟩ := run_updateAll_cons_eq_ok returned
    rw [visitsFrom_ok visited] at steady
    have handling := run_updateOne_handling m s c w
    rw [visited] at handling
    obtain ⟨foreseen_here, -⟩ := handling.foreseen_eq
    have steady_here : m.passage c.guard w.transactions = m.passage c.guard start :=
      steady _ List.mem_cons_self
    have foreseen_start : m.foreseen s.snapshot start c = .ok step := by
      rw [← foreseen_here]
      simp only [foreseen, steady_here]
    have foreseen_rest := ih row fun v hv => steady v (List.mem_cons_of_mem _ hv)
    unfold foreseenAll
    rw [foreseen_start]
    rw [handling.snapshot_eq] at foreseen_rest
    rw [foreseen_rest]
    rfl

theorem exists_deeds (steps : List (ChangeSet × Step)) :
    ∃ deeds : List (String × List String), keysOf steps Step.isApplied = deeds.map Prod.fst ∧
      (steps.flatMap fun (_, step) => step.sql) = deeds.flatMap Prod.snd ∧
      (steps.flatMap fun (_, step) => step.sent) = deeds.map fun deed => ⟨true, deed.2⟩ := by
  induction steps with
  | nil => exact ⟨[], rfl, rfl, rfl⟩
  | cons p more ih =>
    obtain ⟨deeds, keys, statements, sent⟩ := ih
    obtain ⟨c, step⟩ := p
    cases step with
    | skipped => exact ⟨deeds, keys, statements, sent⟩
    | markedRan => exact ⟨deeds, keys, statements, sent⟩
    | applied sql =>
      exact ⟨(c.key, sql) :: deeds, congrArg (c.key :: ·) keys, congrArg (sql ++ ·) statements,
        congrArg (Transaction.mk true sql :: ·) sent⟩

theorem carriedOut_updateAll {steps : List (ChangeSet × Step)} {changeSets : List ChangeSet}
    (returned : (m.updateAll false s changeSets).run w = (.ok steps, w')) :
    CarriedOut (m.reportOf false steps).applied (m.reportOf false steps).statements w w' := by
  obtain ⟨deeds, keys, statements, sent⟩ := exists_deeds steps
  exact ⟨deeds, keys, statements, sent ▸ updateAll_sent returned⟩

theorem applied_of_foreseenAll {snapshot : Snapshot} {transactions : List Transaction}
    {changeSets : List ChangeSet} {steps : List (ChangeSet × Step)}
    (unguarded : ∀ c ∈ changeSets, c.guard = none)
    (h : m.foreseenAll snapshot transactions changeSets = .ok steps) :
    changeSets.any snapshot.isObstructed = false ∧
      keysOf steps Step.isApplied = (changeSets.filter snapshot.mustRun).map ChangeSet.key := by
  induction changeSets generalizing steps with
  | nil =>
    cases h
    exact ⟨rfl, rfl⟩
  | cons c rest ih =>
    obtain ⟨step, first, h⟩ := exists_of_bind_eq_ok h
    obtain ⟨more, others, h⟩ := exists_of_bind_eq_ok h
    cases h
    obtain ⟨free_rest, applied_rest⟩ :=
      ih (fun d hd => unguarded d (List.mem_cons_of_mem c hd)) others
    unfold foreseen at first
    split at first
    next => cases first
    next free =>
      rw [List.any_cons, free_rest]
      refine ⟨by simpa using free, ?_⟩
      split at first
      next skipped =>
        have decided : snapshot.mustRun c = false := by simpa using skipped
        cases first
        simpa [keysOf, Step.isApplied, List.filter_cons, decided] using applied_rest
      next due =>
        have decided : snapshot.mustRun c = true := by simpa using due
        rw [unguarded c List.mem_cons_self, passage_none] at first
        cases rendered : m.render c.changes with
        | error e =>
          rw [rendered] at first
          cases first
        | ok sql =>
          rw [rendered] at first
          cases first
          simpa [keysOf, Step.isApplied, List.filter_cons, decided] using applied_rest

end Store

variable {m : Migration} {w w' : World MemoryStore} {report : Report}

def foreseenReport (m : Migration) (w : World MemoryStore) : Except Failure Report :=
  match m.passage m.changeLog.guard w.transactions with
  | .error result => .error (.guard result)
  | .ok .proceed =>
    (m.foreseenAll (w.store.snapshot m.ignoreCase) w.transactions m.changeLog.changeSets).map
      (m.reportOf true)
  | .ok _ => .ok (m.reportOf true (m.changeLog.changeSets.map fun c => (c, .skipped)))

theorem run_update_dry (m : Migration) (w : World MemoryStore) :
    ∃ log, (m.update true).run w = (m.foreseenReport w, { w with log := log }) := by
  obtain ⟨log, opened⟩ := run_opening m true w
  unfold foreseenReport
  rw [update_eq, Action.run_bind, opened]
  cases m.passage m.changeLog.guard w.transactions with
  | error result => exact ⟨log, rfl⟩
  | ok passage =>
    cases passage with
    | skip => exact ⟨_, rfl⟩
    | markRan => exact ⟨_, rfl⟩
    | proceed =>
      obtain ⟨log', row⟩ := run_updateAll_dry m (m.startingSelection w) m.changeLog.changeSets
        { w with log := log }
      dsimp only
      rw [Action.run_bind, row]
      dsimp only [startingSelection]
      cases m.foreseenAll (w.store.snapshot m.ignoreCase) w.transactions m.changeLog.changeSets with
      | error e => exact ⟨log', rfl⟩
      | ok steps => exact ⟨_, rfl⟩

/-- No guard of a changeset that an update visits depends on what the update has executed before. -/
def IsSteady (m : Migration) (w : World MemoryStore) : Prop :=
  ∀ v ∈ m.visits w,
    m.passage v.changeSet.guard v.before.transactions = m.passage v.changeSet.guard w.transactions

theorem foretells_reportOf (m : Migration) (steps : List (ChangeSet × Step)) :
    (m.reportOf true steps).Foretells (m.reportOf false steps) :=
  ⟨rfl, rfl, rfl, rfl, rfl⟩

theorem foretells_of_update (steady : m.IsSteady w)
    (returned : (m.update false).run w = (.ok report, w')) :
    (∃ rehearsed, m.foreseenReport w = .ok rehearsed ∧ rehearsed.Foretells report) ∧
      CarriedOut report.applied report.statements w w' := by
  have course := run_update m w
  unfold IsSteady at steady
  rw [returned] at course
  generalize m.visits w = visits at course steady
  dsimp only at course
  generalize ended : (Except.ok report : Except Failure Report) = result at course
  unfold foreseenReport
  cases course with
  | halted => cases ended
  | @unmet passage _ guard closed _ transactions =>
    cases ended
    rw [guard]
    constructor
    · cases passage with
      | proceed => exact absurd rfl closed
      | skip => exact ⟨_, rfl, foretells_reportOf m _⟩
      | markRan => exact ⟨_, rfl, foretells_reportOf m _⟩
    · refine ⟨[], ?_, ?_, ?_⟩
      · simp [reportOf, Step.isApplied]
      · simp [reportOf, Step.sql]
      · simp [transactions]
  | @visited log steps _ _ guard row _ transactions =>
    cases steps with
    | error e => cases ended
    | ok steps =>
      cases ended
      have foreseen := foreseenAll_of_updateAll row steady
      obtain ⟨deeds, keys, statements, sent⟩ := carriedOut_updateAll row
      rw [guard]
      refine ⟨⟨m.reportOf true steps, ?_, foretells_reportOf m steps⟩, deeds, keys, statements, ?_⟩
      · dsimp only [startingSelection] at foreseen ⊢
        rw [foreseen]
        rfl
      · rw [transactions, sent]

theorem applied_of_foreseenReport (open_log : m.changeLog.guard = none)
    (unguarded : ∀ c ∈ m.changeLog.changeSets, c.guard = none)
    (foreseen : m.foreseenReport w = .ok report) :
    ∃ due, (m.status.run w).1 = .ok due ∧ report.applied = due.map ChangeSet.key := by
  unfold foreseenReport at foreseen
  rw [open_log, passage_none] at foreseen
  cases steps_eq : m.foreseenAll (w.store.snapshot m.ignoreCase) w.transactions
      m.changeLog.changeSets with
  | error e =>
    rw [steps_eq] at foreseen
    cases foreseen
  | ok steps =>
    rw [steps_eq] at foreseen
    cases foreseen
    obtain ⟨free, applied⟩ := applied_of_foreseenAll unguarded steps_eq
    refine ⟨m.changeLog.changeSets.filter (w.store.snapshot m.ignoreCase).mustRun, ?_, applied⟩
    rw [run_status, if_neg (Bool.eq_false_iff.mp free)]

theorem carriedOut_undoAll {plan : List (ChangeSet × Record × List String)}
    (returned : (m.undoAll plan).run w = (.ok (), w')) :
    CarriedOut (plan.map fun (c, _, _) => c.key) (plan.flatMap fun (_, _, sql) => sql) w w' := by
  refine ⟨plan.map fun (c, _, sql) => (c.key, sql), ?_, ?_, ?_⟩
  · simp
  · simp [List.flatMap_map]
  · simp [(undoAll_eq_ok returned).2]

theorem foretells_of_rollback {count : Int}
    (returned : (m.rollback count false).run w = (.ok report, w')) :
    (∃ rehearsed, ((m.rollback count true).run w).1 = .ok rehearsed ∧ rehearsed.Foretells report) ∧
      CarriedOut report.rolledBack report.statements w w' := by
  obtain ⟨unchanged, -⟩ := run_planned m count w
  rw [run_rollback] at returned
  rw [run_rollback_dry]
  generalize (m.planned count).run w = planned at unchanged returned ⊢
  obtain ⟨e | plan, w₁⟩ := planned
  · cases returned
  · cases unchanged
    dsimp only at returned ⊢
    rcases row : (m.undoAll plan).run w₁ with ⟨e | _, w₂⟩
    · rw [row] at returned
      cases returned
    · rw [row] at returned
      cases returned
      exact ⟨⟨_, rfl, rfl, rfl, rfl, rfl, rfl⟩, carriedOut_undoAll row⟩

/-- A dry run touches nothing, and if the run itself returns, the dry run tells beforehand what it
reports: what the engine is sent in one transaction for each changeset, and of an update without
guards that it applies the changesets that have to run. -/
theorem foretells_of_dryRun (m : Migration) (count : Int) (w : World MemoryStore) :
    (((m.update true).run w).2.Alike w ∧
      ∀ report w', m.IsSteady w → (m.update false).run w = (.ok report, w') →
        (∃ rehearsed, ((m.update true).run w).1 = .ok rehearsed ∧ rehearsed.Foretells report) ∧
          CarriedOut report.applied report.statements w w' ∧
          (m.changeLog.guard = none → (∀ c ∈ m.changeLog.changeSets, c.guard = none) →
            ∃ due, (m.status.run w).1 = .ok due ∧ report.applied = due.map ChangeSet.key)) ∧
    ((m.rollback count true).run w).2.Alike w ∧
      ∀ report w', (m.rollback count false).run w = (.ok report, w') →
        (∃ rehearsed, ((m.rollback count true).run w).1 = .ok rehearsed ∧
          rehearsed.Foretells report) ∧
          CarriedOut report.rolledBack report.statements w w' := by
  obtain ⟨log, dry⟩ := run_update_dry m w
  rw [dry]
  refine ⟨⟨(World.Alike.with_log w log).symm, fun report w' steady returned => ?_⟩, ?_,
    fun report w' returned => foretells_of_rollback returned⟩
  · obtain ⟨⟨rehearsed, foreseen, foretells⟩, carried⟩ := foretells_of_update steady returned
    refine ⟨⟨rehearsed, foreseen, foretells⟩, carried, fun open_log unguarded => ?_⟩
    rw [foretells.applied]
    exact applied_of_foreseenReport open_log unguarded foreseen
  · rw [run_rollback_dry, (run_planned m count w).1]
    exact ⟨rfl, rfl⟩

def ordersTable : ChangeSet where
  id := .text "1"
  author := .text "alice"
  path := .text "db/changelog.py"
  runOnChange := .bool true
  changes := [.createTable {
    table := .text "orders"
    schema := .ofDeclared none
    columns := .of [{ name := .text "id", type := .text "INT" }] }]

def ordersElsewhere : ChangeSet where
  id := .text "2"
  author := .text "alice"
  path := .text "db/changelog.py"
  guard :=
    some { policy := { onFail := .markRan }, preconditions := [.check (.dbms (.text "oracle"))] }

def ordersRun : Migration where
  changeLog := { path := .text "db/changelog.py", changeSets := [ordersTable, ordersElsewhere] }
  database := {
    name := "sqlite"
    style := .of (some .sqlite)
    engine := some ({} : EngineScript).engine }
  now := { year := 2024, month := 1, day := 2 }

def ordersRan : World MemoryStore where
  store :=
    { records := [⟨.text "1", .text "alice", .text "db/changelog.py", .null, none, .int 1, .null⟩] }

theorem ordersRun_isSteady : ordersRun.IsSteady ordersRan := by
  intro v hv
  have known := changeSet_mem_of_visits ordersRun hv
  generalize v.changeSet = c at known ⊢
  have either : c = ordersTable ∨ c = ordersElsewhere := by simpa [ordersRun] using known
  rcases either with rfl | rfl
  · rfl
  · rfl

theorem foretells_of_dryRun_orders :
    ordersRun.IsSteady ordersRan ∧
      (∃ report w' rehearsed, (ordersRun.update false).run ordersRan = (.ok report, w') ∧
        ((ordersRun.update true).run ordersRan).1 = .ok rehearsed ∧ rehearsed.Foretells report) ∧
      ∃ report w' rehearsed, (ordersRun.rollback 1 false).run ordersRan = (.ok report, w') ∧
        ((ordersRun.rollback 1 true).run ordersRan).1 = .ok rehearsed ∧
          rehearsed.Foretells report := by
  have updates : ((ordersRun.update false).run ordersRan).1.toBool = true := by decide +kernel
  have rollsBack : ((ordersRun.rollback 1 false).run ordersRan).1.toBool = true := by decide +kernel
  obtain ⟨⟨-, update⟩, -, rollback⟩ := foretells_of_dryRun ordersRun 1 ordersRan
  refine ⟨ordersRun_isSteady, ?_, ?_⟩
  · rcases returned : (ordersRun.update false).run ordersRan with ⟨e | report, w'⟩
    · rw [returned] at updates
      cases updates
    · obtain ⟨⟨rehearsed, dry, foretells⟩, -⟩ := update report w' ordersRun_isSteady returned
      exact ⟨report, w', rehearsed, rfl, dry, foretells⟩
  · rcases returned : (ordersRun.rollback 1 false).run ordersRan with ⟨e | report, w'⟩
    · rw [returned] at rollsBack
      cases rollsBack
    · obtain ⟨⟨rehearsed, dry, foretells⟩, -⟩ := rollback report w' returned
      exact ⟨report, w', rehearsed, rfl, dry, foretells⟩

end Migration

end SchemaMigration
