import SchemaMigration.History.Table
import SchemaMigration.Migration

/-! What the update of a changeset that has to run can do, all of it: with which result it ends,
what the engine was sent, and what the store was asked for. The logs of the worlds before and after
are left open. -/

namespace SchemaMigration

/-- A store apart from the database that a run works on: neither sees what the other does. -/
class DetachedStore (σ : Type) [HistoryStore σ] : Prop where
  follow_eq (store : σ) (t : Transaction) : HistoryStore.follow store t = store
  view_eq (store : σ) (engine : Engine) (log : List Transaction) :
    HistoryStore.view store engine log = (engine, log)

instance : DetachedStore MemoryStore where
  follow_eq _ _ := rfl
  view_eq _ _ _ := rfl

instance : DetachedStore TableStore where
  follow_eq _ _ := rfl
  view_eq _ _ _ := rfl

instance {σ : Type} [HistoryStore σ] [DetachedStore σ] : DetachedStore (FaultyStore σ) where
  follow_eq f t :=
    congrArg (fun store => FaultyStore.mk store f.fault?) (DetachedStore.follow_eq f.store t)
  view_eq f engine log := DetachedStore.view_eq f.store engine log

theorem World.view_detached {σ : Type} [HistoryStore σ] [DetachedStore σ] (db : Database)
    (w : World σ) : w.view db = (db, w.transactions) := by
  cases db with
  | mk name style schema engine =>
    cases engine with
    | none => rfl
    | some engine => simp [World.view, DetachedStore.view_eq]

namespace Action

variable {σ α : Type} {operation : σ → Except StoreError α × σ} {w : World σ} {store : σ}

theorem run_onStore_ok {a : α} (h : operation w.store = (.ok a, store)) :
    (onStore operation).run w = (.ok a, { w with store := store }) := by
  rw [run_onStore, h]
  rfl

theorem run_onStore_error {e : StoreError} (h : operation w.store = (.error e, store)) :
    (onStore operation).run w = (.error (.store e), { w with store := store }) := by
  rw [run_onStore, h]
  rfl

end Action

theorem Engine.sendFrom_eq_none {engine : Engine} {log : List Transaction}
    {sent sql all : List String}
    (h : engine.sendFrom log sent sql = (all, none)) : all = sent ++ sql := by
  induction sql generalizing sent with
  | nil =>
    cases h
    simp
  | cons statement rest ih =>
    unfold sendFrom at h
    cases failed : engine.fault? log sent statement with
    | some fault => simp [failed] at h
    | none =>
      have sent_rest : all = sent ++ [statement] ++ rest := ih (by simpa [failed] using h)
      simpa using sent_rest

theorem Engine.sendFrom_eq_some {engine : Engine} {log : List Transaction}
    {sent sql all : List String} {statement : String} {fault : EngineFault}
    (h : engine.sendFrom log sent sql = (all, some (statement, fault))) :
    ∃ front rest, sql = front ++ statement :: rest ∧ all = sent ++ front ++ [statement] ∧
      engine.sendFrom log sent front = (sent ++ front, none) ∧
      engine.fault? log (sent ++ front) statement = some fault := by
  induction sql generalizing sent with
  | nil => cases h
  | cons first rest ih =>
    unfold sendFrom at h
    cases failed : engine.fault? log sent first with
    | some found =>
      simp only [failed, Prod.mk.injEq, Option.some.injEq] at h
      obtain ⟨rfl, rfl, rfl⟩ := h
      exact ⟨[], rest, rfl, by simp, by simp [sendFrom], by simpa using failed⟩
    | none =>
      obtain ⟨front, unsent, rfl, sent_eq, accepted, failing⟩ := ih (by simpa [failed] using h)
      refine ⟨first :: front, unsent, rfl, by simpa using sent_eq, ?_, by simpa using failing⟩
      simpa [sendFrom, failed] using accepted

/-- How a fault keeps a transaction from being committed, with what is sent of its statements and
the last one sent. All statements before the fault are accepted. -/
inductive Engine.Thwarts (engine : Engine) (log : List Transaction) (sql : List String) :
    List String → Option String → EngineFault → Prop
  | opening {fault : EngineFault} (refused : engine.openFault? log = some fault) :
      Thwarts engine log sql [] none fault
  | statement {front rest : List String} {failing : String} {fault : EngineFault}
      (opened : engine.openFault? log = none) (split : sql = front ++ failing :: rest)
      (accepted : engine.sendFrom log [] front = (front, none))
      (refused : engine.fault? log front failing = some fault) :
      Thwarts engine log sql (front ++ [failing]) (some failing) fault
  | commit {fault : EngineFault} (opened : engine.openFault? log = none)
      (accepted : engine.sendFrom log [] sql = (sql, none))
      (refused : engine.commitFault? log sql = some fault) :
      Thwarts engine log sql sql sql.getLast? fault

theorem Engine.Thwarts.isPrefix {engine : Engine} {log : List Transaction} {sql sent : List String}
    {statement : Option String} {fault : EngineFault}
    (h : engine.Thwarts log sql sent statement fault) : sent <+: sql := by
  cases h with
  | opening => exact List.nil_prefix
  | @statement front rest failing _ _ split => exact ⟨rest, by simp [split]⟩
  | commit => exact List.prefix_rfl

theorem Engine.transact_eq_none {engine : Engine} {log : List Transaction} {sql : List String}
    {t : Transaction} (h : engine.transact log sql = (t, none)) : t = ⟨true, sql⟩ := by
  unfold transact at h
  split at h
  next => cases h
  next =>
    split at h
    next => cases h
    next sent all_sent =>
      split at h
      next => cases h
      next =>
        cases h
        simp [sendFrom_eq_none all_sent]

theorem Engine.transact_eq_some {engine : Engine} {log : List Transaction} {sql : List String}
    {t : Transaction} {statement : Option String} {fault : EngineFault}
    (h : engine.transact log sql = (t, some (statement, fault))) :
    ∃ sent, t = ⟨false, sent⟩ ∧ engine.Thwarts log sql sent statement fault := by
  unfold transact at h
  split at h
  next refused =>
    cases h
    exact ⟨[], rfl, .opening refused⟩
  next opened =>
    split at h
    next failed =>
      cases h
      obtain ⟨front, rest, split, rfl, accepted, refused⟩ := sendFrom_eq_some failed
      exact ⟨_, rfl, .statement opened split accepted refused⟩
    next sent all_sent =>
      split at h
      next refused =>
        cases h
        obtain rfl : sent = sql := sendFrom_eq_none all_sent
        exact ⟨_, rfl, .commit opened all_sent refused⟩
      next => cases h

namespace Migration

variable {σ : Type} [HistoryStore σ]

/-- How a guard lets a changeset pass after some transactions; without a guard it goes on. -/
def passage (m : Migration) (guard : Option Guard) (transactions : List Transaction) :
    Except CheckResult Passage :=
  match guard with
  | none => .ok .proceed
  | some g => (g.run ⟨m.database, transactions, some m.changeLog.path⟩).1

@[simp] theorem passage_none (m : Migration) (transactions : List Transaction) :
    m.passage none transactions = .ok .proceed := rfl

theorem run_pass [DetachedStore σ] (m : Migration) (guard : Option Guard) (w : World σ) :
    ∃ log, (m.pass guard).run w =
      ((m.passage guard w.transactions).mapError .guard, { w with log := log }) := by
  cases guard with
  | none => exact ⟨w.log, rfl⟩
  | some g =>
    refine ⟨w.log ++ (g.run ⟨m.database, w.transactions, some m.changeLog.path⟩).2, ?_⟩
    unfold pass passage
    rw [Action.run_bind, Action.run_observe]
    dsimp only
    rw [World.view_detached]
    dsimp only
    -- what the guard says does not matter, and is not to be computed
    generalize g.run _ = result
    rfl

inductive Execution (m : Migration) (c : ChangeSet) (sql : List String) (w : World σ) :
    Except Failure Unit → World σ → Prop
  | unsent {w' : World σ} (engine : m.database.engine = none) (store : w'.store = w.store)
      (transactions : w'.transactions = w.transactions) :
      Execution m c sql w (.error (.noEngine c.key)) w'
  | failed {engine : Engine} {t : Transaction} {statement : Option String} {fault : EngineFault}
      {w' : World σ} (engine_eq : m.database.engine = some engine)
      (sent : engine.transact w.transactions sql = (t, some (statement, fault)))
      (store : w'.store = w.store) (transactions : w'.transactions = w.transactions ++ [t]) :
      Execution m c sql w (.error (faultOf c statement fault)) w'
  | committed {engine : Engine} {t : Transaction} {w' : World σ}
      (engine_eq : m.database.engine = some engine)
      (sent : engine.transact w.transactions sql = (t, none))
      (store : w'.store = w.store) (transactions : w'.transactions = w.transactions ++ [t]) :
      Execution m c sql w (.ok ()) w'

theorem run_execute_of_engine {m : Migration} {w : World σ} {database : Database} {engine : Engine}
    {log : List Transaction} (view : w.view m.database = (database, log))
    (engine_eq : database.engine = some engine) (c : ChangeSet) (sql : List String) :
    ∃ lines, (m.execute c sql).run w =
      ((match (engine.transact log sql).2 with
        | none => .ok ()
        | some (statement, fault) => .error (faultOf c statement fault)),
        { store := HistoryStore.follow w.store (engine.transact log sql).1
          transactions := w.transactions ++ [(engine.transact log sql).1]
          log := w.log ++ lines }) := by
  unfold execute
  rw [Action.run_bind, Action.run_observe, view]
  dsimp only
  rw [engine_eq]
  dsimp only
  rw [Action.run_bind, Action.run_record]
  rcases engine.transact log sql with ⟨t, _ | ⟨statement, fault⟩⟩
  · exact ⟨[], by simp⟩
  · exact ⟨_, rfl⟩

theorem run_execute_of_none {m : Migration} {w : World σ}
    (engine_eq : (w.view m.database).1.engine = none) (c : ChangeSet) (sql : List String) :
    (m.execute c sql).run w = (.error (.noEngine c.key), w) := by
  unfold execute
  rw [Action.run_bind, Action.run_observe]
  rcases view : w.view m.database with ⟨database, log⟩
  rw [view] at engine_eq
  dsimp only at engine_eq ⊢
  rw [engine_eq]
  rfl

theorem run_execute [DetachedStore σ] (m : Migration) (c : ChangeSet) (sql : List String)
    (w : World σ) :
    Execution m c sql w ((m.execute c sql).run w).1 ((m.execute c sql).run w).2 := by
  have view := w.view_detached m.database
  cases engine_eq : m.database.engine with
  | none =>
    rw [run_execute_of_none (by rwa [view])]
    exact .unsent engine_eq rfl rfl
  | some engine =>
    obtain ⟨lines, run⟩ := run_execute_of_engine view engine_eq c sql
    rw [run]
    rcases sent : engine.transact w.transactions sql with ⟨t, _ | ⟨statement, fault⟩⟩
    · exact .committed engine_eq sent (DetachedStore.follow_eq _ _) rfl
    · exact .failed engine_eq sent (DetachedStore.follow_eq _ _) rfl

omit [HistoryStore σ] in
theorem Execution.ignore_log {m : Migration} {c : ChangeSet} {sql : List String} {w w' : World σ}
    {log : List LogLine} {result : Except Failure Unit}
    (h : Execution m c sql { w with log := log } result w') : Execution m c sql w result w' := by
  cases h with
  | unsent engine store transactions => exact .unsent engine store transactions
  | failed engine sent store transactions => exact .failed engine sent store transactions
  | committed engine sent store transactions => exact .committed engine sent store transactions

/-- Everything that the update of a changeset can do once it is decided that it has to run. -/
inductive Treatment (m : Migration) (path : Value) (c : ChangeSet) (w : World σ) :
    Except Failure Step → World σ → Prop
  | halted {result : CheckResult} {w' : World σ}
      (guard : m.passage c.guard w.transactions = .error result)
      (store : w'.store = w.store) (transactions : w'.transactions = w.transactions) :
      Treatment m path c w (.error (.guard result)) w'
  | heldBack {w' : World σ} (guard : m.passage c.guard w.transactions = .ok .skip)
      (store : w'.store = w.store) (transactions : w'.transactions = w.transactions) :
      Treatment m path c w (.ok .skipped) w'
  | marked {w' : World σ} (guard : m.passage c.guard w.transactions = .ok .markRan)
      (store : HistoryStore.markRan w.store m.now c path = (.ok (), w'.store))
      (transactions : w'.transactions = w.transactions) :
      Treatment m path c w (.ok .markedRan) w'
  | unmarked {e : StoreError} {w' : World σ}
      (guard : m.passage c.guard w.transactions = .ok .markRan)
      (store : HistoryStore.markRan w.store m.now c path = (.error e, w'.store))
      (transactions : w'.transactions = w.transactions) :
      Treatment m path c w (.error (.store e)) w'
  | unrendered {e : Failure} {w' : World σ}
      (guard : m.passage c.guard w.transactions = .ok .proceed)
      (render : m.render c.changes = .error e)
      (store : w'.store = w.store) (transactions : w'.transactions = w.transactions) :
      Treatment m path c w (.error e) w'
  | unexecuted {sql : List String} {e : Failure} {w' : World σ}
      (guard : m.passage c.guard w.transactions = .ok .proceed)
      (render : m.render c.changes = .ok sql) (execution : Execution m c sql w (.error e) w') :
      Treatment m path c w (.error e) w'
  | unrecorded {sql : List String} {e : StoreError} {w₁ w' : World σ}
      (guard : m.passage c.guard w.transactions = .ok .proceed)
      (render : m.render c.changes = .ok sql) (execution : Execution m c sql w (.ok ()) w₁)
      (store : HistoryStore.markRan w₁.store m.now c path = (.error e, w'.store))
      (transactions : w'.transactions = w₁.transactions) :
      Treatment m path c w (.error (.store e)) w'
  | unconfirmed {sql : List String} {e : ChangeError} {w₁ w' : World σ}
      (guard : m.passage c.guard w.transactions = .ok .proceed)
      (render : m.render c.changes = .ok sql) (execution : Execution m c sql w (.ok ()) w₁)
      (store : HistoryStore.markRan w₁.store m.now c path = (.ok (), w'.store))
      (transactions : w'.transactions = w₁.transactions)
      (confirmations : c.confirmations = .error e) :
      Treatment m path c w (.error (.change e)) w'
  | applied {sql texts : List String} {w₁ w' : World σ}
      (guard : m.passage c.guard w.transactions = .ok .proceed)
      (render : m.render c.changes = .ok sql) (execution : Execution m c sql w (.ok ()) w₁)
      (store : HistoryStore.markRan w₁.store m.now c path = (.ok (), w'.store))
      (transactions : w'.transactions = w₁.transactions)
      (confirmations : c.confirmations = .ok texts) :
      Treatment m path c w (.ok (.applied sql)) w'

theorem run_proceed [DetachedStore σ] (m : Migration) (path : Value) (c : ChangeSet) (w : World σ)
    (log : List LogLine) (guard : m.passage c.guard w.transactions = .ok .proceed)
    {sql : List String}
    (render : m.render c.changes = .ok sql) {result : Except Failure Step} {w' : World σ}
    (run : (do
      m.execute c sql
      m.markRan c path
      let texts ← Action.ofExcept (c.confirmations.mapError .change)
      Action.writeLog (texts.map fun text => ⟨.info, c.key ++ ": " ++ text⟩)
      return Step.applied sql : Action σ Step).run { w with log := log } = (result, w')) :
    Treatment m path c w result w' := by
  have execution := (run_execute m c sql { w with log := log }).ignore_log
  rw [Action.run_bind] at run
  rcases executed : (m.execute c sql).run { w with log := log } with ⟨e | _, w₁⟩
  · rw [executed] at run execution
    cases run
    exact .unexecuted guard render execution
  · rw [executed] at run execution
    simp only [markRan, Action.run_bind, Action.run_onStore, Action.run_ofExcept] at run
    rcases marked : HistoryStore.markRan w₁.store m.now c path with ⟨e | _, store⟩
    · rw [marked] at run
      cases run
      exact .unrecorded guard render execution marked rfl
    · rw [marked] at run
      cases confirmations : c.confirmations with
      | error e =>
        rw [confirmations] at run
        cases run
        exact .unconfirmed guard render execution marked rfl confirmations
      | ok texts =>
        rw [confirmations] at run
        cases run
        exact .applied guard render execution marked rfl confirmations

theorem run_applyOne [DetachedStore σ] (m : Migration) (path : Value) (c : ChangeSet)
    (w : World σ) :
    Treatment m path c w ((m.applyOne false path c).run w).1
      ((m.applyOne false path c).run w).2 := by
  obtain ⟨log, passed⟩ := run_pass m c.guard w
  simp only [applyOne, Action.run_bind, passed]
  cases guard : m.passage c.guard w.transactions with
  | error result => exact .halted guard rfl rfl
  | ok passage =>
    cases passage with
    | skip => exact .heldBack guard rfl rfl
    | markRan =>
      change Treatment m path c w
        ((do m.markRan c path; return .markedRan : Action σ Step).run { w with log := log }).1
        ((do m.markRan c path; return .markedRan : Action σ Step).run { w with log := log }).2
      unfold markRan
      rw [Action.run_bind]
      rcases marked : HistoryStore.markRan w.store m.now c path with ⟨e | _, store⟩
      · rw [Action.run_onStore_error marked]
        exact .unmarked guard marked rfl
      · rw [Action.run_onStore_ok marked]
        exact .marked guard marked rfl
    | proceed =>
      cases render : m.render c.changes with
      | error e => exact .unrendered guard render rfl rfl
      | ok sql => exact run_proceed m path c w log guard render rfl

end Migration

end SchemaMigration
