import SchemaMigration.Proofs.Run.Handling

/-! Updates that fail. The changesets in front of the one that an update fails at are done, as by an
update of these alone; of the changeset itself nothing is left but its checksum, which may have been
written back, and no later one is touched. -/

namespace SchemaMigration

namespace Record

def IsRewriteOf (r old : Record) : Prop := r = { old with checksum := r.checksum }

theorem IsRewriteOf.refl (r : Record) : r.IsRewriteOf r := rfl

theorem IsRewriteOf.trans {r s t : Record} (h : r.IsRewriteOf s) (k : s.IsRewriteOf t) :
    r.IsRewriteOf t := by
  unfold IsRewriteOf at h k ⊢
  rw [h, k]

end Record

namespace Migration

/-- The same run with other changesets in its changelog. -/
def restrictedTo (m : Migration) (changeSets : List ChangeSet) : Migration :=
  { m with changeLog := { m.changeLog with changeSets := changeSets } }

section Store

variable {σ : Type} [HistoryStore σ]

def selectionFrom (m : Migration) : Selection → List ChangeSet → World σ → Option Selection
  | s, [], _ => some s
  | s, c :: rest, w =>
    match (m.updateOne false s c).run w with
    | (.ok (_, s'), w') => m.selectionFrom s' rest w'
    | (.error _, _) => none

def lastSelection (m : Migration) (w : World σ) : Option Selection :=
  match (m.opening false).run w with
  | (.ok (some s), w') => m.selectionFrom s m.changeLog.changeSets w'
  | _ => none

variable {m : Migration} {s : Selection} {changeSets : List ChangeSet} {e : Failure}
  {w w' : World σ}

theorem updateAll_eq_error (failed : (m.updateAll false s changeSets).run w = (.error e, w')) :
    ∃ before c after steps s₁ w₁, changeSets = before ++ c :: after ∧
      (m.updateAll false s before).run w = (.ok steps, w₁) ∧
      m.selectionFrom s before w = some s₁ ∧
      (m.updateOne false s₁ c).run w₁ = (.error e, w') ∧
      m.visitsFrom s changeSets w = m.visitsFrom s before w ++ [⟨c, w₁, .error e, w'⟩] ∧
      (m.visitsFrom s before w).map Visit.changeSet = before := by
  induction changeSets generalizing s w with
  | nil => cases failed
  | cons d rest ih =>
    rcases visited : (m.updateOne false s d).run w with ⟨e' | ⟨step, s'⟩, w₂⟩
    · rw [run_updateAll_error visited] at failed
      cases failed
      exact ⟨[], d, rest, [], s, w, rfl, rfl, rfl, visited, visitsFrom_error visited, rfl⟩
    · rw [run_updateAll_ok visited] at failed
      rcases row : (m.updateAll false s' rest).run w₂ with ⟨e' | more, w₃⟩
      · rw [row] at failed
        cases failed
        obtain ⟨before, c, after, steps, s₁, w₁, rfl, done, selected, failed_at, visits, all⟩ :=
          ih row
        refine ⟨d :: before, c, after, (d, step) :: steps, s₁, w₁, rfl, ?_, ?_, failed_at, ?_, ?_⟩
        · rw [run_updateAll_ok visited, done]
          rfl
        · unfold selectionFrom
          rw [visited]
          exact selected
        · rw [visitsFrom_ok visited, visits, visitsFrom_ok visited]
          rfl
        · rw [visitsFrom_ok visited, List.map_cons, all]
      · rw [row] at failed
        cases failed

end Store

variable {m : Migration} {c : ChangeSet} {s s' : Selection} {step : Step} {e : Failure}
  {w w' : World MemoryStore}

def IsRunOf (m : Migration) (snapshot : Snapshot) (c : ChangeSet) (r : Record) : Prop :=
  ∃ order, r.IsRewriteOf (.ofRun c (c.recordedAs (snapshot.recordedPath c)).path m.now order)

theorem store_of_reconcile (s : Selection) (store : MemoryStore) (c : ChangeSet) :
    (s.reconcile store c).2 = store ∨
      ∃ i, (s.reconcile store c).2 = store.updateChecksum i (.text c.checksum) := by
  unfold Selection.reconcile
  split
  next => exact .inl rfl
  next =>
    split
    next => exact .inl rfl
    next i _ =>
      split
      next => exact .inl rfl
      next => exact .inr ⟨i, rfl⟩

theorem mem_reconcile {store : MemoryStore} {r : Record}
    (hr : r ∈ (s.reconcile store c).2.records) :
    ∃ old ∈ store.records, r.IsRewriteOf old := by
  rcases store_of_reconcile s store c with kept | ⟨i, written⟩
  · rw [kept] at hr
    exact ⟨r, hr, .refl r⟩
  · rw [written] at hr
    obtain ⟨old, old_mem, rfl⟩ := List.mem_map.mp hr
    refine ⟨old, old_mem, ?_⟩
    split
    · rfl
    · rfl

theorem mem_markRan {store store' : MemoryStore} {r : Record}
    (marked : HistoryStore.markRan store m.now c (s.snapshot.recordedPath c) = (.ok (), store'))
    (hr : r ∈ store'.records) : m.IsRunOf s.snapshot c r ∨ r ∈ store.records := by
  obtain ⟨order, rfl⟩ := Snapshot.markRan_eq_ok (markRan_memory_ok marked)
  rcases Snapshot.mem_putRecord hr with rfl | old
  · exact .inl ⟨order, .refl _⟩
  · exact .inr old

theorem Handling.mem_records (h : Handling m s c w (.ok (step, s')) w') {r : Record}
    (hr : r ∈ w'.store.records) :
    (∃ old ∈ w.store.records, r.IsRewriteOf old) ∨
      ((Visit.mk c w (.ok step) w').isCommitted = true ∨
        (Visit.mk c w (.ok step) w').isMarked = true) ∧
        m.IsRunOf s.snapshot c r := by
  obtain ⟨written, w₁, reconciled, transactions, course⟩ := h.eq_ok
  have store₁ : w₁.store = (s.reconcile w.store c).2 := (congrArg Prod.snd reconciled).symm
  rcases course with ⟨-, -, alike⟩ | ⟨-, treatment⟩
  · rw [alike.store, store₁] at hr
    exact .inl (mem_reconcile hr)
  · obtain ⟨sent, ⟨-, -, store⟩ | ⟨rfl, -, marked⟩ | ⟨sql, rfl, -, -, marked⟩⟩ := treatment.eq_ok
    · rw [store, store₁] at hr
      exact .inl (mem_reconcile hr)
    · rcases mem_markRan marked hr with put | old
      · exact .inr ⟨.inr rfl, put⟩
      · exact .inl (mem_reconcile (store₁ ▸ old))
    · have committed : (Visit.mk c w (.ok (.applied sql)) w').isCommitted = true := by
        simp [Visit.isCommitted, Visit.sent, sent, transactions, Step.sent]
      rcases mem_markRan marked hr with put | old
      · exact .inr ⟨.inl committed, put⟩
      · exact .inl (mem_reconcile (store₁ ▸ old))

theorem mem_records_updateAll {changeSets : List ChangeSet} {steps : List (ChangeSet × Step)}
    (returned : (m.updateAll false s changeSets).run w = (.ok steps, w')) {r : Record}
    (hr : r ∈ w'.store.records) :
    (∃ old ∈ w.store.records, r.IsRewriteOf old) ∨
      ∃ v ∈ m.visitsFrom s changeSets w, (v.isCommitted = true ∨ v.isMarked = true) ∧
        m.IsRunOf s.snapshot v.changeSet r := by
  induction changeSets generalizing s w steps r with
  | nil =>
    cases returned
    exact .inl ⟨r, hr, .refl r⟩
  | cons c rest ih =>
    obtain ⟨step, s₁, w₁, more, visited, row, rfl⟩ := run_updateAll_cons_eq_ok returned
    have handling := run_updateOne_handling m s c w
    rw [visited] at handling
    rw [visitsFrom_ok visited]
    rcases ih row hr with ⟨old, old_mem, rewrite⟩ | ⟨v, hv, done, put⟩
    · rcases handling.mem_records old_mem with ⟨first, first_mem, rewrite'⟩ | ⟨done, order, put⟩
      · exact .inl ⟨first, first_mem, rewrite.trans rewrite'⟩
      · exact .inr ⟨_, List.mem_cons_self, done, order, rewrite.trans put⟩
    · rw [handling.snapshot_eq] at put
      exact .inr ⟨v, List.mem_cons_of_mem _ hv, done, put⟩

theorem change_of_render {changes : List Change} (h : m.render changes = .error e) :
    ∃ fault, e = .change fault := by
  unfold render at h
  split at h
  next fault _ =>
    cases h
    exact ⟨fault, rfl⟩
  next statements _ =>
    cases generated : m.registry.generateAll m.database statements with
    | error fault =>
      rw [generated] at h
      cases h
      exact ⟨_, rfl⟩
    | ok sql =>
      rw [generated] at h
      cases h

theorem Treatment.store_of_error {path : Value} (h : Treatment m path c w (.error e) w') :
    w'.store = w.store := by
  cases h with
  | halted _ store _ => exact store
  | unmarked _ store _ => exact markRan_memory_error store
  | unrendered _ _ store _ => exact store
  | unexecuted _ _ execution => exact execution.store_eq
  | unrecorded _ _ execution store _ => exact (markRan_memory_error store).trans execution.store_eq
  | unconfirmed _ render _ _ _ confirmations =>
    -- changes that were rendered were checked, and then they can be reported
    obtain ⟨texts, confirmed⟩ := m.confirmations_of_render render
    rw [confirmations] at confirmed
    cases confirmed

/-- What was sent for a changeset: nothing, or a transaction of SQL that it is rendered to, as far
as that got. -/
def Attempted (m : Migration) (c : ChangeSet) (transactions transactions' : List Transaction) :
    Prop :=
  transactions' = transactions ∨
    ∃ sql t, m.render c.changes = .ok sql ∧ t.statements <+: sql ∧
      transactions' = transactions ++ [t]

theorem Execution.attempted {sql : List String} {result : Except Failure Unit}
    (render : m.render c.changes = .ok sql) (h : Execution m c sql w result w') :
    m.Attempted c w.transactions w'.transactions := by
  cases h with
  | unsent _ _ transactions => exact .inl transactions
  | failed _ sent _ transactions =>
    obtain ⟨_, rfl, thwarts⟩ := Engine.transact_eq_some sent
    exact .inr ⟨_, _, render, thwarts.isPrefix, transactions⟩
  | committed _ sent _ transactions =>
    cases Engine.transact_eq_none sent
    exact .inr ⟨sql, _, render, List.prefix_rfl, transactions⟩

theorem Treatment.attempted {path : Value} {result : Except Failure Step}
    (h : Treatment m path c w result w') : m.Attempted c w.transactions w'.transactions := by
  cases h with
  | halted _ _ transactions => exact .inl transactions
  | heldBack _ _ transactions => exact .inl transactions
  | marked _ _ transactions => exact .inl transactions
  | unmarked _ _ transactions => exact .inl transactions
  | unrendered _ _ _ transactions => exact .inl transactions
  | unexecuted _ render execution => exact execution.attempted render
  | unrecorded _ render execution _ transactions => exact transactions ▸ execution.attempted render
  | unconfirmed _ render execution _ transactions _ =>
    exact transactions ▸ execution.attempted render
  | applied _ render execution _ transactions _ => exact transactions ▸ execution.attempted render

/-- What a changeset leaves behind that failed for a fault of the database: its transaction was
opened in vain, or a statement failed, the last one that was sent, or the commit did. Nothing is
committed. -/
def FailedAt (m : Migration) (c : ChangeSet) (detail : String) (statement : Option String)
    (transactions transactions' : List Transaction) : Prop :=
  ∃ engine sql sent, m.database.engine = some engine ∧ m.render c.changes = .ok sql ∧
    engine.Thwarts transactions sql sent statement (.database detail) ∧
    transactions' = transactions ++ [⟨false, sent⟩]

theorem Treatment.failedAt {path : Value} {key detail : String} {statement : Option String}
    (h : Treatment m path c w (.error (.migration key detail statement)) w') :
    key = c.key ∧ m.FailedAt c detail statement w.transactions w'.transactions := by
  generalize failed : Failure.migration key detail statement = e at h
  cases h with
  | halted => cases failed
  | unmarked => cases failed
  | unrendered _ render =>
    obtain ⟨fault, rfl⟩ := change_of_render render
    cases failed
  | @unexecuted sql _ _ _ render execution =>
    cases execution with
    | unsent => cases failed
    | @failed engine t _ fault _ engine_eq sent _ transactions =>
      obtain ⟨all, rfl, thwarts⟩ := Engine.transact_eq_some sent
      cases fault with
      | database message =>
        cases failed
        exact ⟨rfl, engine, sql, all, engine_eq, render, thwarts, transactions⟩
      | foreign kind message => cases failed
  | unrecorded => cases failed
  | unconfirmed => cases failed

theorem Handling.store_of_error (h : Handling m s c w (.error e) w') :
    w'.store = (s.reconcile w.store c).2 := by
  rcases h.eq_error with ⟨refusal, -, refused, -⟩ | ⟨written, s', w₁, reconciled, -, -, treatment⟩
  · rw [refused]
  · rw [reconciled, treatment.store_of_error]

theorem Handling.attempted (h : Handling m s c w (.error e) w') :
    m.Attempted c w.transactions w'.transactions := by
  rcases h.eq_error with ⟨refusal, -, -, unsent⟩ | ⟨written, s', w₁, -, transactions, -, treatment⟩
  · exact .inl unsent
  · exact transactions ▸ treatment.attempted

theorem Handling.failedAt {key detail : String} {statement : Option String}
    (h : Handling m s c w (.error (.migration key detail statement)) w') :
    key = c.key ∧ m.FailedAt c detail statement w.transactions w'.transactions := by
  rcases h.eq_error with ⟨refusal, other, -⟩ | ⟨written, s', w₁, -, transactions, -, treatment⟩
  · cases other
  · rw [← transactions]
    exact treatment.failedAt

theorem row_restrictedTo (m : Migration) (known changeSets : List ChangeSet) (s : Selection)
    (w : World MemoryStore) :
    ((m.restrictedTo known).updateAll false s changeSets).run w =
        (m.updateAll false s changeSets).run w ∧
      (m.restrictedTo known).selectionFrom s changeSets w = m.selectionFrom s changeSets w ∧
      (m.restrictedTo known).visitsFrom s changeSets w = m.visitsFrom s changeSets w := by
  induction changeSets generalizing s w with
  | nil => exact ⟨rfl, rfl, rfl⟩
  | cons c rest ih =>
    rcases visited : (m.updateOne false s c).run w with ⟨e | ⟨step, s'⟩, w'⟩
    · have visited' : ((m.restrictedTo known).updateOne false s c).run w = (.error e, w') := visited
      rw [run_updateAll_error visited, run_updateAll_error visited', visitsFrom_error visited,
        visitsFrom_error visited']
      simp [selectionFrom, visited, visited']
    · have visited' : ((m.restrictedTo known).updateOne false s c).run w = (.ok (step, s'), w') :=
        visited
      obtain ⟨row, selected, visits⟩ := ih s' w'
      rw [run_updateAll_ok visited, run_updateAll_ok visited', visitsFrom_ok visited,
        visitsFrom_ok visited', row, visits]
      simp [selectionFrom, visited, visited', selected]

theorem update_restrictedTo {before : List ChangeSet} {s₁ : Selection}
    {steps : List (ChangeSet × Step)}
    {w₀ w₁ : World MemoryStore} (opened : (m.opening false).run w = (.ok (some s), w₀))
    (done : (m.updateAll false s before).run w₀ = (.ok steps, w₁))
    (selected : m.selectionFrom s before w₀ = some s₁) :
    (∃ log, ((m.restrictedTo before).update false).run w =
        (.ok (m.reportOf false steps), { w₁ with log := log })) ∧
      (m.restrictedTo before).lastSelection w = some s₁ ∧
      (m.restrictedTo before).visits w = m.visitsFrom s before w₀ := by
  obtain ⟨row, selection, visits⟩ := m.row_restrictedTo before before s w₀
  -- the guard is the same, so the update of the changesets in front opens in the same way
  have opened' : ((m.restrictedTo before).opening false).run w = (.ok (some s), w₀) := opened
  obtain ⟨visits_eq, update_eq⟩ := run_update_of_opening opened'
  refine ⟨update_eq _ w₁ (row.trans done), ?_, visits_eq.trans visits⟩
  unfold lastSelection
  rw [opened']
  exact selection.trans selected

/-- What an update leaves that fails at a changeset, given the world after the changesets in front
of it: the store as it is then, but for a checksum. Each record that the update put is of a
changeset in front. -/
structure InterruptedAt (m : Migration) (before : List ChangeSet) (c : ChangeSet)
    (w w₁ : World MemoryStore) (e : Failure) (w' : World MemoryStore) : Prop where
  visited : (m.visits w).map Visit.changeSet = before ++ [c]
  store : ∃ s, (m.restrictedTo before).lastSelection w = some s ∧
    w'.store = (s.reconcile w₁.store c).2
  records : ∀ r ∈ w'.store.records, (∃ old ∈ w.store.records, r.IsRewriteOf old) ∨
    ∃ v ∈ (m.restrictedTo before).visits w, (v.isCommitted = true ∨ v.isMarked = true) ∧
      m.IsRunOf (w.store.snapshot m.ignoreCase) v.changeSet r
  attempted : m.Attempted c w₁.transactions w'.transactions
  failed : ∀ key detail statement, e = .migration key detail statement →
    key = c.key ∧ m.FailedAt c detail statement w₁.transactions w'.transactions

/-- An update that its guard stops, or that lets nothing pass, touches neither the store nor the
database. An update that fails later does so at one changeset. -/
theorem interruptedAt_of_update (m : Migration) (w : World MemoryStore) :
    (m.passage m.changeLog.guard w.transactions ≠ .ok .proceed →
      ((m.update false).run w).2.Alike w) ∧
      ∀ e w', m.passage m.changeLog.guard w.transactions = .ok .proceed →
        (m.update false).run w = (.error e, w') →
        ∃ before c after report w₁, m.changeLog.changeSets = before ++ c :: after ∧
          ((m.restrictedTo before).update false).run w = (.ok report, w₁) ∧
          m.InterruptedAt before c w w₁ e w' := by
  obtain ⟨log, opened⟩ := run_opening m false w
  constructor
  · intro stopped
    rw [update_eq, Action.run_bind, opened]
    cases guard : m.passage m.changeLog.guard w.transactions with
    | error result => exact ⟨rfl, rfl⟩
    | ok passage =>
      cases passage with
      | proceed => exact absurd guard stopped
      | skip => exact ⟨rfl, rfl⟩
      | markRan => exact ⟨rfl, rfl⟩
  · intro e w' guard failed
    rw [guard] at opened
    obtain ⟨visits_eq, update_eq⟩ := run_update_of_opening opened
    rcases row : (m.updateAll false (m.startingSelection w) m.changeLog.changeSets).run
      { w with log := log } with ⟨e' | steps, w₂⟩
    · obtain ⟨log', ended⟩ := update_eq _ _ row
      rw [failed] at ended
      cases ended
      obtain ⟨before, c, after, steps, s, w₁, split, done, selected, failed_at, visits, all⟩ :=
        updateAll_eq_error row
      have handling := run_updateOne_handling m s c w₁
      rw [failed_at] at handling
      have store := handling.store_of_error
      obtain ⟨⟨log₁, returned⟩, last, visits_front⟩ := update_restrictedTo opened done selected
      refine ⟨before, c, after, _, _, split, returned, ?_, ⟨s, last, store⟩, ?_,
        handling.attempted, ?_⟩
      · rw [visits_eq, visits, List.map_append, all]
        rfl
      · intro r hr
        dsimp only at hr store
        rw [store] at hr
        obtain ⟨old, old_mem, rewrite⟩ := mem_reconcile hr
        rw [visits_front]
        rcases mem_records_updateAll done old_mem with
          ⟨first, first_mem, rewrite'⟩ | ⟨v, hv, ran, order, put⟩
        · exact .inl ⟨first, first_mem, rewrite.trans rewrite'⟩
        · exact .inr ⟨v, hv, ran, order, rewrite.trans put⟩
      · rintro key detail statement rfl
        exact handling.failedAt
    · obtain ⟨log', ended⟩ := update_eq _ _ row
      rw [failed] at ended
      cases ended

def tableSet (id table : String) : ChangeSet where
  id := .text id
  author := .text "alice"
  path := .text "db/changelog.py"
  changes := [.createTable {
    table := .text table
    schema := .ofDeclared none
    columns := .of [{ name := .text "id", type := .text "INT" }] }]

def accountsRun : Migration where
  changeLog := {
    path := .text "db/changelog.py"
    changeSets := [tableSet "1" "customers", tableSet "2" "accounts", tableSet "3" "orders"] }
  database := {
    name := "sqlite"
    style := .of (some .sqlite)
    engine := some ({ faults := [("accounts", .database "table accounts already exists")] } :
      EngineScript).engine }
  now := { year := 2024, month := 1, day := 2 }

def accountsElsewhere : Migration :=
  { accountsRun with
    changeLog := { accountsRun.changeLog with
      guard := some {
        policy := { onFail := .retry }
        preconditions := [.check (.dbms (.text "oracle"))] } } }

def accountsOn (engine : Engine) : Migration :=
  { accountsRun with database := { accountsRun.database with engine := some engine } }

/-- Engines that refuse a statement, to begin and to commit, with the failure and the transactions
that an update ends with. -/
def accountsFaults : List (Engine × String × List Transaction) :=
  [(({ faults := [("accounts", .database "table accounts already exists")] } : EngineScript).engine,
      "Migration failed for changeset db/changelog.py::2::alice: table accounts already exists\n" ++
        "  SQL: CREATE TABLE accounts (id INTEGER)",
      [⟨true, ["CREATE TABLE customers (id INTEGER)"]⟩,
        ⟨false, ["CREATE TABLE accounts (id INTEGER)"]⟩]),
    ({ ({} : EngineScript).engine with openFault? := fun _ => some (.database "no connection") },
      "Migration failed for changeset db/changelog.py::1::alice: no connection", [⟨false, []⟩]),
    ({ ({} : EngineScript).engine with commitFault? := fun _ _ => some (.database "disk full") },
      "Migration failed for changeset db/changelog.py::1::alice: disk full\n" ++
        "  SQL: CREATE TABLE customers (id INTEGER)",
      [⟨false, ["CREATE TABLE customers (id INTEGER)"]⟩])]

theorem interruptedAt_of_update_accounts :
    ((accountsElsewhere.update false).run (⟨{}, [], []⟩ : World MemoryStore)).2.Alike ⟨{}, [], []⟩ ∧
      ∀ f ∈ accountsFaults, ∃ e w',
        ((accountsOn f.1).update false).run (⟨{}, [], []⟩ : World MemoryStore) = (.error e, w') ∧
        e.message = f.2.1 ∧ w'.transactions = f.2.2 ∧
        ∃ before c after report w₁, (accountsOn f.1).changeLog.changeSets = before ++ c :: after ∧
          (((accountsOn f.1).restrictedTo before).update false).run ⟨{}, [], []⟩ =
            (.ok report, w₁) ∧
          (accountsOn f.1).InterruptedAt before c ⟨{}, [], []⟩ w₁ e w' := by
  constructor
  · have held : accountsElsewhere.passage accountsElsewhere.changeLog.guard [] = .ok .skip := rfl
    apply (interruptedAt_of_update accountsElsewhere ⟨{}, [], []⟩).1
    rw [held]
    nofun
  · intro f hf
    have messages : ∀ f ∈ accountsFaults, ((((accountsOn f.1).update false).run
        (⟨{}, [], []⟩ : World MemoryStore)).1.mapError Failure.message).map (fun _ => ()) =
          .error f.2.1 := by
      decide +kernel
    have all_sent : ∀ f ∈ accountsFaults, (((accountsOn f.1).update false).run
        (⟨{}, [], []⟩ : World MemoryStore)).2.transactions = f.2.2 := by
      decide +kernel
    have message := messages f hf
    have sent := all_sent f hf
    rcases failed : ((accountsOn f.1).update false).run (⟨{}, [], []⟩ : World MemoryStore)
      with ⟨e | report, w'⟩
    · rw [failed] at message sent
      exact ⟨e, w', rfl, Except.error.inj message, sent,
        (interruptedAt_of_update (accountsOn f.1) ⟨{}, [], []⟩).2 e w' rfl failed⟩
    · rw [failed] at message
      cases message

end Migration

end SchemaMigration
