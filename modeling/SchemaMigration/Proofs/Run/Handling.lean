import SchemaMigration.Proofs.Change.Confirmation
import SchemaMigration.Proofs.Run.Visit

namespace SchemaMigration

variable {σ : Type} [HistoryStore σ]

namespace Selection

variable {s s' : Selection} {c : ChangeSet} {store store' : σ} {written : Bool}

theorem reconcile_eq_ok (h : s.reconcile store c = (.ok (written, s'), store')) :
    s.snapshot.isObstructed c = false ∧
      (s.toReconcile? c = none ∧ s' = s ∧ store' = store ∨
        ∃ i, s.toReconcile? c = some i ∧ s' =
          { s with reconciled := (i, c.checksum) :: s.reconciled } ∧
          HistoryStore.updateChecksum store i (.text c.checksum) = (.ok (), store')) := by
  unfold reconcile at h
  split at h
  next => cases h
  next free =>
    refine ⟨by simpa using free, ?_⟩
    split at h
    next current =>
      cases h
      exact .inl ⟨current, rfl, rfl⟩
    next i due =>
      split at h
      next => cases h
      next =>
        split at h
        next => cases h
        next done =>
          cases h
          exact .inr ⟨i, due, rfl, done⟩

theorem reconcile_eq_error {e : StoreError} (h : s.reconcile store c = (.error e, store')) :
    store' = store ∨
      ∃ i, HistoryStore.updateChecksum store i (.text c.checksum) = (.error e, store') := by
  unfold reconcile at h
  split at h
  next =>
    cases h
    exact .inl rfl
  next =>
    split at h
    next => cases h
    next i _ =>
      split at h
      next =>
        cases h
        exact .inl rfl
      next =>
        split at h
        next refused =>
          cases h
          exact .inr ⟨i, refused⟩
        next => cases h

theorem snapshot_of_reconcile (h : s.reconcile store c = (.ok (written, s'), store')) :
    s'.snapshot = s.snapshot := by
  obtain ⟨-, ⟨-, rfl, -⟩ | ⟨i, -, rfl, -⟩⟩ := reconcile_eq_ok h
  · rfl
  · rfl

theorem store_of_reconcile {result : Except StoreError (Bool × Selection)}
    (h : s.reconcile store c = (result, store')) :
    store' = store ∨ ∃ i checksum, store' = (HistoryStore.updateChecksum store i checksum).2 := by
  cases result with
  | error e =>
    rcases reconcile_eq_error h with rfl | ⟨i, refused⟩
    · exact .inl rfl
    · exact .inr ⟨i, _, (congrArg Prod.snd refused).symm⟩
  | ok done =>
    obtain ⟨-, ⟨-, -, rfl⟩ | ⟨i, -, -, written⟩⟩ := reconcile_eq_ok h
    · exact .inl rfl
    · exact .inr ⟨i, _, (congrArg Prod.snd written).symm⟩

end Selection

namespace Migration

variable {m : Migration} {s s' : Selection} {c : ChangeSet} {w w' : World σ}

def Step.sent : Step → List Transaction
  | .applied sql => [⟨true, sql⟩]
  | _ => []

omit [HistoryStore σ] in
theorem Execution.transactions_eq {sql : List String} (h : Execution m c sql w (.ok ()) w') :
    w'.store = w.store ∧ w'.transactions = w.transactions ++ [⟨true, sql⟩] := by
  cases h with
  | committed _ sent store transactions =>
    cases Engine.transact_eq_none sent
    exact ⟨store, transactions⟩

theorem Treatment.eq_ok {path : Value} {step : Step} (h : Treatment m path c w (.ok step) w') :
    w'.transactions = w.transactions ++ step.sent ∧
      (step = .skipped ∧ m.passage c.guard w.transactions = .ok .skip ∧ w'.store = w.store ∨
        step = .markedRan ∧ m.passage c.guard w.transactions = .ok .markRan ∧
          HistoryStore.markRan w.store m.now c path = (.ok (), w'.store) ∨
        ∃ sql, step = .applied sql ∧ m.passage c.guard w.transactions = .ok .proceed ∧
          m.render c.changes = .ok sql ∧
          HistoryStore.markRan w.store m.now c path = (.ok (), w'.store)) := by
  cases h with
  | heldBack guard store transactions =>
    exact ⟨by simpa [Step.sent] using transactions, .inl ⟨rfl, guard, store⟩⟩
  | marked guard store transactions =>
    exact ⟨by simpa [Step.sent] using transactions, .inr (.inl ⟨rfl, guard, store⟩)⟩
  | @applied sql _ _ _ guard render execution store transactions _ =>
    obtain ⟨same, sent⟩ := execution.transactions_eq
    rw [same] at store
    exact ⟨transactions.trans sent, .inr (.inr ⟨sql, rfl, guard, render, store⟩)⟩

inductive Handling (m : Migration) (s : Selection) (c : ChangeSet) (w : World σ) :
    Except Failure (Step × Selection) → World σ → Prop
  | refused {e : StoreError} {w' : World σ}
      (reconciled : s.reconcile w.store c = (.error e, w'.store))
      (transactions : w'.transactions = w.transactions) :
      Handling m s c w (.error (.store e)) w'
  | skipped {written : Bool} {s' : Selection} {w' : World σ}
      (reconciled : s.reconcile w.store c = (.ok (written, s'), w'.store))
      (decided : s.snapshot.mustRun c = false) (transactions : w'.transactions = w.transactions) :
      Handling m s c w (.ok (.skipped, s')) w'
  | treated {written : Bool} {s' : Selection} {result : Except Failure Step} {w₁ w' : World σ}
      (reconciled : s.reconcile w.store c = (.ok (written, s'), w₁.store))
      (decided : s.snapshot.mustRun c = true) (transactions : w₁.transactions = w.transactions)
      (treatment : Treatment m (s.snapshot.recordedPath c) c w₁ result w') :
      Handling m s c w (result.map fun step => (step, s')) w'

theorem Handling.eq_ok {step : Step} (h : Handling m s c w (.ok (step, s')) w') :
    ∃ (written : Bool) (w₁ : World σ), s.reconcile w.store c = (.ok (written, s'), w₁.store) ∧
      w₁.transactions = w.transactions ∧
      (s.snapshot.mustRun c = false ∧ step = .skipped ∧ w'.Alike w₁ ∨
        s.snapshot.mustRun c = true ∧ Treatment m (s.snapshot.recordedPath c) c w₁
          (.ok step) w') := by
  generalize done : (Except.ok (step, s') : Except Failure (Step × Selection)) = result at h
  cases h with
  | refused => cases done
  | @skipped written _ _ reconciled decided transactions =>
    cases done
    exact ⟨written, w', reconciled, transactions, .inl ⟨decided, rfl, rfl, rfl⟩⟩
  | @treated written _ outcome w₁ _ reconciled decided transactions treatment =>
    cases outcome with
    | error e => cases done
    | ok step =>
      cases done
      exact ⟨written, w₁, reconciled, transactions, .inr ⟨decided, treatment⟩⟩

theorem Handling.snapshot_eq {step : Step} (h : Handling m s c w (.ok (step, s')) w') :
    s'.snapshot = s.snapshot := by
  obtain ⟨_, _, reconciled, -⟩ := h.eq_ok
  exact Selection.snapshot_of_reconcile reconciled

theorem Handling.eq_error {e : Failure} (h : Handling m s c w (.error e) w') :
    (∃ refusal, e = .store refusal ∧ s.reconcile w.store c = (.error refusal, w'.store) ∧
        w'.transactions = w.transactions) ∨
      ∃ (written : Bool) (s' : Selection) (w₁ : World σ),
        s.reconcile w.store c = (.ok (written, s'), w₁.store) ∧ w₁.transactions = w.transactions ∧
        s.snapshot.mustRun c = true ∧ Treatment m (s.snapshot.recordedPath c) c w₁
          (.error e) w' := by
  generalize failed : (Except.error e : Except Failure (Step × Selection)) = result at h
  cases h with
  | refused reconciled transactions =>
    cases failed
    exact .inl ⟨_, rfl, reconciled, transactions⟩
  | skipped => cases failed
  | @treated written s₁ outcome w₁ _ reconciled decided transactions treatment =>
    cases outcome with
    | error e =>
      cases failed
      exact .inr ⟨written, s₁, w₁, reconciled, transactions, decided, treatment⟩
    | ok step => cases failed

theorem run_updateOne_handling [DetachedStore σ] (m : Migration) (s : Selection) (c : ChangeSet)
    (w : World σ) :
    Handling m s c w ((m.updateOne false s c).run w).1 ((m.updateOne false s c).run w).2 := by
  unfold updateOne
  simp only [Bool.false_eq_true, if_false, Action.run_bind, reconcile]
  rcases reconciled : s.reconcile w.store c with ⟨e | ⟨written, s'⟩, store⟩
  · rw [Action.run_onStore_error reconciled]
    exact .refused reconciled rfl
  · have free := (Selection.reconcile_eq_ok reconciled).1
    have same := Selection.snapshot_of_reconcile reconciled
    rw [Action.run_onStore_ok reconciled]
    simp only [Action.run_pure, same, free, Bool.false_eq_true, if_false]
    cases decided : s.snapshot.mustRun c with
    | false => exact .skipped reconciled decided rfl
    | true =>
      simp only [Bool.not_true, Bool.false_eq_true, if_false, Action.run_bind]
      have written_back : s.reconcile w.store c =
          (.ok (written, s'), ({ w with store := store } : World σ).store) := reconciled
      have treatment := run_applyOne m (s.snapshot.recordedPath c) c { w with store := store }
      have path_eq : ((s.snapshot.find? c).map Record.path).getD .null =
        s.snapshot.recordedPath c := rfl
      rw [path_eq]
      generalize (m.applyOne false (s.snapshot.recordedPath c) c).run { w with store := store } =
        treated
        at treatment ⊢
      obtain ⟨e | step, w'⟩ := treated
      · exact .treated written_back decided rfl treatment
      · exact .treated written_back decided rfl treatment

inductive Effect (m : Migration) (path : Value) (c : ChangeSet) (w : World σ) :
    Except Failure Step → World σ → Prop
  | unsent {result : Except Failure Step} {w' : World σ}
      (store : w'.store = w.store ∨ ∃ done, HistoryStore.markRan w.store m.now c path =
        (done, w'.store))
      (transactions : w'.transactions = w.transactions) : Effect m path c w result w'
  | thwarted {e : Failure} {sent : List String} {w' : World σ}
      (store : w'.store = HistoryStore.follow w.store ⟨false, sent⟩)
      (transactions : w'.transactions = w.transactions ++ [⟨false, sent⟩]) :
      Effect m path c w (.error e) w'
  | recorded {sql : List String} {w' : World σ}
      (marked : HistoryStore.markRan (HistoryStore.follow w.store ⟨true, sql⟩) m.now c path =
        (.ok (), w'.store))
      (transactions : w'.transactions = w.transactions ++ [⟨true, sql⟩]) :
      Effect m path c w (.ok (.applied sql)) w'
  | unrecorded {sql : List String} {e : StoreError} {w' : World σ}
      (marked : HistoryStore.markRan (HistoryStore.follow w.store ⟨true, sql⟩) m.now c path =
        (.error e, w'.store))
      (transactions : w'.transactions = w.transactions ++ [⟨true, sql⟩]) :
      Effect m path c w (.error (.store e)) w'

/-- A visit on any store: the checksum is written back, and a changeset that has to run is
treated. -/
inductive Dealing (m : Migration) (s : Selection) (c : ChangeSet) (w : World σ) :
    Except Failure (Step × Selection) → World σ → Prop
  | refused {e : StoreError} {w' : World σ}
      (reconciled : s.reconcile w.store c = (.error e, w'.store))
      (transactions : w'.transactions = w.transactions) : Dealing m s c w (.error (.store e)) w'
  | skipped {written : Bool} {s' : Selection} {w' : World σ}
      (reconciled : s.reconcile w.store c = (.ok (written, s'), w'.store))
      (transactions : w'.transactions = w.transactions) : Dealing m s c w (.ok (.skipped, s')) w'
  | treated {written : Bool} {s' : Selection} {result : Except Failure Step} {w₁ w' : World σ}
      (reconciled : s.reconcile w.store c = (.ok (written, s'), w₁.store))
      (decided : s.snapshot.mustRun c = true) (transactions : w₁.transactions = w.transactions)
      (effect : Effect m (s.snapshot.recordedPath c) c w₁ result w') :
      Dealing m s c w (result.map fun step => (step, s')) w'

theorem run_proceed_effect (m : Migration) (path : Value) (c : ChangeSet) (w : World σ)
    (log : List LogLine) {sql : List String} (render : m.render c.changes = .ok sql)
    {result : Except Failure Step} {w' : World σ}
    (run : (do
      m.execute c sql
      m.markRan c path
      let texts ← Action.ofExcept (c.confirmations.mapError .change)
      Action.writeLog (texts.map fun text => ⟨.info, c.key ++ ": " ++ text⟩)
      return Step.applied sql : Action σ Step).run { w with log := log } = (result, w')) :
    Effect m path c w result w' := by
  obtain ⟨texts, confirmed⟩ := m.confirmations_of_render render
  rcases view : World.view m.database { w with log := log } with ⟨database, seen⟩
  rw [Action.run_bind] at run
  cases engine_eq : database.engine with
  | none =>
    rw [run_execute_of_none (by rwa [view])] at run
    cases run
    exact .unsent (.inl rfl) rfl
  | some engine =>
    obtain ⟨lines, executed⟩ := run_execute_of_engine view engine_eq c sql
    rw [executed] at run
    rcases sent : engine.transact seen sql with ⟨t, _ | ⟨statement, fault⟩⟩
    · rw [sent] at run
      cases Engine.transact_eq_none sent
      simp only [markRan, Action.run_bind, Action.run_onStore, Action.run_ofExcept, confirmed]
        at run
      rcases marked : HistoryStore.markRan (HistoryStore.follow w.store ⟨true, sql⟩)
          m.now c path with
        ⟨e | _, store⟩
      · rw [marked] at run
        cases run
        exact .unrecorded marked rfl
      · rw [marked] at run
        cases run
        exact .recorded marked rfl
    · rw [sent] at run
      obtain ⟨all, rfl, -⟩ := Engine.transact_eq_some sent
      cases run
      exact .thwarted rfl rfl

theorem run_applyOne_effect (m : Migration) (path : Value) (c : ChangeSet) (w : World σ) :
    Effect m path c w ((m.applyOne false path c).run w).1 ((m.applyOne false path c).run w).2 := by
  obtain ⟨passage, log, passed⟩ := run_pass_log m c.guard w
  unfold applyOne
  rw [Action.run_bind, passed]
  rcases passage with e | passage
  · exact .unsent (.inl rfl) rfl
  · cases passage with
    | skip => exact .unsent (.inl rfl) rfl
    | markRan =>
      simp only [Bool.not_false, if_true, markRan, Action.run_bind, Action.run_onStore]
      rcases marked : HistoryStore.markRan w.store m.now c path with ⟨e | _, store⟩
      · exact .unsent (.inr ⟨_, marked⟩) rfl
      · exact .unsent (.inr ⟨_, marked⟩) rfl
    | proceed =>
      cases render : m.render c.changes with
      | error e =>
        simp only [Action.run_bind, Action.run_ofExcept]
        exact .unsent (.inl rfl) rfl
      | ok sql =>
        simp only [Bool.not_false, if_true, Action.run_bind, Action.run_ofExcept]
        exact run_proceed_effect m path c w log render rfl

theorem run_updateOne_dealing (m : Migration) (s : Selection) (c : ChangeSet) (w : World σ) :
    Dealing m s c w ((m.updateOne false s c).run w).1 ((m.updateOne false s c).run w).2 := by
  unfold updateOne
  simp only [Bool.false_eq_true, if_false, Action.run_bind, reconcile]
  rcases reconciled : s.reconcile w.store c with ⟨e | ⟨written, s'⟩, store⟩
  · rw [Action.run_onStore_error reconciled]
    exact .refused reconciled rfl
  · have free := (Selection.reconcile_eq_ok reconciled).1
    have same := Selection.snapshot_of_reconcile reconciled
    rw [Action.run_onStore_ok reconciled]
    simp only [Action.run_pure, same, free, Bool.false_eq_true, if_false]
    cases decided : s.snapshot.mustRun c with
    | false => exact .skipped reconciled rfl
    | true =>
      simp only [Bool.not_true, Bool.false_eq_true, if_false, Action.run_bind]
      have written_back : s.reconcile w.store c =
          (.ok (written, s'), ({ w with store := store } : World σ).store) := reconciled
      have effect := run_applyOne_effect m (s.snapshot.recordedPath c) c { w with store := store }
      have path_eq :
          ((s.snapshot.find? c).map Record.path).getD .null = s.snapshot.recordedPath c := rfl
      rw [path_eq]
      generalize (m.applyOne false (s.snapshot.recordedPath c) c).run { w with store := store } =
        treated at effect ⊢
      obtain ⟨e | step, w'⟩ := treated
      · exact .treated written_back decided rfl effect
      · exact .treated written_back decided rfl effect

theorem Dealing.eq_ok {step : Step} {s' : Selection} (h : Dealing m s c w (.ok (step, s')) w') :
    ∃ written store, s.reconcile w.store c = (.ok (written, s'), store) := by
  generalize done : (Except.ok (step, s') : Except Failure (Step × Selection)) = result at h
  cases h with
  | refused => cases done
  | skipped reconciled _ =>
    cases done
    exact ⟨_, _, reconciled⟩
  | @treated _ _ outcome _ _ reconciled =>
    cases outcome with
    | error e => cases done
    | ok step =>
      cases done
      exact ⟨_, _, reconciled⟩

theorem Dealing.snapshot_eq {step : Step} {s' : Selection}
    (h : Dealing m s c w (.ok (step, s')) w') :
    s'.snapshot = s.snapshot := by
  obtain ⟨_, _, reconciled⟩ := h.eq_ok
  exact Selection.snapshot_of_reconcile reconciled

theorem Dealing.unsent {result : Except Failure (Step × Selection)} (h : Dealing m s c w result w')
    (decided : s.snapshot.mustRun c = false) : w'.transactions = w.transactions := by
  cases h with
  | refused _ transactions => exact transactions
  | skipped _ transactions => exact transactions
  | treated _ decided' => simp [decided] at decided'

theorem Dealing.marked_of_isCommitted {outcome : Except Failure Step}
    {result : Except Failure (Step × Selection)} (h : Dealing m s c w result w')
    (committed : (Visit.mk c w outcome w').isCommitted = true) :
    (∃ step s' store, result = .ok (step, s') ∧
        HistoryStore.markRan store m.now c (s.snapshot.recordedPath c) = (.ok (), w'.store)) ∨
      ∃ refusal written s' store t, result = .error (.store refusal) ∧
        s.reconcile w.store c = (.ok (written, s'), store) ∧
        w'.transactions = w.transactions ++ [t] ∧
        HistoryStore.markRan (HistoryStore.follow store t) m.now c (s.snapshot.recordedPath c) =
          (.error refusal, w'.store) := by
  cases h with
  | refused _ transactions => simp [Visit.not_isCommitted transactions] at committed
  | skipped _ transactions => simp [Visit.not_isCommitted transactions] at committed
  | @treated written s' _ w₁ _ reconciled _ transactions effect =>
    cases effect with
    | unsent _ sent =>
      rw [transactions] at sent
      simp [Visit.not_isCommitted sent] at committed
    | thwarted _ sent =>
      rw [transactions] at sent
      simp [Visit.isCommitted, Visit.sent, sent] at committed
    | recorded marked _ => exact .inl ⟨_, s', _, rfl, marked⟩
    | unrecorded marked sent =>
      rw [transactions] at sent
      exact .inr ⟨_, written, s', w₁.store, _, rfl, reconciled, sent, marked⟩

theorem sent_of_visitsFrom (m : Migration) (changeSets : List ChangeSet) (s : Selection)
    (w : World σ) (decided : s.snapshot.mustRun c = false) :
    ∀ v ∈ m.visitsFrom s changeSets w, v.changeSet = c → v.sent = [] := by
  induction changeSets generalizing s w with
  | nil =>
    intro v hv
    cases hv
  | cons d rest ih =>
    have dealing := run_updateOne_dealing m s d w
    have first : ∀ outcome w', (m.updateOne false s d).run w = (outcome, w') → d = c →
        (Visit.mk d w (outcome.map Prod.fst) w').sent = [] := by
      rintro outcome w' visited rfl
      rw [visited] at dealing
      have unsent := dealing.unsent decided
      dsimp only at unsent
      simp [Visit.sent, unsent]
    rcases visited : (m.updateOne false s d).run w with ⟨e | ⟨step, s'⟩, w'⟩
    · rw [visitsFrom_error visited]
      intro v hv at_c
      rw [List.mem_singleton.mp hv] at at_c ⊢
      exact first (.error e) w' visited at_c
    · rw [visited] at dealing
      rw [visitsFrom_ok visited]
      intro v hv at_c
      rcases List.mem_cons.mp hv with rfl | later
      · exact first (.ok (step, s')) w' visited at_c
      · exact ih s' w' (by rwa [dealing.snapshot_eq]) v later at_c

end Migration

end SchemaMigration
