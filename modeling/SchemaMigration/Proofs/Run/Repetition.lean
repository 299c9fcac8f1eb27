import SchemaMigration.Proofs.Run.Recording

/-! How often an update executes a changeset. It goes through the changelog once, and each entry is
decided on by itself, on the history as it was read at the start; so an entry is executed at most
once, but entries that share an identity do not know of each other. -/

namespace SchemaMigration

namespace Action

variable {σ α β : Type}

def Returns (x : Action σ α) (a : α) : Prop := ∃ w, (x.run w).1 = .ok a

def IsSilent (x : Action σ α) : Prop := ∀ w : World σ, (x.run w).2.transactions = w.transactions

def Sends (sent : α → List Transaction) (x : Action σ α) : Prop :=
  ∀ w : World σ, ∃ all, (x.run w).2.transactions = w.transactions ++ all ∧ all.length ≤ 1 ∧
    ∀ a, (x.run w).1 = .ok a → all = sent a

theorem eq_of_returns_pure {a b : α} (h : Returns (pure a : Action σ α) b) : b = a := by
  obtain ⟨w, returned⟩ := h
  exact (Except.ok.inj returned).symm

theorem not_returns_fail {e : Failure} {a : α} : ¬ Returns (fail e : Action σ α) a := by
  rintro ⟨w, returned⟩
  cases returned

theorem Returns.of_bind {x : Action σ α} {f : α → Action σ β} {b : β} (h : Returns (x >>= f) b) :
    ∃ a, x.Returns a ∧ (f a).Returns b := by
  obtain ⟨w, returned⟩ := h
  rw [run_bind] at returned
  rcases ended : x.run w with ⟨e | a, w'⟩
  · rw [ended] at returned
    cases returned
  · rw [ended] at returned
    exact ⟨a, ⟨w, congrArg Prod.fst ended⟩, ⟨w', returned⟩⟩

theorem isSilent_pure (a : α) : IsSilent (pure a : Action σ α) := fun _ => rfl

theorem isSilent_fail (e : Failure) : IsSilent (fail e : Action σ α) := fun _ => rfl

theorem isSilent_ofExcept (result : Except Failure α) :
    IsSilent (ofExcept result : Action σ α) := fun _ => rfl

theorem isSilent_writeLog (lines : List LogLine) :
    IsSilent (writeLog lines : Action σ Unit) := fun _ => rfl

theorem isSilent_observe (f : World σ → α) : IsSilent (observe f) := fun _ => rfl

theorem isSilent_onStore (operation : σ → Except StoreError α × σ) :
    IsSilent (onStore operation) := fun _ => rfl

variable {x : Action σ α} {f : α → Action σ β} {sent : β → List Transaction}

theorem isSilent_bind (hx : IsSilent x) (hf : ∀ a, x.Returns a → IsSilent (f a)) :
    IsSilent (x >>= f) := by
  intro w
  have first := hx w
  rw [run_bind]
  rcases ended : x.run w with ⟨e | a, w'⟩
  · rwa [ended] at first
  · rw [ended] at first
    exact (hf a ⟨w, congrArg Prod.fst ended⟩ w').trans first

theorem IsSilent.sends (h : IsSilent x) {sent : α → List Transaction}
    (nothing : ∀ a, x.Returns a → sent a = []) :
    Sends sent x := by
  intro w
  refine ⟨[], by simpa using h w, Nat.zero_le _, fun a returned => ?_⟩
  exact (nothing a ⟨w, returned⟩).symm

theorem sends_bind_of_isSilent (hx : IsSilent x) (hf : ∀ a, x.Returns a → Sends sent (f a)) :
    Sends sent (x >>= f) := by
  intro w
  have first := hx w
  rw [run_bind]
  rcases ended : x.run w with ⟨e | a, w'⟩
  · rw [ended] at first
    exact ⟨[], by simpa using first, Nat.zero_le _, nofun⟩
  · rw [ended] at first
    have later := hf a ⟨w, congrArg Prod.fst ended⟩ w'
    rwa [first] at later

theorem Sends.bind {own : α → List Transaction} (hx : Sends own x) (hf : ∀ a, IsSilent (f a))
    (same : ∀ a b, (f a).Returns b → sent b = own a) : Sends sent (x >>= f) := by
  intro w
  obtain ⟨all, grown, few, told⟩ := hx w
  rw [run_bind]
  rcases ended : x.run w with ⟨e | a, w'⟩
  · rw [ended] at grown
    exact ⟨all, grown, few, nofun⟩
  · rw [ended] at grown told
    refine ⟨all, (hf a w').trans grown, few, fun b returned => ?_⟩
    rw [told a rfl, same a b ⟨w', returned⟩]

end Action

namespace Migration

open SchemaMigration.Action

variable {σ : Type} [HistoryStore σ] {m : Migration} {s s' : Selection} {c : ChangeSet}
  {w w' : World σ}

theorem isSilent_pass (m : Migration) (guard : Option Guard) :
    IsSilent (m.pass guard : Action σ Passage) := by
  cases guard with
  | none => exact isSilent_pure _
  | some g =>
    refine isSilent_bind (isSilent_observe _) fun seen _ => ?_
    exact isSilent_bind (isSilent_writeLog _) fun _ _ => isSilent_ofExcept _

theorem sends_execute (m : Migration) (c : ChangeSet) (sql : List String) :
    Sends (fun _ => [⟨true, sql⟩]) (m.execute c sql : Action σ Unit) := by
  refine sends_bind_of_isSilent (isSilent_observe _) fun seen _ => ?_
  obtain ⟨database, log⟩ := seen
  dsimp only
  cases database.engine with
  | none => exact (isSilent_fail _).sends fun _ returned => absurd returned not_returns_fail
  | some engine =>
    intro w
    dsimp only
    rw [run_bind, run_record]
    rcases sent : engine.transact log sql with ⟨t, _ | ⟨statement, fault⟩⟩
    · cases Engine.transact_eq_none sent
      exact ⟨[⟨true, sql⟩], rfl, Nat.le_refl 1, fun _ _ => rfl⟩
    · exact ⟨[t], rfl, Nat.le_refl 1, nofun⟩

theorem sends_applyOne (m : Migration) (path : Value) (c : ChangeSet) :
    Sends Step.sent (m.applyOne false path c : Action σ Step) := by
  refine sends_bind_of_isSilent (isSilent_pass m c.guard) fun passage _ => ?_
  cases passage with
  | skip =>
    refine (isSilent_pure _).sends fun step returned => ?_
    rw [eq_of_returns_pure returned]
    rfl
  | markRan =>
    change Sends Step.sent (m.markRan c path >>= fun _ => pure .markedRan)
    refine sends_bind_of_isSilent (isSilent_onStore _) fun _ _ => ?_
    refine (isSilent_pure _).sends fun step returned => ?_
    rw [eq_of_returns_pure returned]
    rfl
  | proceed =>
    refine sends_bind_of_isSilent (isSilent_ofExcept _) fun sql _ => ?_
    refine (sends_execute m c sql).bind (fun _ => ?_) fun _ step returned => ?_
    · refine isSilent_bind (isSilent_onStore _) fun _ _ => ?_
      refine isSilent_bind (isSilent_ofExcept _) fun _ _ => ?_
      exact isSilent_bind (isSilent_writeLog _) fun _ _ => isSilent_pure _
    · obtain ⟨_, -, returned⟩ := returned.of_bind
      obtain ⟨_, -, returned⟩ := returned.of_bind
      obtain ⟨_, -, returned⟩ := returned.of_bind
      rw [eq_of_returns_pure returned, Step.sent]

theorem snapshot_of_returns_reconcile (h : Returns (reconcile s c : Action σ Selection) s') :
    s'.snapshot = s.snapshot := by
  obtain ⟨⟨written, s₁⟩, ⟨w, returned⟩, last⟩ := h.of_bind
  rw [eq_of_returns_pure last]
  rcases reconciled : s.reconcile w.store c with ⟨e | done, store⟩
  · rw [run_onStore_error reconciled] at returned
    cases returned
  · rw [run_onStore_ok reconciled] at returned
    cases returned
    exact Selection.snapshot_of_reconcile reconciled

theorem isSilent_reconcile (s : Selection) (c : ChangeSet) :
    IsSilent (reconcile s c : Action σ Selection) :=
  isSilent_bind (isSilent_onStore _) fun _ _ => isSilent_pure _

theorem sends_updateOne (m : Migration) (s : Selection) (c : ChangeSet) :
    Sends (fun done => done.1.sent) (m.updateOne false s c : Action σ (Step × Selection)) := by
  refine sends_bind_of_isSilent (isSilent_reconcile s c) fun s' _ => ?_
  dsimp only
  split
  · exact (isSilent_fail _).sends fun _ returned => absurd returned not_returns_fail
  · split
    · refine (isSilent_pure _).sends fun done returned => ?_
      rw [eq_of_returns_pure returned]
      rfl
    · refine (sends_applyOne m _ c).bind (fun _ => isSilent_pure _) fun step done returned => ?_
      rw [eq_of_returns_pure returned]

theorem snapshot_of_returns_updateOne {step : Step}
    (h : Returns (m.updateOne false s c : Action σ (Step × Selection)) (step, s')) :
    s'.snapshot = s.snapshot := by
  obtain ⟨s₁, reconciled, rest⟩ := h.of_bind
  have same := snapshot_of_returns_reconcile reconciled
  dsimp only at rest
  split at rest
  · exact absurd rest not_returns_fail
  · split at rest
    · cases eq_of_returns_pure rest
      exact same
    · obtain ⟨_, -, last⟩ := rest.of_bind
      cases eq_of_returns_pure last
      exact same

theorem isSilent_updateOne (decided : s.snapshot.mustRun c = false) :
    IsSilent (m.updateOne false s c : Action σ (Step × Selection)) := by
  refine isSilent_bind (isSilent_reconcile s c) fun s' returned => ?_
  dsimp only
  rw [snapshot_of_returns_reconcile returned]
  split
  · exact isSilent_fail _
  · rw [decided]
    exact isSilent_pure _

theorem sent_of_returns_updateOne {done : Step × Selection} (open_changeSet : c.guard = none)
    (due : s.snapshot.mustRun c = true)
    (h : Returns (m.updateOne false s c : Action σ (Step × Selection)) done) :
    ∃ t, done.1.sent = [t] := by
  obtain ⟨s', reconciled, rest⟩ := h.of_bind
  dsimp only at rest
  rw [snapshot_of_returns_reconcile reconciled, due] at rest
  split at rest
  · exact absurd rest not_returns_fail
  · obtain ⟨step, applied, last⟩ := rest.of_bind
    rw [eq_of_returns_pure last]
    obtain ⟨passage, passed, treated⟩ := applied.of_bind
    rw [open_changeSet] at passed
    cases eq_of_returns_pure (passed : Returns (pure .proceed) passage)
    -- rendered, executed, recorded, confirmed and logged
    obtain ⟨sql, -, treated⟩ := treated.of_bind
    obtain ⟨_, -, treated⟩ := treated.of_bind
    obtain ⟨_, -, treated⟩ := treated.of_bind
    obtain ⟨_, -, treated⟩ := treated.of_bind
    obtain ⟨_, -, treated⟩ := treated.of_bind
    rw [eq_of_returns_pure treated]
    exact ⟨⟨true, sql⟩, rfl⟩

end Migration

def ChangeSet.isOf (ignoreCase : Bool) (t : String × String × String) (c : ChangeSet) : Bool :=
  c.identity.texts? ignoreCase == some t

namespace Visit

variable {σ : Type} {v : Visit σ}

def executions (v : Visit σ) : List (ChangeSet × Transaction) :=
  v.sent.map fun t => (v.changeSet, t)

theorem executions_eq {all : List Transaction}
    (grown : v.after.transactions = v.before.transactions ++ all) :
    v.executions = all.map fun t => (v.changeSet, t) := by
  rw [executions, sent, grown, List.drop_left]

end Visit

namespace Migration

variable {σ : Type} [HistoryStore σ] {m : Migration} {s s' : Selection} {c : ChangeSet}
  {w w' : World σ}

section Visit

variable {outcome : Except Failure (Step × Selection)} {told : Except Failure Step}
  (visited : (m.updateOne false s c).run w = (outcome, w'))

include visited

theorem transactions_of_visit :
    w'.transactions = w.transactions ++ (Visit.mk c w told w').executions.map Prod.snd := by
  obtain ⟨all, grown, -, -⟩ := sends_updateOne m s c w
  rw [visited] at grown
  rw [Visit.executions_eq grown, List.map_map]
  exact grown.trans (by simp [Function.comp_def])

theorem executions_sublist :
    ((Visit.mk c w told w').executions.map Prod.fst).Sublist ([c].filter s.snapshot.mustRun) := by
  cases decided : s.snapshot.mustRun c with
  | false =>
    have unsent := isSilent_updateOne (m := m) decided w
    rw [visited] at unsent
    have grown : w'.transactions = w.transactions ++ [] := by rw [List.append_nil, unsent]
    rw [Visit.executions_eq grown]
    exact List.nil_sublist _
  | true =>
    obtain ⟨all, grown, few, -⟩ := sends_updateOne m s c w
    rw [visited] at grown
    rw [Visit.executions_eq grown, List.filter_singleton, decided]
    match all, few with
    | [], _ => exact List.nil_sublist _
    | [t], _ => exact List.Sublist.refl _

end Visit

theorem sublist_executions {step : Step}
    (visited : (m.updateOne false s c).run w = (.ok (step, s'), w')) :
    (([c].filter s.snapshot.mustRun).filter fun d => d.guard.isNone).Sublist
      ((Visit.mk c w (.ok step) w').executions.map Prod.fst) := by
  cases decided : s.snapshot.mustRun c && c.guard.isNone with
  | false =>
    -- one of the two filters drops the changeset
    have none_left : ([c].filter s.snapshot.mustRun).filter (fun d => d.guard.isNone) = [] := by
      rw [List.filter_filter, List.filter_singleton, Bool.and_comm, decided]
      rfl
    rw [none_left]
    exact List.nil_sublist _
  | true =>
    rw [Bool.and_eq_true, Option.isNone_iff_eq_none] at decided
    obtain ⟨all, grown, -, told⟩ := sends_updateOne m s c w
    rw [visited] at grown told
    obtain ⟨t, sent⟩ := sent_of_returns_updateOne decided.2 decided.1 ⟨w, congrArg Prod.fst visited⟩
    have all_eq : all = [t] := (told _ rfl).trans sent
    rw [Visit.executions_eq grown, all_eq, List.filter_filter]
    exact List.filter_sublist

theorem transactions_updateAll (m : Migration) (changeSets : List ChangeSet) (s : Selection)
    (w : World σ) :
    ((m.updateAll false s changeSets).run w).2.transactions =
      w.transactions ++ ((m.visitsFrom s changeSets w).flatMap Visit.executions).map Prod.snd := by
  induction changeSets generalizing s w with
  | nil => simp [visitsFrom, updateAll]
  | cons c rest ih =>
    rcases visited : (m.updateOne false s c).run w with ⟨e | ⟨step, s'⟩, w'⟩
    · rw [run_updateAll_error visited, visitsFrom_error visited, List.flatMap_singleton]
      exact transactions_of_visit visited
    · have sent : w'.transactions = w.transactions ++
          (Visit.mk c w (.ok step) w').executions.map Prod.snd :=
        transactions_of_visit visited
      rw [run_updateAll_ok visited, visitsFrom_ok visited, List.flatMap_cons, List.map_append,
        ← List.append_assoc, ← sent]
      exact ih s' w'

theorem executions_visitsFrom_sublist (m : Migration) (changeSets : List ChangeSet) (s : Selection)
    (w : World σ) :
    (((m.visitsFrom s changeSets w).flatMap Visit.executions).map Prod.fst).Sublist
      (changeSets.filter s.snapshot.mustRun) := by
  induction changeSets generalizing s w with
  | nil => exact List.Sublist.refl _
  | cons c rest ih =>
    rw [← List.singleton_append, List.filter_append, List.singleton_append]
    rcases visited : (m.updateOne false s c).run w with ⟨e | ⟨step, s'⟩, w'⟩
    · rw [visitsFrom_error visited, List.flatMap_singleton]
      exact (executions_sublist visited).trans (List.sublist_append_left _ _)
    · have later := ih s' w'
      rw [snapshot_of_returns_updateOne ⟨w, congrArg Prod.fst visited⟩] at later
      rw [visitsFrom_ok visited, List.flatMap_cons, List.map_append]
      exact (executions_sublist visited).append later

theorem sublist_executions_visitsFrom {changeSets : List ChangeSet}
    {steps : List (ChangeSet × Step)}
    (returned : (m.updateAll false s changeSets).run w = (.ok steps, w')) :
    ((changeSets.filter s.snapshot.mustRun).filter fun c => c.guard.isNone).Sublist
      (((m.visitsFrom s changeSets w).flatMap Visit.executions).map Prod.fst) := by
  induction changeSets generalizing s w steps with
  | nil => exact List.Sublist.refl _
  | cons c rest ih =>
    obtain ⟨step, s₁, w₁, more, visited, row, -⟩ := run_updateAll_cons_eq_ok returned
    have later := ih row
    rw [snapshot_of_returns_updateOne ⟨w, congrArg Prod.fst visited⟩] at later
    rw [visitsFrom_ok visited, List.flatMap_cons, List.map_append, ← List.singleton_append,
      List.filter_append, List.filter_append]
    exact (sublist_executions visited).append later

/-- What an update executes, in order: each transaction with the changeset that it was sent for. -/
def executed (m : Migration) (w : World σ) : List (ChangeSet × Transaction) :=
  (m.visits w).flatMap Visit.executions

/-- The changesets that have to run by the history as it can be read before an update. -/
def due (m : Migration) (w : World σ) : List ChangeSet :=
  match (HistoryStore.load w.store).1 with
  | .ok records => m.changeLog.changeSets.filter (Snapshot.mustRun ⟨records, m.ignoreCase⟩)
  | .error _ => []

theorem transactions_of_opening {outcome : Except Failure (Option Selection)}
    (opened : (m.opening false).run w = (outcome, w')) : w'.transactions = w.transactions := by
  have silent : Action.IsSilent (m.opening false : Action σ (Option Selection)) := by
    refine Action.isSilent_bind (Action.isSilent_writeLog _) fun _ _ => ?_
    refine Action.isSilent_bind (isSilent_pass m _) fun passage _ => ?_
    cases passage with
    | skip => exact Action.isSilent_pure _
    | markRan => exact Action.isSilent_pure _
    | proceed =>
      exact Action.isSilent_bind (Action.isSilent_onStore _) fun _ _ => Action.isSilent_pure _
  have unsent := silent w
  rwa [opened] at unsent

theorem isSome_of_opening (open_log : m.changeLog.guard = none) {opened : Option Selection}
    (h : Action.Returns (m.opening false : Action σ (Option Selection)) opened) :
    opened.isSome := by
  obtain ⟨_, -, rest⟩ := h.of_bind
  obtain ⟨passage, passed, rest⟩ := rest.of_bind
  rw [open_log] at passed
  cases Action.eq_of_returns_pure (passed : Action.Returns (pure .proceed) passage)
  obtain ⟨selection, -, rest⟩ := rest.of_bind
  rw [Action.eq_of_returns_pure rest]
  rfl

theorem transactions_update (m : Migration) (w : World σ) :
    ((m.update false).run w).2.transactions = w.transactions ++ (m.executed w).map Prod.snd := by
  rcases opened : (m.opening false).run w with ⟨e | _ | s, w₀⟩
  · have unsent := transactions_of_opening opened
    rw [executed, visits, opened, update_eq, Action.run_bind, opened]
    simpa using unsent
  · have unsent := transactions_of_opening opened
    rw [executed, visits, opened, update_eq, Action.run_bind, opened]
    rw [List.flatMap_nil, List.map_nil, List.append_nil]
    exact unsent
  · have unsent := transactions_of_opening opened
    obtain ⟨visits_eq, ended⟩ := run_update_of_opening opened
    obtain ⟨log, ended⟩ := ended _ _ rfl
    rw [executed, visits_eq, ended, ← unsent]
    exact transactions_updateAll m m.changeLog.changeSets s w₀

theorem executed_sublist_due (m : Migration) (w : World σ) :
    ((m.executed w).map Prod.fst).Sublist (m.due w) := by
  rcases opened : (m.opening false).run w with ⟨e | _ | s, w₀⟩
  · rw [executed, visits, opened]
    exact List.nil_sublist _
  · rw [executed, visits, opened]
    exact List.nil_sublist _
  · obtain ⟨loaded, read, rfl⟩ := opening_eq_some opened
    rw [executed, (run_update_of_opening opened).1, due, read]
    exact executions_visitsFrom_sublist m m.changeLog.changeSets _ w₀

theorem due_sublist_executed {report : Report} (open_log : m.changeLog.guard = none)
    (returned : ((m.update false).run w).1 = .ok report) :
    ((m.due w).filter fun c => c.guard.isNone).Sublist ((m.executed w).map Prod.fst) := by
  rcases opened : (m.opening false).run w with ⟨e | _ | s, w₀⟩
  · rw [update_eq, Action.run_bind, opened] at returned
    cases returned
  · cases isSome_of_opening open_log ⟨w, congrArg Prod.fst opened⟩
  · obtain ⟨loaded, read, rfl⟩ := opening_eq_some opened
    obtain ⟨visits_eq, ended⟩ := run_update_of_opening opened
    rcases row : (m.updateAll false { snapshot := ⟨loaded, m.ignoreCase⟩ }
      m.changeLog.changeSets).run w₀
      with ⟨e | steps, w₁⟩
    · obtain ⟨log, ended⟩ := ended _ _ row
      rw [ended] at returned
      cases returned
    · rw [executed, visits_eq, due, read]
      exact sublist_executions_visitsFrom row

/-- Every transaction of an update is sent for a changeset that has to run by the history as it was
before. Each of these is executed once at most, in order; so those of one identity are executed at
most as often as there are of them. An update of a changelog without a guard executes, if it
returns, all of them that have no guard. -/
theorem executed_of_due (m : Migration) (w : World σ) :
    ((m.update false).run w).2.transactions = w.transactions ++ (m.executed w).map Prod.snd ∧
      ((m.executed w).map Prod.fst).Sublist (m.due w) ∧
      (∀ t, ((m.executed w).map Prod.fst).countP (ChangeSet.isOf m.ignoreCase t) ≤
        (m.due w).countP (ChangeSet.isOf m.ignoreCase t)) ∧
      (m.changeLog.guard = none → ∀ report, ((m.update false).run w).1 = .ok report →
        ((m.due w).filter fun c => c.guard.isNone).Sublist ((m.executed w).map Prod.fst)) := by
  have once := executed_sublist_due m w
  exact ⟨transactions_update m w, once, fun t => once.countP_le,
    fun open_log _ returned => due_sublist_executed open_log returned⟩

def dropRepeated : Migration := dropRun [dropTable "1" "orders", dropTable "1" "orders"]

/-- Both entries have to run, as neither was recorded before the update, and both are executed. -/
theorem dropRepeated_executed :
    1 < ((dropRepeated.executed (⟨{}, [], []⟩ : World MemoryStore)).map Prod.fst).countP
      (ChangeSet.isOf dropRepeated.ignoreCase ("1", "alice", "db/changelog.py")) := by
  decide +kernel

theorem executed_of_due_dropRepeated :
    ∃ report, ((dropRepeated.update false).run (⟨{}, [], []⟩ : World MemoryStore)).1 = .ok report ∧
      ((dropRepeated.due (⟨{}, [], []⟩ : World MemoryStore)).filter fun c => c.guard.isNone).Sublist
        ((dropRepeated.executed (⟨{}, [], []⟩ : World MemoryStore)).map Prod.fst) := by
  have returns : ((dropRepeated.update false).run (⟨{}, [], []⟩ : World MemoryStore)).1.isOk =
      true := by
    decide +kernel
  cases returned : ((dropRepeated.update false).run (⟨{}, [], []⟩ : World MemoryStore)).1 with
  | error e =>
    rw [returned] at returns
    cases returns
  | ok report =>
    exact ⟨report, rfl, (executed_of_due dropRepeated (⟨{}, [], []⟩ : World MemoryStore)).2.2.2 rfl
      report
      returned⟩

end Migration

end SchemaMigration
