import SchemaMigration.Proofs.Run.Blindness
import SchemaMigration.Proofs.Run.Reconciliation
import SchemaMigration.Proofs.Run.Treatment

namespace SchemaMigration

/-- What an update does at a changeset: the world before and after, and the result. -/
structure Visit (σ : Type) where
  changeSet : ChangeSet
  before : World σ
  outcome : Except Failure Migration.Step
  after : World σ

namespace Visit

variable {σ : Type}

def sent (v : Visit σ) : List Transaction :=
  v.after.transactions.drop v.before.transactions.length

/-- Whether the SQL of the changeset was executed up to its commit. -/
def isCommitted (v : Visit σ) : Bool := v.sent.any Transaction.committed

/-- Whether the changeset was recorded as ran without being executed. -/
def isMarked (v : Visit σ) : Bool :=
  match v.outcome with
  | .ok .markedRan => true
  | _ => false

theorem not_isCommitted {c : ChangeSet} {w w' : World σ} {outcome : Except Failure Migration.Step}
    (unsent : w'.transactions = w.transactions) :
    (Visit.mk c w outcome w').isCommitted = false := by
  simp [isCommitted, sent, unsent]

end Visit

namespace Migration

section Store

variable {σ : Type} [HistoryStore σ]

def visitsFrom (m : Migration) : Selection → List ChangeSet → World σ → List (Visit σ)
  | _, [], _ => []
  | s, c :: rest, w =>
    match (m.updateOne false s c).run w with
    | (.ok (step, s'), w') => ⟨c, w, .ok step, w'⟩ :: m.visitsFrom s' rest w'
    | (.error e, w') => [⟨c, w, .error e, w'⟩]

def opening (m : Migration) (dryRun : Bool) : Action σ (Option Selection) := do
  Action.info ("Updating " ++ m.database.name ++ " from " ++ m.changeLog.path.display ++
    modeText dryRun)
  match ← m.pass m.changeLog.guard with
  | .proceed =>
    let selection ← m.select
    return some selection
  | _ => return none

def closing (m : Migration) (dryRun : Bool) (steps : List (ChangeSet × Step)) :
    Action σ Report := do
  let report := m.reportOf dryRun steps
  Action.info ("Update complete" ++ modeText dryRun ++ ": " ++ toString report.applied.length ++
    " applied, " ++ toString report.skipped.length ++ " skipped in " ++
    report.duration.fixed 2 ++ "s")
  return report

def closingUnmet (m : Migration) (dryRun : Bool) : Action σ Report := do
  Action.info "Changelog preconditions not met; nothing to update"
  return m.reportOf dryRun (m.changeLog.changeSets.map fun c => (c, .skipped))

theorem update_eq (m : Migration) (dryRun : Bool) :
    (m.update dryRun : Action σ Report) = (do
      match ← m.opening dryRun with
      | some selection =>
        let steps ← m.updateAll dryRun selection m.changeLog.changeSets
        m.closing dryRun steps
      | none => m.closingUnmet dryRun) := by
  unfold update opening
  rw [bind_assoc]
  apply bind_congr
  intro _
  rw [bind_assoc]
  apply bind_congr
  intro passage
  cases passage with
  | proceed =>
    simp only [bind_assoc, pure_bind]
    rfl
  | skip => rfl
  | markRan => rfl

def visits (m : Migration) (w : World σ) : List (Visit σ) :=
  match (m.opening false).run w with
  | (.ok (some selection), w') => m.visitsFrom selection m.changeLog.changeSets w'
  | _ => []

theorem run_update_of_opening {m : Migration} {s : Selection} {w w₀ : World σ}
    (opened : (m.opening false).run w = (.ok (some s), w₀)) :
    m.visits w = m.visitsFrom s m.changeLog.changeSets w₀ ∧
      ∀ result w₁, (m.updateAll false s m.changeLog.changeSets).run w₀ = (result, w₁) →
        ∃ log, (m.update false).run w = (result.map (m.reportOf false),
          { w₁ with log := log }) := by
  constructor
  · unfold visits
    rw [opened]
  · intro result w₁ row
    rw [update_eq, Action.run_bind, opened]
    dsimp only
    rw [Action.run_bind, row]
    cases result with
    | error e => exact ⟨w₁.log, rfl⟩
    | ok steps => exact ⟨_, rfl⟩

end Store

variable {m : Migration} {c d : ChangeSet} {s : Selection} {w w' : World MemoryStore}

theorem Execution.store_eq {σ : Type} {w w' : World σ} {sql : List String}
    {result : Except Failure Unit} (h : Execution m c sql w result w') : w'.store = w.store := by
  cases h with
  | unsent _ store _ => exact store
  | failed _ _ store _ => exact store
  | committed _ _ store _ => exact store

theorem Treatment.store_cases {σ : Type} [HistoryStore σ] {w w' : World σ} {path : Value}
    {result : Except Failure Step} (h : Treatment m path c w result w') :
    w'.store = w.store ∨ ∃ done, HistoryStore.markRan w.store m.now c path = (done, w'.store) := by
  cases h with
  | halted _ store _ => exact .inl store
  | heldBack _ store _ => exact .inl store
  | marked _ store _ => exact .inr ⟨_, store⟩
  | unmarked _ store _ => exact .inr ⟨_, store⟩
  | unrendered _ _ store _ => exact .inl store
  | unexecuted _ _ execution => exact .inl execution.store_eq
  | unrecorded _ _ execution store _ => exact .inr ⟨_, execution.store_eq ▸ store⟩
  | unconfirmed _ _ execution store _ _ => exact .inr ⟨_, execution.store_eq ▸ store⟩
  | applied _ _ execution store _ _ => exact .inr ⟨_, execution.store_eq ▸ store⟩

theorem Treatment.store_memory {path : Value} {result : Except Failure Step}
    (h : Treatment m path c w result w') :
    w'.store = w.store ∨ w.store.markRan m.now c path = .ok w'.store := by
  rcases h.store_cases with kept | ⟨e | _, marked⟩
  · exact .inl kept
  · exact .inl (markRan_memory_error marked)
  · exact .inr (markRan_memory_ok marked)

inductive Turn (m : Migration) (s : Selection) (c : ChangeSet) (w : World MemoryStore) :
    Except Failure (Step × Selection) → World MemoryStore → Prop
  | obstructed {w' : World MemoryStore} (obstructed : s.snapshot.isObstructed c = true)
      (store : w'.store = w.store) (transactions : w'.transactions = w.transactions) :
      Turn m s c w (.error (.store (.misfit .lacking))) w'
  | skipped {w' : World MemoryStore} (free : s.snapshot.isObstructed c = false)
      (decided : s.snapshot.mustRun c = false) (store : w'.store = s.writtenBack w.store c)
      (transactions : w'.transactions = w.transactions) :
      Turn m s c w (.ok (.skipped, s.noting c)) w'
  | treated {result : Except Failure Step} {w' : World MemoryStore}
      (free : s.snapshot.isObstructed c = false) (decided : s.snapshot.mustRun c = true)
      (treatment : Treatment m (s.snapshot.recordedPath c) c
        { w with store := s.writtenBack w.store c } result w') :
      Turn m s c w (result.map fun step => (step, s.noting c)) w'

@[simp] theorem map_fst_outcome (outcome : Except Failure Step) (s : Selection) :
    (outcome.map fun step => (step, s)).map Prod.fst = outcome := by
  cases outcome with
  | error e => rfl
  | ok step => rfl

theorem run_updateOne_eq (m : Migration) (s : Selection) (hc : c.identity.IsTextual)
    (w : World MemoryStore) :
    (m.updateOne false s c).run w =
      if s.snapshot.isObstructed c then (.error (.store (.misfit .lacking)), w)
      else if !s.snapshot.mustRun c then
        (.ok (.skipped, s.noting c), { w with store := s.writtenBack w.store c })
      else
        let (result, w') := (m.applyOne false (s.snapshot.recordedPath c) c).run
          { w with store := s.writtenBack w.store c }
        (result.map fun step => (step, s.noting c), w') := by
  cases found : s.snapshot.isObstructed c with
  | true =>
    have refused : (reconcile s c).run w = (.error (.store (.misfit .lacking)), w) := by
      unfold reconcile
      rw [Action.run_bind, Action.run_onStore_error (Selection.reconcile_obstructed found)]
    simp only [updateOne, Bool.false_eq_true, if_false, Action.run_bind, refused, if_true]
  | false =>
    have reconciled : (reconcile s c).run w =
        (.ok (s.noting c), { w with store := s.writtenBack w.store c }) := by
      unfold reconcile
      rw [Action.run_bind, Action.run_onStore_ok (Selection.reconcile_memory hc found)]
      rfl
    simp only [updateOne, Bool.false_eq_true, if_false, Action.run_bind, reconciled,
      Selection.snapshot_noting, found]
    cases s.snapshot.mustRun c with
    | false => rfl
    | true =>
      simp only [Bool.not_true, Bool.false_eq_true, if_false, Action.run_bind, Action.run_pure]
      have path_eq : ((s.snapshot.find? c).map Record.path).getD .null =
          s.snapshot.recordedPath c := rfl
      rw [path_eq]
      rcases (m.applyOne false (s.snapshot.recordedPath c) c).run
        { w with store := s.writtenBack w.store c } with ⟨e | step, after⟩
      · rfl
      · rfl

theorem run_updateOne (m : Migration) (s : Selection) (hc : c.identity.IsTextual)
    (w : World MemoryStore) :
    Turn m s c w ((m.updateOne false s c).run w).1 ((m.updateOne false s c).run w).2 := by
  rw [run_updateOne_eq m s hc]
  cases found : s.snapshot.isObstructed c with
  | true => exact .obstructed found rfl rfl
  | false =>
    cases decided : s.snapshot.mustRun c with
    | false => exact .skipped found decided rfl rfl
    | true =>
      exact .treated found decided (run_applyOne m (s.snapshot.recordedPath c) c
        { w with store := s.writtenBack w.store c })

theorem Turn.store_cases {result : Except Failure (Step × Selection)} (h : Turn m s c w result w') :
    w'.store = w.store ∨ w'.store = s.writtenBack w.store c ∨
      (s.writtenBack w.store c).markRan m.now c (s.snapshot.recordedPath c) = .ok w'.store := by
  cases h with
  | obstructed _ store _ => exact .inl store
  | skipped _ _ store _ => exact .inr (.inl store)
  | treated _ _ treatment => exact .inr treatment.store_memory

theorem Turn.selection_eq {step : Step} {s' : Selection} (h : Turn m s c w (.ok (step, s')) w') :
    s' = s.noting c := by
  generalize result_eq : (Except.ok (step, s') : Except Failure (Step × Selection)) = result at h
  cases h with
  | obstructed => cases result_eq
  | skipped =>
    cases result_eq
    rfl
  | @treated ended _ _ _ _ =>
    cases ended with
    | error e => cases result_eq
    | ok step =>
      cases result_eq
      rfl

section Frame

variable {result : Except Failure (Step × Selection)} (hc : c.identity.IsTextual)
  (current : s.IsCurrent w.store c) (h : Turn m s c w result w')

include hc current h

theorem Turn.others_eq :
    Snapshot.others s.snapshot.ignoreCase c w'.store.records =
      Snapshot.others s.snapshot.ignoreCase c w.store.records := by
  rcases h.store_cases with kept | written | marked
  · rw [kept]
  · rw [written, Selection.others_writtenBack hc]
  · rw [← Selection.recordedPath_writtenBack hc current] at marked
    rw [Snapshot.others_markRan hc marked, Selection.others_writtenBack hc]

theorem Turn.agreeOn (hd : d.identity.IsTextual)
    (ne : c.identity.texts? s.snapshot.ignoreCase ≠ d.identity.texts? s.snapshot.ignoreCase) :
    Snapshot.AgreeOn d (w.store.snapshot s.snapshot.ignoreCase)
      (w'.store.snapshot s.snapshot.ignoreCase) :=
  Snapshot.agreeOn_of_others hc hd ne (h.others_eq hc current).symm

end Frame

theorem Turn.isCurrent {rest : List ChangeSet} {result : Except Failure (Step × Selection)}
    (distinct : ChangeSet.AreDistinct s.snapshot.ignoreCase (c :: rest))
    (current : ∀ d ∈ c :: rest, s.IsCurrent w.store d) (h : Turn m s c w result w') :
    ∀ d ∈ rest, (s.noting c).IsCurrent w'.store d := by
  intro d hd
  have hc := distinct.head
  have hd_textual := distinct.tail.textual d hd
  have ne := distinct.head_ne hd
  have agrees := h.agreeOn hc (current c List.mem_cons_self) hd_textual ne
  exact Selection.IsCurrent.noting hc hd_textual ne
    (current d (List.mem_cons_of_mem c hd)) agrees

section Row

variable {σ : Type} [HistoryStore σ] {m : Migration} {dryRun : Bool} {s s' : Selection}
  {c : ChangeSet} {rest : List ChangeSet} {step : Step} {e : Failure} {w w' : World σ}

theorem run_updateAll_error (visited : (m.updateOne dryRun s c).run w = (.error e, w')) :
    (m.updateAll dryRun s (c :: rest)).run w = (.error e, w') := by
  unfold updateAll
  rw [Action.run_bind, visited]

theorem run_updateAll_ok (visited : (m.updateOne dryRun s c).run w = (.ok (step, s'), w')) :
    (m.updateAll dryRun s (c :: rest)).run w =
      (((m.updateAll dryRun s' rest).run w').1.map fun more => (c, step) :: more,
        ((m.updateAll dryRun s' rest).run w').2) := by
  conv_lhs => unfold updateAll
  rw [Action.run_bind, visited]
  dsimp only
  rw [Action.run_bind]
  rcases (m.updateAll dryRun s' rest).run w' with ⟨e | more, w''⟩
  · rfl
  · rfl

theorem run_updateAll_cons_eq_ok {steps : List (ChangeSet × Step)}
    (returned : (m.updateAll dryRun s (c :: rest)).run w = (.ok steps, w')) :
    ∃ step s₁ w₁ more, (m.updateOne dryRun s c).run w = (.ok (step, s₁), w₁) ∧
      (m.updateAll dryRun s₁ rest).run w₁ = (.ok more, w') ∧ steps = (c, step) :: more := by
  rcases visited : (m.updateOne dryRun s c).run w with ⟨e | ⟨step, s₁⟩, w₁⟩
  · rw [run_updateAll_error visited] at returned
    cases returned
  · rw [run_updateAll_ok visited] at returned
    rcases row : (m.updateAll dryRun s₁ rest).run w₁ with ⟨e | more, w₂⟩
    · rw [row] at returned
      cases returned
    · rw [row] at returned
      cases returned
      exact ⟨step, s₁, w₁, more, rfl, row, rfl⟩

theorem visitsFrom_error (visited : (m.updateOne false s c).run w = (.error e, w')) :
    m.visitsFrom s (c :: rest) w = [⟨c, w, .error e, w'⟩] := by
  unfold visitsFrom
  rw [visited]

theorem visitsFrom_ok (visited : (m.updateOne false s c).run w = (.ok (step, s'), w')) :
    m.visitsFrom s (c :: rest) w = ⟨c, w, .ok step, w'⟩ :: m.visitsFrom s' rest w' := by
  conv_lhs => unfold visitsFrom
  rw [visited]

theorem visitsFrom_prefix (m : Migration) (s : Selection) (changeSets : List ChangeSet)
    (w : World σ) :
    (m.visitsFrom s changeSets w).map Visit.changeSet <+: changeSets := by
  induction changeSets generalizing s w with
  | nil => exact List.prefix_rfl
  | cons c rest ih =>
    rcases visited : (m.updateOne false s c).run w with ⟨e | ⟨step, s'⟩, w'⟩
    · rw [visitsFrom_error visited]
      exact ⟨rest, rfl⟩
    · rw [visitsFrom_ok visited, List.map_cons]
      exact (List.prefix_cons_inj c).mpr (ih s' w')

theorem changeSet_mem_of_visits (m : Migration) {w : World σ} {v : Visit σ} (hv : v ∈ m.visits w) :
    v.changeSet ∈ m.changeLog.changeSets := by
  unfold visits at hv
  split at hv
  next selection w' _ =>
    exact (m.visitsFrom_prefix selection m.changeLog.changeSets w').subset
      (List.mem_map.mpr ⟨v, hv, rfl⟩)
  next => cases hv

end Row

theorem updateAll_agreeOn (m : Migration) (changeSets : List ChangeSet) (s : Selection)
    (w : World MemoryStore) (distinct : ChangeSet.AreDistinct s.snapshot.ignoreCase changeSets)
    (current : ∀ c ∈ changeSets, s.IsCurrent w.store c) (hd : d.identity.IsTextual)
    (ne : ∀ c ∈ changeSets,
      c.identity.texts? s.snapshot.ignoreCase ≠ d.identity.texts? s.snapshot.ignoreCase) :
    Snapshot.AgreeOn d (w.store.snapshot s.snapshot.ignoreCase)
      (((m.updateAll false s changeSets).run w).2.store.snapshot s.snapshot.ignoreCase) := by
  induction changeSets generalizing s w with
  | nil => exact .refl d _
  | cons c rest ih =>
    have turn := run_updateOne m s distinct.head w
    have first := turn.agreeOn distinct.head (current c List.mem_cons_self) hd
      (ne c List.mem_cons_self)
    rcases visited : (m.updateOne false s c).run w with ⟨e | ⟨step, s'⟩, w'⟩
    · rw [visited] at first
      rw [run_updateAll_error visited]
      exact first
    · rw [visited] at turn first
      -- from here on the selection remembers the checksum that was written back
      cases turn.selection_eq
      rw [run_updateAll_ok visited]
      have later := ih (s.noting c) w' (by simpa using distinct.tail)
        (turn.isCurrent distinct current) (by
          intro b hb
          simpa using ne b (List.mem_cons_of_mem c hb))
      rw [Selection.snapshot_noting] at later
      exact first.trans later

def startingSelection (m : Migration) (w : World MemoryStore) : Selection :=
  { snapshot := w.store.snapshot m.ignoreCase }

theorem run_select (m : Migration) (w : World MemoryStore) :
    m.select.run w = (.ok (m.startingSelection w), w) := rfl

theorem run_status (m : Migration) (w : World MemoryStore) :
    m.status.run w =
      (if m.changeLog.changeSets.any (w.store.snapshot m.ignoreCase).isObstructed then
          .error (.store (.misfit .lacking))
        else .ok (m.changeLog.changeSets.filter (w.store.snapshot m.ignoreCase).mustRun), w) := by
  unfold status
  rw [Action.run_bind, run_select]
  dsimp only [startingSelection]
  split
  · rfl
  · rfl

theorem run_opening_detached {σ : Type} [HistoryStore σ] [DetachedStore σ] (m : Migration)
    (dryRun : Bool) (w : World σ) :
    ∃ log, (m.opening dryRun).run w =
      match m.passage m.changeLog.guard w.transactions with
      | .error result => (.error (.guard result), { w with log := log })
      | .ok .proceed =>
        ((HistoryStore.load w.store).1.mapError Failure.store |>.map
            fun records => some { snapshot := ⟨records, m.ignoreCase⟩ },
          { w with store := (HistoryStore.load w.store).2, log := log })
      | .ok _ => (.ok none, { w with log := log }) := by
  unfold opening Action.info
  rw [Action.run_bind, Action.run_writeLog]
  dsimp only
  rw [Action.run_bind]
  obtain ⟨log, passed⟩ := run_pass m m.changeLog.guard { w with log := w.log ++ _ }
  rw [passed]
  refine ⟨log, ?_⟩
  dsimp only
  cases m.passage m.changeLog.guard w.transactions with
  | error result => rfl
  | ok passage =>
    cases passage with
    | skip => rfl
    | markRan => rfl
    | proceed =>
      dsimp only [Except.mapError]
      unfold select
      rw [Action.run_bind, Action.run_onStore]
      unfold Selection.ofStore
      dsimp only
      rcases HistoryStore.load w.store with ⟨e | records, store⟩
      · rfl
      · rfl

theorem run_pass_log {σ : Type} [HistoryStore σ] (m : Migration) (guard : Option Guard)
    (w : World σ) :
    ∃ passage log, (m.pass guard).run w = (passage, { w with log := log }) := by
  cases guard with
  | none => exact ⟨_, w.log, rfl⟩
  | some g =>
    unfold pass
    rw [Action.run_bind, Action.run_observe]
    dsimp only
    generalize g.run _ = result
    exact ⟨_, _, rfl⟩

theorem opening_eq_some {σ : Type} [HistoryStore σ] {m : Migration} {dryRun : Bool} {s : Selection}
    {w w₀ : World σ} (opened : (m.opening dryRun).run w = (.ok (some s), w₀)) :
    ∃ loaded, HistoryStore.load w.store = (.ok loaded, w₀.store) ∧
      s = { snapshot := ⟨loaded, m.ignoreCase⟩ } := by
  unfold opening Action.info at opened
  rw [Action.run_bind, Action.run_writeLog] at opened
  dsimp only at opened
  rw [Action.run_bind] at opened
  obtain ⟨passage, log, passed⟩ := run_pass_log m m.changeLog.guard { w with log := w.log ++ _ }
  rw [passed] at opened
  rcases passage with e | passage
  · cases opened
  · cases passage with
    | skip => cases opened
    | markRan => cases opened
    | proceed =>
      dsimp only at opened
      unfold select at opened
      rw [Action.run_bind, Action.run_onStore] at opened
      unfold Selection.ofStore at opened
      dsimp only at opened
      rcases read : HistoryStore.load w.store with ⟨e | loaded, store⟩
      · rw [read] at opened
        cases opened
      · rw [read] at opened
        cases opened
        exact ⟨loaded, rfl, rfl⟩

theorem run_opening (m : Migration) (dryRun : Bool) (w : World MemoryStore) :
    ∃ log, (m.opening dryRun).run w =
      (match m.passage m.changeLog.guard w.transactions with
        | .error result => .error (.guard result)
        | .ok .proceed => .ok (some (m.startingSelection w))
        | .ok _ => .ok none, { w with log := log }) := by
  obtain ⟨log, opened⟩ := run_opening_detached m dryRun w
  refine ⟨log, ?_⟩
  rw [opened]
  cases m.passage m.changeLog.guard w.transactions with
  | error result => rfl
  | ok passage =>
    cases passage with
    | proceed => rfl
    | skip => rfl
    | markRan => rfl

@[simp] theorem keysOf_all_skipped (changeSets : List ChangeSet) (kind : Step → Bool) :
    keysOf (changeSets.map fun c => (c, .skipped)) kind =
      if kind .skipped then changeSets.map ChangeSet.key else [] := by
  unfold keysOf
  cases kind_skipped : kind .skipped with
  | false => simp [List.filter_map, Function.comp_def, kind_skipped]
  | true => simp [List.filter_map, Function.comp_def, kind_skipped]

/-- Everything that an update of a store in memory can do: its guard stops it, its guard lets
nothing pass, or it visits the changesets. -/
inductive Course (m : Migration) (w : World MemoryStore) :
    Except Failure Report → World MemoryStore → List (Visit MemoryStore) → Prop
  | halted {result : CheckResult} {w' : World MemoryStore}
      (guard : m.passage m.changeLog.guard w.transactions = .error result)
      (store : w'.store = w.store) (transactions : w'.transactions = w.transactions) :
      Course m w (.error (.guard result)) w' []
  | unmet {passage : Passage} {w' : World MemoryStore}
      (guard : m.passage m.changeLog.guard w.transactions = .ok passage)
      (closed : passage ≠ .proceed)
      (store : w'.store = w.store) (transactions : w'.transactions = w.transactions) :
      Course m w (.ok (m.reportOf false (m.changeLog.changeSets.map fun c => (c, .skipped)))) w' []
  | visited {log : List LogLine} {result : Except Failure (List (ChangeSet × Step))}
      {w₁ w' : World MemoryStore}
      (guard : m.passage m.changeLog.guard w.transactions = .ok .proceed)
      (visited : (m.updateAll false (m.startingSelection w) m.changeLog.changeSets).run
        { w with log := log } = (result, w₁))
      (store : w'.store = w₁.store) (transactions : w'.transactions = w₁.transactions) :
      Course m w (result.map (m.reportOf false)) w'
        (m.visitsFrom (m.startingSelection w) m.changeLog.changeSets { w with log := log })

theorem run_update (m : Migration) (w : World MemoryStore) :
    Course m w ((m.update false).run w).1 ((m.update false).run w).2 (m.visits w) := by
  obtain ⟨log, opened⟩ := run_opening m false w
  unfold visits
  rw [update_eq, Action.run_bind, opened]
  cases guard : m.passage m.changeLog.guard w.transactions with
  | error result => exact .halted guard rfl rfl
  | ok passage =>
    cases passage with
    | skip => exact .unmet guard (by decide) rfl rfl
    | markRan => exact .unmet guard (by decide) rfl rfl
    | proceed =>
      dsimp only
      rw [Action.run_bind]
      rcases visited : (m.updateAll false (m.startingSelection w) m.changeLog.changeSets).run
        { w with log := log } with ⟨e | steps, w'⟩
      · exact .visited guard visited rfl rfl
      · exact .visited guard visited rfl rfl

theorem run_update_of_open (m : Migration) (w : World MemoryStore)
    (open_log : m.changeLog.guard = none) :
    ∃ log,
      let row := (m.updateAll false (m.startingSelection w) m.changeLog.changeSets).run
        { w with log := log }
      ((m.update false).run w).1 = row.1.map (m.reportOf false) ∧
        ((m.update false).run w).2.Alike row.2 := by
  have course := run_update m w
  generalize (m.update false).run w = ended at course ⊢
  obtain ⟨result, w'⟩ := ended
  generalize m.visits w = visits at course
  dsimp only at course ⊢
  cases course with
  | halted guard =>
    rw [open_log, passage_none] at guard
    cases guard
  | unmet guard closed =>
    rw [open_log, passage_none] at guard
    cases guard
    exact absurd rfl closed
  | @visited log row w₁ _ _ visited store transactions =>
    refine ⟨log, ?_, ?_⟩
    · rw [visited]
    · rw [visited]
      exact ⟨store, transactions⟩

end Migration

end SchemaMigration
