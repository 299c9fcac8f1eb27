import SchemaMigration.Proofs.Run.Journal
import SchemaMigration.Proofs.Run.Rehearsal

/-! What becomes of the changesets in an update that returns. Each position of the changelog is
applied, skipped or marked as ran, and the lists of the report, its SQL and the calls on the store
agree on it. -/

namespace SchemaMigration

inductive Fate
  | applied
  | skipped
  | markedRan
  deriving DecidableEq, Repr

def ChangeLog.fated (l : ChangeLog) (fate : Fin l.changeSets.length → Fate) (chosen : Fate → Bool) :
    List ChangeSet :=
  ((List.finRange l.changeSets.length).filter fun i => chosen (fate i)).map l.changeSets.get

namespace Migration

open SchemaMigration.Action

/-- An update is accounted for by the fates of the positions in its changelog. -/
structure AccountsFor (m : Migration) (dryRun : Bool)
    (fate : Fin m.changeLog.changeSets.length → Fate)
    (calls : List StoreCall) (report : Report) : Prop where
  applied : report.applied = (m.changeLog.fated fate (· == .applied)).map ChangeSet.key
  skipped : report.skipped = (m.changeLog.fated fate (· == .skipped)).map ChangeSet.key
  markedRan : report.markedRan = (m.changeLog.fated fate (· == .markedRan)).map ChangeSet.key
  statements : ((m.changeLog.fated fate (· == .applied)).mapM fun c =>
    m.render c.changes).map List.flatten =
    .ok report.statements
  recorded : dryRun = false →
    calls.filterMap StoreCall.marked? = m.changeLog.fated fate (· != .skipped)
  spared : dryRun = true → calls = []

def Step.fate : Step → Fate
  | .skipped => .skipped
  | .markedRan => .markedRan
  | .applied _ => .applied

structure Books (m : Migration) (dryRun : Bool)
    (steps : List (ChangeSet × Step)) (calls : List StoreCall) : Prop where
  rendered : ∀ c sql, (c, .applied sql) ∈ steps → m.render c.changes = .ok sql
  recorded : dryRun = false →
    calls.filterMap StoreCall.marked? = (steps.filter fun p => p.2.fate != .skipped).map Prod.fst
  spared : dryRun = true → calls = []

section Books

variable {m : Migration} {dryRun : Bool} {c : ChangeSet} {step : Step}

theorem Books.append {steps more : List (ChangeSet × Step)} {calls later : List StoreCall}
    (h : m.Books dryRun steps calls) (hm : m.Books dryRun more later) :
    m.Books dryRun (steps ++ more) (calls ++ later) where
  rendered c sql mem := (List.mem_append.mp mem).elim (h.rendered c sql) (hm.rendered c sql)
  recorded wet := by
    rw [List.filterMap_append, h.recorded wet, hm.recorded wet, List.filter_append, List.map_append]
  spared dry := by rw [h.spared dry, hm.spared dry, List.append_nil]

theorem books_nil {calls : List StoreCall} (unmarked : calls.filterMap StoreCall.marked? = [])
    (spared : dryRun = true → calls = []) : m.Books dryRun [] calls where
  rendered _ _ mem := by cases mem
  recorded _ := unmarked
  spared := spared

theorem books_skipped (m : Migration) (dryRun : Bool) (changeSets : List ChangeSet) :
    m.Books dryRun (changeSets.map fun c => (c, .skipped)) [] where
  rendered c sql mem := by simp at mem
  recorded _ := by simp [List.filter_map, Function.comp_def, Step.fate]
  spared _ := rfl

theorem books_done (now : Timestamp) (path : Value) (done : step.fate ≠ .skipped)
    (rendered : ∀ sql, step = .applied sql → m.render c.changes = .ok sql) :
    m.Books dryRun [(c, step)] (if dryRun then [] else [.markRan now c path]) where
  rendered d sql mem := by
    cases List.mem_singleton.mp mem
    exact rendered sql rfl
  recorded wet := by simp [wet, StoreCall.marked?, done]
  spared dry := by simp [dry]

end Books

section Store

variable {σ : Type} [HistoryStore σ]

theorem journals_applyOne (m : Migration) (dryRun : Bool) (path : Value) (c : ChangeSet) :
    Journals (fun step made => m.Books dryRun [(c, step)] made)
      (m.applyOne dryRun path c : Action σ Step)
      (m.applyOne dryRun path c) := by
  refine (isCallFree_pass m c.guard).bind fun passage => ?_
  cases passage with
  | skip => exact journals_pure (books_skipped m dryRun [c])
  | markRan =>
    have books : m.Books dryRun [(c, .markedRan)] (if dryRun then []
        else [.markRan m.now c path]) :=
      books_done m.now path (by decide) nofun
    cases dryRun with
    | true => exact journals_pure books
    | false =>
      refine (journals_markRan m c path).bind ?_
      rintro _ _ rfl
      exact journals_pure books
  | proceed =>
    refine (journals_ofExcept (m.render c.changes)).bind ?_
    rintro sql _ ⟨rendered, rfl⟩
    have books : m.Books dryRun [(c, .applied sql)] (if dryRun then []
        else [.markRan m.now c path]) :=
      books_done m.now path (by simp [Step.fate]) fun _ same => Step.applied.inj same ▸ rendered
    cases dryRun with
    | true => exact journals_pure books
    | false =>
      refine (isCallFree_execute m c sql).bind fun _ => ?_
      refine (journals_markRan m c path).bind ?_
      rintro _ _ rfl
      -- the call has been made, and what is confirmed afterwards makes no other
      refine (journals_ofExcept _).bind ?_
      rintro texts _ ⟨-, rfl⟩
      exact (isCallFree_writeLog _).bind fun _ => journals_pure books

theorem updateOne_eq (m : Migration) (dryRun : Bool) (s : Selection) (c : ChangeSet) :
    (m.updateOne dryRun s c : Action σ (Step × Selection)) =
      (if dryRun then pure s else reconcile s c) >>= fun s' =>
        if s'.snapshot.isObstructed c then fail (.store (.misfit .lacking))
        else if !s'.snapshot.mustRun c then pure (.skipped, s')
        else m.applyOne dryRun (s'.snapshot.recordedPath c) c >>= fun step => pure (step, s') := by
  cases dryRun with
  | true => rfl
  | false => rfl

theorem journals_updateOne (m : Migration) (dryRun : Bool) (s : Selection) (c : ChangeSet) :
    Journals (fun done made => m.Books dryRun [(c, done.1)] made)
      (m.updateOne dryRun s c : Action σ (Step × Selection)) (m.updateOne dryRun s c) := by
  have reconciled : Journals (fun _ made => m.Books dryRun [] made)
      (if dryRun then pure s else reconcile s c : Action σ Selection)
      (if dryRun then pure s else reconcile s c) := by
    cases dryRun with
    | true => exact journals_pure (books_nil rfl fun _ => rfl)
    | false =>
      exact (journals_reconcile s c).mono fun _ _ unmarked =>
        books_nil unmarked fun dry => by cases dry
  rw [updateOne_eq, updateOne_eq]
  refine reconciled.bind fun s' made first => ?_
  split
  · exact journals_fail _
  · split
    · exact journals_pure (first.append (books_skipped m dryRun [c]))
    · exact (journals_applyOne m dryRun _ c).map fun step more later => first.append later

theorem journals_updateAll (m : Migration) (dryRun : Bool) (s : Selection)
    (changeSets : List ChangeSet) :
    Journals (fun steps made => steps.map Prod.fst = changeSets ∧ m.Books dryRun steps made)
      (m.updateAll dryRun s changeSets : Action σ (List (ChangeSet × Step)))
      (m.updateAll dryRun s changeSets) := by
  induction changeSets generalizing s with
  | nil => exact journals_pure ⟨rfl, books_skipped m dryRun []⟩
  | cons c rest ih =>
    refine (journals_updateOne m dryRun s c).bind ?_
    rintro ⟨step, s'⟩ made first
    exact (ih s').map fun steps more row => ⟨congrArg (c :: ·) row.1, first.append row.2⟩

theorem isCallFree_opening (m : Migration) (dryRun : Bool) :
    IsCallFree (m.opening dryRun : Action σ (Option Selection)) (m.opening dryRun) := by
  refine (isCallFree_writeLog _).bind fun _ => ?_
  refine (isCallFree_pass m m.changeLog.guard).bind fun passage => ?_
  cases passage with
  | skip => exact journals_pure rfl
  | markRan => exact journals_pure rfl
  | proceed => exact (isCallFree_select m).bind fun _ => journals_pure rfl

theorem journals_update (m : Migration) (dryRun : Bool) :
    Journals (fun report made => ∃ steps, steps.map Prod.fst = m.changeLog.changeSets ∧
        m.Books dryRun steps made ∧ report = m.reportOf dryRun steps)
      (m.update dryRun : Action σ Report) (m.update dryRun) := by
  rw [update_eq, update_eq]
  refine (isCallFree_opening m dryRun).bind fun opened => ?_
  cases opened with
  | none =>
    refine (isCallFree_writeLog _).bind fun _ => ?_
    refine journals_pure ⟨m.changeLog.changeSets.map fun c => (c, .skipped), ?_,
      books_skipped m dryRun _, rfl⟩
    rw [List.map_map]
    exact List.map_id' _
  | some s =>
    refine (journals_updateAll m dryRun s m.changeLog.changeSets).bind fun steps made row => ?_
    refine (isCallFree_writeLog _).bind fun _ => journals_pure ⟨steps, row.1, ?_, rfl⟩
    rw [List.append_nil]
    exact row.2

end Store

theorem Step.isApplied_eq (step : Step) : step.isApplied = (step.fate == .applied) := by
  cases step <;> rfl

theorem Step.isSkipped_eq (step : Step) : step.isSkipped = (step.fate == .skipped) := by
  cases step <;> rfl

theorem Step.isMarkedRan_eq (step : Step) : step.isMarkedRan = (step.fate == .markedRan) := by
  cases step <;> rfl

theorem exists_fate {l : ChangeLog} {steps : List (ChangeSet × Step)}
    (complete : steps.map Prod.fst = l.changeSets) :
    ∃ fate, ∀ chosen, l.fated fate chosen =
      (steps.filter fun p => chosen p.2.fate).map Prod.fst := by
  have same_length : l.changeSets.length = steps.length := by rw [← complete, List.length_map]
  refine ⟨fun i => (steps.get (i.cast same_length)).2.fate, fun chosen => ?_⟩
  have steps_eq : steps = (List.finRange l.changeSets.length).map fun i =>
      steps.get (i.cast same_length) :=
    List.ext_getElem (by simp [same_length]) (by simp)
  have changeSet_eq : ∀ i : Fin l.changeSets.length,
      l.changeSets.get i = (steps.get (i.cast same_length)).1 := by
    intro i
    simp [← complete]
  conv_rhs => rw [steps_eq, List.filter_map, List.map_map]
  exact List.map_congr_left fun i _ => changeSet_eq i

theorem exists_rendered {m : Migration} {steps : List (ChangeSet × Step)}
    (rendered : ∀ c sql, (c, .applied sql) ∈ steps → m.render c.changes = .ok sql) :
    ∃ pieces, ((steps.filter fun p => p.2.fate == .applied).map Prod.fst).mapM
      (fun c => m.render c.changes) =
        .ok pieces ∧
      pieces.flatten = steps.flatMap fun p => p.2.sql := by
  induction steps with
  | nil => exact ⟨[], rfl, rfl⟩
  | cons p rest ih =>
    obtain ⟨pieces, others, statements⟩ :=
      ih fun c sql mem => rendered c sql (List.mem_cons_of_mem p mem)
    obtain ⟨c, step⟩ := p
    cases step with
    | skipped => exact ⟨pieces, others, statements⟩
    | markedRan => exact ⟨pieces, others, statements⟩
    | applied sql =>
      refine ⟨sql :: pieces, ?_, congrArg (sql ++ ·) statements⟩
      have first := rendered c sql List.mem_cons_self
      rw [List.filter_cons_of_pos (by rfl), List.map_cons, List.mapM_cons, first, others]
      rfl

/-- An update that returns, dry or not, gives each position of its changelog one fate. By it the
report lists the changesets, in the order of the changelog, and the store is told of those that were
not skipped, once each. -/
theorem accountsFor_of_update {σ : Type} [HistoryStore σ] {m : Migration} {dryRun : Bool}
    {w w' : World σ}
    {report : Report} (returned : (m.update dryRun).run w = (.ok report, w')) :
    ∃ fate calls, (m.update dryRun).run (w.journaled []) = (.ok report, w'.journaled calls) ∧
      m.AccountsFor dryRun fate calls report := by
  obtain ⟨calls, same, belongs⟩ := journals_update m dryRun w []
  rw [returned] at same belongs
  obtain ⟨steps, complete, books, rfl⟩ := belongs report rfl
  obtain ⟨fate, fated⟩ := exists_fate complete
  obtain ⟨pieces, pieces_eq, statements⟩ := exists_rendered books.rendered
  refine ⟨fate, calls, same, ?_⟩
  exact {
    applied := by simp only [reportOf, keysOf, fated, List.map_map, Step.isApplied_eq,
      Function.comp_def]
    skipped := by simp only [reportOf, keysOf, fated, List.map_map, Step.isSkipped_eq,
      Function.comp_def]
    markedRan := by simp only [reportOf, keysOf, fated, List.map_map, Step.isMarkedRan_eq,
      Function.comp_def]
    statements := by
      rw [fated, pieces_eq]
      exact congrArg Except.ok statements
    recorded := fun wet => by rw [fated, books.recorded wet]
    spared := books.spared }

def ordersLater : ChangeSet where
  id := .text "3"
  author := .text "alice"
  path := .text "db/changelog.py"
  guard :=
    some { policy := { onFail := .retry }, preconditions := [.check (.dbms (.text "oracle"))] }

def threefoldRun : Migration :=
  { ordersRun with
    changeLog :=
      { ordersRun.changeLog with changeSets := [ordersElsewhere, ordersLater, ordersTable] } }

theorem accountsFor_of_update_threefold :
    ∃ report w', (threefoldRun.update false).run ordersRan = (.ok report, w') ∧
      (report.applied.length, report.skipped.length, report.markedRan.length) = (1, 1, 1) ∧
      ∃ fate calls, (threefoldRun.update false).run (ordersRan.journaled []) =
        (.ok report, w'.journaled calls) ∧
        threefoldRun.AccountsFor false fate calls report := by
  have counts : ((threefoldRun.update false).run ordersRan).1.toOption.map
      (fun report => (report.applied.length, report.skipped.length, report.markedRan.length)) =
          some (1, 1, 1) := by
    decide +kernel
  rcases returned : (threefoldRun.update false).run ordersRan with ⟨e | report, w'⟩
  · rw [returned] at counts
    cases counts
  · rw [returned] at counts
    exact ⟨report, w', rfl, Option.some.inj counts, accountsFor_of_update returned⟩

end Migration

end SchemaMigration
