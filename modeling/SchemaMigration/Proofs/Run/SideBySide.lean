import Mathlib.Data.List.Forall2
import SchemaMigration.Proofs.History.Recasing
import SchemaMigration.Proofs.Precondition.Naming
import SchemaMigration.Proofs.Run.Visit

namespace SchemaMigration

def IsRecasedKey (k k' : String) : Prop := ∃ c d : ChangeSet, c.IsRecased d ∧ k = c.key ∧ k' = d.key

/-- One failure in two runs, but for the paths that it names. -/
inductive Failure.IsRecased : Failure → Failure → Prop
  | same (e : Failure) : IsRecased e e
  | guard (result : CheckResult) (path : Option Value) :
    IsRecased (.guard result) (.guard (result.naming path))
  | migration {k k' : String} (keys : IsRecasedKey k k') (detail : String)
    (statement : Option String) :
    IsRecased (.migration k detail statement) (.migration k' detail statement)
  | noEngine {k k' : String} (keys : IsRecasedKey k k') : IsRecased (.noEngine k) (.noEngine k')

/-- One report of two runs, but for the paths in its keys. -/
structure Report.IsRecased (r r' : Report) : Prop where
  others : r' = { r with
    applied := r'.applied
    skipped := r'.skipped
    markedRan := r'.markedRan
    rolledBack := r'.rolledBack }
  applied : List.Forall₂ IsRecasedKey r.applied r'.applied
  skipped : List.Forall₂ IsRecasedKey r.skipped r'.skipped
  markedRan : List.Forall₂ IsRecasedKey r.markedRan r'.markedRan
  rolledBack : List.Forall₂ IsRecasedKey r.rolledBack r'.rolledBack

/-- Two runs that both return, with results that go together, or both fail for one reason. -/
inductive Matched {α β : Type} (R : α → β → Prop) : Except Failure α → Except Failure β → Prop
  | ok {a : α} {b : β} (results : R a b) : Matched R (.ok a) (.ok b)
  | error {e e' : Failure} (failures : e.IsRecased e') : Matched R (.error e) (.error e')

structure Ends {α β : Type} (R : α → β → Prop) (T : World MemoryStore → World MemoryStore → Prop)
    (o : Except Failure α × World MemoryStore) (o' : Except Failure β × World MemoryStore) :
    Prop where
  results : Matched R o.1 o'.1
  worlds : T o.2 o'.2

namespace Ends

variable {α β γ δ : Type} {R : α → β → Prop} {Q : γ → δ → Prop}
  {T U : World MemoryStore → World MemoryStore → Prop} {w w' : World MemoryStore}

theorem bind {x : Action MemoryStore α} {y : Action MemoryStore β} {f : α → Action MemoryStore γ}
    {g : β → Action MemoryStore δ} (first : Ends R T (x.run w) (y.run w'))
    (weaker : ∀ v v', T v v' → U v v')
    (later : ∀ a b v v', R a b → T v v' → Ends Q U ((f a).run v) ((g b).run v')) :
    Ends Q U ((x >>= f).run w) ((y >>= g).run w') := by
  rw [Action.run_bind, Action.run_bind]
  generalize x.run w = o at first ⊢
  generalize y.run w' = o' at first ⊢
  obtain ⟨o, v⟩ := o
  obtain ⟨o', v'⟩ := o'
  obtain ⟨results, worlds⟩ := first
  dsimp only at results worlds
  cases results with
  | ok both => exact later _ _ _ _ both worlds
  | error failures => exact ⟨.error failures, weaker _ _ worlds⟩

theorem map {o : Except Failure α × World MemoryStore} {o' : Except Failure β × World MemoryStore}
    {f : α → γ} {g : β → δ} (h : Ends R T o o') (both : ∀ a b, R a b → Q (f a) (g b)) :
    Ends Q T (o.1.map f, o.2) (o'.1.map g, o'.2) := by
  obtain ⟨results, worlds⟩ := h
  refine ⟨?_, worlds⟩
  generalize o.1 = result at results ⊢
  generalize o'.1 = result' at results ⊢
  cases results with
  | ok same => exact .ok (both _ _ same)
  | error failures => exact .error failures

theorem ofExcept_bind {result : Except Failure α} {f : α → Action MemoryStore γ}
    {g : α → Action MemoryStore δ} (worlds : U w w')
    (later : ∀ a, result = .ok a → Ends Q U ((f a).run w) ((g a).run w')) :
    Ends Q U ((Action.ofExcept result >>= f).run w) ((Action.ofExcept result >>= g).run w') := by
  cases result with
  | error e => exact ⟨.error (.same e), worlds⟩
  | ok a => exact later a rfl

end Ends

namespace World

variable {vacant : Option (String × String × String) → Prop} {start kept : List Record}
  {new : List (Record × Record)} {w w' v v' : World MemoryStore}

structure KeepStores (w w' v v' : World MemoryStore) : Prop where
  left : v.store = w.store
  right : v'.store = w'.store
  transactions : v'.transactions = v.transactions

/-- Two worlds with stores side by side, in which the engine was sent the same. -/
structure SideBySide (vacant : Option (String × String × String) → Prop) (start kept : List Record)
    (new : List (Record × Record)) (w w' : World MemoryStore) : Prop where
  transactions : w'.transactions = w.transactions
  store : MemoryStore.SideBySide vacant start kept new w.store w'.store

theorem SideBySide.keepStores (h : SideBySide vacant start kept new w w')
    (same : KeepStores w w' v v') :
    SideBySide vacant start kept new v v' where
  transactions := same.transactions
  store := by
    rw [same.left, same.right]
    exact h.store

def AreSideBySide (vacant : Option (String × String × String) → Prop) (start : List Record)
    (w w' : World MemoryStore) : Prop :=
  ∃ kept new, SideBySide vacant start kept new w w'

structure AreGrowing (vacant : Option (String × String × String) → Prop) (start : List Record)
    (w w' : World MemoryStore) : Prop where
  sideBySide : AreSideBySide vacant start w w'
  vacancies : ∀ texts, w.store.IsVacant texts → vacant texts

theorem AreGrowing.keepStores (h : AreGrowing vacant start w w') (same : KeepStores w w' v v') :
    AreGrowing vacant start v v' := by
  obtain ⟨⟨kept, new, worlds⟩, vacancies⟩ := h
  exact ⟨⟨kept, new, worlds.keepStores same⟩, by rwa [same.left]⟩

theorem AreGrowing.transactions_eq (h : AreGrowing vacant start w w') :
    w'.transactions = w.transactions := by
  obtain ⟨⟨_, _, worlds⟩, -⟩ := h
  exact worlds.transactions

end World

/-- Two migrations that differ in the path of their changelog, and in the letter case of the paths
of its changesets. -/
structure Migration.IsRecased (m n : Migration) : Prop where
  others : n = { m with changeLog :=
    { m.changeLog with path := n.changeLog.path, changeSets := n.changeLog.changeSets } }
  changeSets : List.Forall₂ ChangeSet.IsRecased m.changeLog.changeSets n.changeLog.changeSets

namespace Migration

variable {m n : Migration} {c d : ChangeSet} {w w' : World MemoryStore}
  {vacant : Option (String × String × String) → Prop} {start : List Record}

namespace IsRecased

variable (h : m.IsRecased n)

include h

theorem database_eq : n.database = m.database := by rw [h.others]

theorem registry_eq : n.registry = m.registry := by rw [h.others]

theorem ignoreCase_eq : n.ignoreCase = m.ignoreCase := by rw [h.others]

theorem now_eq : n.now = m.now := by rw [h.others]

theorem guard_eq : n.changeLog.guard = m.changeLog.guard := by rw [h.others]

theorem render_eq : n.render = m.render := by
  rw [h.others]
  rfl

theorem passage_eq (guard : Option Guard) (transactions : List Transaction) :
    n.passage guard transactions =
      (m.passage guard transactions).mapError (.naming (some n.changeLog.path)) := by
  cases guard with
  | none => rfl
  | some g =>
    unfold passage
    rw [h.database_eq]
    exact g.run_naming ⟨m.database, transactions, some m.changeLog.path⟩

theorem inverseStatements_eq (changes : List Change) :
    n.inverseStatements changes = m.inverseStatements changes := by
  induction changes with
  | nil => rfl
  | cons change rest ih =>
    unfold inverseStatements
    rw [ih, h.database_eq, h.registry_eq]

theorem renderRollback_eq (recased : c.IsRecased d) : n.renderRollback d = m.renderRollback c := by
  have rollback_eq : d.rollback = c.rollback := by rw [recased.others]
  unfold renderRollback
  rw [rollback_eq, recased.changes_eq, h.inverseStatements_eq, h.database_eq,
    h.registry_eq, h.render_eq]

end IsRecased

theorem ends_pass (h : m.IsRecased n) (guard : Option Guard)
    (same : w'.transactions = w.transactions) :
    Ends Eq (World.KeepStores w w') ((m.pass guard).run w) ((n.pass guard).run w') := by
  obtain ⟨log, passed⟩ := run_pass m guard w
  obtain ⟨log', passed'⟩ := run_pass n guard w'
  rw [passed, passed', h.passage_eq, same]
  refine ⟨?_, rfl, rfl, rfl⟩
  cases m.passage guard w.transactions with
  | error result => exact .error (.guard result _)
  | ok passage => exact .ok rfl

theorem isRecasedKey (recased : c.IsRecased d) : IsRecasedKey c.key d.key :=
  ⟨c, d, recased, rfl, rfl⟩

section Visit

variable (h : m.IsRecased n) (recased : c.IsRecased d)

include h recased

theorem ends_execute (sql : List String) (same : w'.transactions = w.transactions) :
    Ends (fun _ _ => True) (World.KeepStores w w') ((m.execute c sql).run w)
      ((n.execute d sql).run w') := by
  cases engine_eq : m.database.engine with
  | none =>
    simp only [execute, Action.run_bind, Action.run_observe, World.view_memory,
      h.database_eq, engine_eq, Action.run_fail]
    exact ⟨.error (.noEngine (isRecasedKey recased)), rfl, rfl, same⟩
  | some engine =>
    rcases sent : engine.transact w.transactions sql with ⟨t, _ | ⟨statement, fault⟩⟩
    · simp only [execute, Action.run_bind, Action.run_observe, World.view_memory,
        h.database_eq, engine_eq, sent, same, Action.run_record, Action.run_pure]
      exact ⟨.ok trivial, rfl, rfl, rfl⟩
    · simp only [execute, Action.run_bind, Action.run_observe, World.view_memory,
        h.database_eq, engine_eq,
        sent, same, Action.run_record, Action.run_writeLog, Action.run_fail]
      refine ⟨.error ?_, rfl, rfl, rfl⟩
      -- only a fault of the database is reported under the key of the changeset
      cases fault with
      | database message => exact .migration (isRecasedKey recased) message statement
      | foreign kind message => exact .same _

theorem ends_markRan (hc : c.identity.IsTextual) (worlds : World.AreGrowing vacant start w w') :
    Ends (fun _ _ => True) (World.AreGrowing vacant start)
      ((m.markRan c ((w.store.snapshot true).recordedPath c)).run w)
      ((n.markRan d ((w'.store.snapshot true).recordedPath d)).run w') := by
  obtain ⟨⟨kept, new, both⟩, vacancies⟩ := worlds
  unfold Migration.markRan
  rw [h.now_eq, Action.run_onStore, Action.run_onStore]
  rcases both.store.markRan vacancies recased hc m.now with
    ⟨e, left, right⟩ | ⟨store, store', kept₁, new₁, left, right, after, vacancies₁⟩
  · simp only [HistoryStore.markRan, left, right]
    exact ⟨.error (.same _), ⟨kept, new, both.transactions, both.store⟩, vacancies⟩
  · simp only [HistoryStore.markRan, left, right]
    exact ⟨.ok trivial, ⟨kept₁, new₁, both.transactions, after⟩, vacancies₁⟩

theorem ends_applyOne (hc : c.identity.IsTextual) (worlds : World.AreGrowing vacant start w w') :
    Ends Eq (World.AreGrowing vacant start)
      ((m.applyOne false ((w.store.snapshot true).recordedPath c) c).run w)
      ((n.applyOne false ((w'.store.snapshot true).recordedPath d) d).run w') := by
  have guard_eq : d.guard = c.guard := by rw [recased.others]
  have confirmations_eq : d.confirmations = c.confirmations :=
    congrArg Change.confirmations recased.changes_eq
  unfold applyOne
  rw [guard_eq, h.render_eq, recased.changes_eq, confirmations_eq]
  refine (ends_pass h c.guard worlds.transactions_eq).bind
    (fun v v' same => worlds.keepStores same) ?_
  intro passage _ v v' same_passage same
  cases same_passage
  have worlds₁ := worlds.keepStores same
  rw [← same.left, ← same.right]
  cases passage with
  | skip => exact ⟨.ok rfl, worlds₁⟩
  | markRan =>
    refine Ends.bind (ends_markRan h recased hc worlds₁) (fun _ _ after => after) ?_
    intro _ _ u u' _ after
    exact ⟨.ok rfl, after⟩
  | proceed =>
    refine Ends.ofExcept_bind worlds₁ fun sql _ => ?_
    refine Ends.bind (ends_execute h recased sql worlds₁.transactions_eq)
      (fun u u' same₁ => worlds₁.keepStores same₁) fun _ _ u u' _ same₁ => ?_
    rw [← same₁.left, ← same₁.right]
    refine Ends.bind (ends_markRan h recased hc (worlds₁.keepStores same₁))
      (fun _ _ after => after) ?_
    intro _ _ u₁ u₁' _ after
    refine Ends.ofExcept_bind after fun texts _ => ?_
    exact ⟨.ok rfl, after.keepStores ⟨rfl, rfl, after.transactions_eq⟩⟩

end Visit

section Selection

variable {s s' : Selection} (folded : s.snapshot.ignoreCase = true)
  (folded' : s'.snapshot.ignoreCase = true)
  (recased : c.IsRecased d) (hc : c.identity.IsTextual) (current : s.IsCurrent w.store c)
  (current' : s'.IsCurrent w'.store d)

include folded folded' recased hc current current'

theorem areGrowing_writtenBack (worlds : World.AreGrowing vacant start w w') :
    World.AreGrowing vacant start { w with store := s.writtenBack w.store c }
      { w' with store := s'.writtenBack w'.store d } := by
  obtain ⟨⟨kept, new, both⟩, vacancies⟩ := worlds
  have due := Selection.toReconcile?_of_unwritten current.unwritten
  have due' := Selection.toReconcile?_of_unwritten current'.unwritten
  rw [current.agrees.find?, folded] at due
  rw [current'.agrees.find?, folded'] at due'
  unfold Selection.writtenBack
  rw [due, due']
  rcases both.store.find?_cases recased hc with ⟨left, right⟩ | ⟨r, r', counterparts, left, right⟩
  · rw [left, right]
    exact ⟨⟨kept, new, both⟩, vacancies⟩
  · rw [left, right]
    simp only [Option.filter_some, both.store.hasDrifted_eq recased counterparts]
    cases Snapshot.hasDrifted c r with
    | false => exact ⟨⟨kept, new, both⟩, vacancies⟩
    | true =>
      have textual := Snapshot.isTextual_of_find? hc left
      have textual' := Snapshot.isTextual_of_find? (recased.isTextual hc) right
      have written := both.store.updateChecksum (both.store.tally counterparts) textual textual'
        (.text c.checksum)
      rw [recased.checksum_eq]
      exact ⟨⟨_, _, both.transactions, written⟩, fun texts free =>
        vacancies texts free.of_updateChecksum⟩

theorem ends_updateOne (h : m.IsRecased n) (worlds : World.AreGrowing vacant start w w') :
    Ends (fun done done' => done'.1 = done.1) (World.AreGrowing vacant start)
      ((m.updateOne false s c).run w) ((n.updateOne false s' d).run w') := by
  have hd := recased.isTextual hc
  have ⟨⟨kept, new, both⟩, _⟩ := worlds
  -- each selection was read earlier, but of this changeset it still says what its store holds
  have obstructed := current.agrees.isObstructed
  have obstructed' := current'.agrees.isObstructed
  have decided := current.agrees.mustRun
  have decided' := current'.agrees.mustRun
  rw [folded] at obstructed decided
  rw [folded', both.store.isObstructed_eq recased hc, ← obstructed] at obstructed'
  rw [folded', both.store.mustRun_eq recased hc, ← decided] at decided'
  have recordedPath := Selection.recordedPath_writtenBack hc current
  have recordedPath' := Selection.recordedPath_writtenBack hd current'
  rw [folded] at recordedPath
  rw [folded'] at recordedPath'
  have worlds₁ := areGrowing_writtenBack folded folded' recased hc current current' worlds
  rw [run_updateOne_eq m s hc, run_updateOne_eq n s' hd, obstructed', decided']
  cases s.snapshot.isObstructed c with
  | true => exact ⟨.error (.same _), worlds⟩
  | false =>
    cases s.snapshot.mustRun c with
    | false => exact ⟨.ok rfl, worlds₁⟩
    | true =>
      have treated := ends_applyOne h recased hc worlds₁
      rw [recordedPath, recordedPath'] at treated
      exact treated.map fun step step' same => same.symm

end Selection

def IsSameStep (done done' : ChangeSet × Step) : Prop := done.1.IsRecased done'.1 ∧ done'.2 = done.2

theorem ends_updateAll (h : m.IsRecased n) {cs ds : List ChangeSet}
    (recased : List.Forall₂ ChangeSet.IsRecased cs ds) {s s' : Selection}
    (folded : s.snapshot.ignoreCase = true) (folded' : s'.snapshot.ignoreCase = true)
    (distinct : ChangeSet.AreDistinct true cs) (current : ∀ c ∈ cs, s.IsCurrent w.store c)
    (current' : ∀ d ∈ ds, s'.IsCurrent w'.store d) (worlds : World.AreGrowing vacant start w w') :
    Ends (List.Forall₂ IsSameStep) (World.AreGrowing vacant start) ((m.updateAll false s cs).run w)
      ((n.updateAll false s' ds).run w') := by
  induction recased generalizing s s' w w' with
  | nil => exact ⟨.ok .nil, worlds⟩
  | @cons c d cs ds first rest ih =>
    have distinct' := distinct.recased (.cons first rest)
    have hd := distinct'.head
    have visit := ends_updateOne folded folded' first distinct.head (current c List.mem_cons_self)
      (current' d List.mem_cons_self) h worlds
    have turn := run_updateOne m s distinct.head w
    have turn' := run_updateOne n s' hd w'
    -- the visits end alike, so that only two of the four cases are left
    rcases visited : (m.updateOne false s c).run w with ⟨e | ⟨step, s₁⟩, w₁⟩ <;>
      rcases visited' : (n.updateOne false s' d).run w' with ⟨e' | ⟨step', s₁'⟩, w₁'⟩ <;>
      rw [visited, visited'] at visit <;> obtain ⟨results, worlds₁⟩ := visit
    · rw [run_updateAll_error visited, run_updateAll_error visited']
      cases results with
      | error failures => exact ⟨.error failures, worlds₁⟩
    · cases results
    · cases results
    · rw [visited] at turn
      rw [visited'] at turn'
      obtain rfl : step' = step := by
        cases results with
        | ok same => exact same
      cases turn.selection_eq
      cases turn'.selection_eq
      rw [run_updateAll_ok visited, run_updateAll_ok visited']
      have noted : (s.noting c).snapshot.ignoreCase = true := by rwa [Selection.snapshot_noting]
      have noted' : (s'.noting d).snapshot.ignoreCase = true := by rwa [Selection.snapshot_noting]
      have later := ih noted noted' distinct.tail (turn.isCurrent (by rwa [folded]) current)
        (turn'.isCurrent (by rwa [folded']) current') worlds₁
      exact later.map fun more more' both => .cons ⟨first, rfl⟩ both

theorem forall₂_keysOf {steps steps' : List (ChangeSet × Step)}
    (same : List.Forall₂ IsSameStep steps steps')
    (kind : Step → Bool) : List.Forall₂ IsRecasedKey (keysOf steps kind) (keysOf steps' kind) := by
  unfold keysOf
  induction same with
  | nil => exact .nil
  | @cons done done' _ _ first _ ih =>
    obtain ⟨c, step⟩ := done
    obtain ⟨d, _⟩ := done'
    obtain ⟨recased, rfl⟩ := first
    rw [List.filter_cons, List.filter_cons]
    dsimp only
    split
    · exact .cons (isRecasedKey recased) ih
    · exact ih

theorem isRecased_reportOf (h : m.IsRecased n) {steps steps' : List (ChangeSet × Step)}
    (same : List.Forall₂ IsSameStep steps steps') :
    (m.reportOf false steps).IsRecased (n.reportOf false steps') where
  others := by
    have statements : (steps'.flatMap fun done => done.2.sql) = steps.flatMap fun done =>
        done.2.sql := by
      induction same with
      | nil => rfl
      | cons first _ ih => rw [List.flatMap_cons, List.flatMap_cons, first.2, ih]
    unfold reportOf
    rw [statements, h.now_eq]
  applied := forall₂_keysOf same _
  skipped := forall₂_keysOf same _
  markedRan := forall₂_keysOf same _
  rolledBack := .nil

theorem ends_opening (h : m.IsRecased n) (same : w'.transactions = w.transactions) :
    Ends (fun opened opened' =>
        opened = some (m.startingSelection w) ∧ opened' = some (n.startingSelection w') ∨
          opened = none ∧ opened' = none) (World.KeepStores w w')
      ((m.opening false).run w) ((n.opening false).run w') := by
  obtain ⟨log, opened⟩ := run_opening m false w
  obtain ⟨log', opened'⟩ := run_opening n false w'
  rw [h.guard_eq, h.passage_eq, same] at opened'
  rw [opened, opened']
  refine ⟨?_, rfl, rfl, rfl⟩
  cases m.passage m.changeLog.guard w.transactions with
  | error result => exact .error (.guard result _)
  | ok passage =>
    cases passage with
    | proceed => exact .ok (.inl ⟨rfl, rfl⟩)
    | skip => exact .ok (.inr ⟨rfl, rfl⟩)
    | markRan => exact .ok (.inr ⟨rfl, rfl⟩)

theorem ends_update (h : m.IsRecased n) (folded : m.ignoreCase = true)
    (distinct : ChangeSet.AreDistinct true m.changeLog.changeSets)
    (worlds : World.AreGrowing vacant start w w') :
    Ends Report.IsRecased (World.AreGrowing vacant start) ((m.update false).run w)
      ((n.update false).run w') := by
  have folded' : n.ignoreCase = true := h.ignoreCase_eq.trans folded
  rw [update_eq, update_eq]
  refine (ends_opening h worlds.transactions_eq).bind (fun v v' same => worlds.keepStores same) ?_
  intro opened opened' v v' outcome same
  have worlds₁ := worlds.keepStores same
  rcases outcome with ⟨rfl, rfl⟩ | ⟨rfl, rfl⟩
  · have starting : (m.startingSelection w).snapshot.ignoreCase = true := folded
    have starting' : (n.startingSelection w').snapshot.ignoreCase = true := folded'
    have row := ends_updateAll h h.changeSets starting starting' distinct
      (fun c _ => same.left ▸ Selection.isCurrent_ofStore _ _ c)
      (fun d _ => same.right ▸ Selection.isCurrent_ofStore _ _ d) worlds₁
    refine row.bind (fun _ _ after => after) ?_
    intro steps steps' u u' same_steps after
    exact ⟨.ok (isRecased_reportOf h same_steps),
      after.keepStores ⟨rfl, rfl, after.transactions_eq⟩⟩
  · have all_skipped : List.Forall₂ IsSameStep (m.changeLog.changeSets.map fun c =>
      (c, Step.skipped))
        (n.changeLog.changeSets.map fun d => (d, Step.skipped)) := by
      rw [List.forall₂_map_left_iff, List.forall₂_map_right_iff]
      exact h.changeSets.imp fun _ _ recased => ⟨recased, rfl⟩
    exact ⟨.ok (isRecased_reportOf h all_skipped),
      worlds₁.keepStores ⟨rfl, rfl, worlds₁.transactions_eq⟩⟩

end Migration

end SchemaMigration
