import SchemaMigration.Proofs.Run.Deed
import SchemaMigration.Proofs.Run.Plan

/-! Updates and rollbacks in a row, from an empty store on. A rollback undoes only changesets that
stand; but it cannot tell those that were executed from those that were marked as ran, and undoes
these, too. -/

namespace SchemaMigration

namespace Migration

section Store

variable {σ : Type} [HistoryStore σ]

def undoDeeds (c : ChangeSet) (w w' : World σ) : List Deed :=
  (w'.transactions.drop w.transactions.length).map fun t => .undone c.identity t.committed

def deedsOfPlan (m : Migration) : List (ChangeSet × Record × List String) → World σ → List Deed
  | [], _ => []
  | (c, r, sql) :: rest, w =>
    match (m.undoOne c r sql).run w with
    | (.ok _, w') => undoDeeds c w w' ++ m.deedsOfPlan rest w'
    | (.error _, w') => undoDeeds c w w'

def deedsOfRollback (m : Migration) (count : Int) (w : World σ) : List Deed :=
  match (m.planned count).run w with
  | (.ok plan, w') => m.deedsOfPlan plan w'
  | (.error _, _) => []

/-- A call of an update or a rollback, each at its time. -/
inductive Call
  | update (now : Timestamp)
  | rollback (now : Timestamp) (count : Int)

namespace Call

/-- The world after a call, whether it succeeds or fails. -/
def run (m : Migration) : Call → World σ → World σ
  | .update now, w => (({ m with now := now }.update false).run w).2
  | .rollback now count, w => (({ m with now := now }.rollback count false).run w).2

def deeds (m : Migration) : Call → World σ → List Deed
  | .update now, w => ({ m with now := now }.visits w).flatMap Visit.deeds
  | .rollback now count, w => { m with now := now }.deedsOfRollback count w

end Call

def deedsOf (m : Migration) : List Call → World σ → List Deed
  | [], _ => []
  | call :: rest, w => call.deeds m w ++ m.deedsOf rest (call.run m w)

end Store

variable {m : Migration} {c : ChangeSet} {r : Record} {sql : List String} {w w' : World MemoryStore}

structure IsSoundPlan (deeds : List Deed) (plan : List (ChangeSet × Record × List String)) :
    Prop where
  textual : ∀ p ∈ plan, p.1.identity.IsTextual
  owned : ∀ p ∈ plan, p.2.1.identity = p.1.identity
  stands : ∀ p ∈ plan, Deed.Stands p.1.identity deeds
  nodup : (plan.map fun p => p.1.identity).Nodup

theorem isSoundPlan_planned {count : Int} {plan : List (ChangeSet × Record × List String)}
    {deeds : List Deed} (distinct : ChangeSet.AreDistinct m.ignoreCase m.changeLog.changeSets)
    (traced : w.store.IsTraced m.changeLog.changeSets deeds)
    (h : ((m.planned count).run w).1 = .ok plan) : IsSoundPlan deeds plan := by
  have targets_eq := plan_targets ((run_planned m count w).2 plan h)
  have found : ∀ p ∈ plan, p.1 ∈ m.changeLog.changeSets ∧
      (w.store.snapshot m.ignoreCase).find? p.1 = some p.2.1 := by
    intro p hp
    have target : (p.1, p.2.1) ∈ plan.map fun p => (p.1, p.2.1) := List.mem_map.mpr ⟨p, hp, rfl⟩
    rw [targets_eq] at target
    exact mem_newestFirst_take target
  have textual : ∀ p ∈ plan, p.1.identity.IsTextual :=
    fun p hp => distinct.textual p.1 (found p hp).1
  -- the governing record bears the identity of a changeset, and that is no other than its own
  have owned : ∀ p ∈ plan, p.2.1.identity = p.1.identity := by
    intro p hp
    obtain ⟨known, governed⟩ := found p hp
    obtain ⟨d, hd, same⟩ := traced.owned p.2.1 (List.mem_of_find?_eq_some governed)
    have texts :=
      (Snapshot.matches?_iff (textual p hp) p.2.1).mp (Snapshot.matches?_of_find? governed)
    by_cases equal : p.1 = d
    · rw [same, equal]
    · rw [same] at texts
      exact absurd texts.symm (distinct.texts?_ne known hd equal)
  refine ⟨textual, owned, ?_, ?_⟩
  · intro p hp
    rw [← owned p hp]
    exact traced.stands p.2.1 (List.mem_of_find?_eq_some (found p hp).2)
  · have identities : plan.map (fun p => p.1.identity) =
        ((newestFirst (recorded (w.store.snapshot m.ignoreCase) m.changeLog.changeSets)).take
          count.toNat).map fun t => t.1.identity := by
      rw [← targets_eq, List.map_map]
      rfl
    have all_distinct : (m.changeLog.changeSets.map ChangeSet.identity).Nodup := by
      apply List.Nodup.of_map (Identity.texts? m.ignoreCase)
      rw [List.map_map]
      exact distinct.nodup
    have recorded_distinct : ((recorded (w.store.snapshot m.ignoreCase) m.changeLog.changeSets).map
        fun t => t.1.identity).Nodup := by
      have sublist := (recorded_sublist (w.store.snapshot m.ignoreCase) m.changeLog.changeSets).map
        ChangeSet.identity
      rw [List.map_map] at sublist
      exact sublist.nodup all_distinct
    rw [identities]
    apply ((List.take_sublist _ _).map _).nodup
    exact ((List.mergeSort_perm _ _).map _).nodup_iff.mpr recorded_distinct

theorem Undoing.isTraced {changeSets : List ChangeSet} {deeds : List Deed}
    {result : Except Failure Unit} (hc : c.identity.IsTextual) (owned : r.identity = c.identity)
    (traced : w.store.IsTraced changeSets deeds) (h : Undoing c r sql w result w') :
    w'.store.IsTraced changeSets (deeds ++ undoDeeds c w w') := by
  cases h with
  | unsent store transactions => simpa [undoDeeds, store, transactions] using traced
  | failed store transactions =>
    refine ⟨store ▸ traced.owned, ?_⟩
    rw [store]
    intro old old_mem
    apply (traced.stands old old_mem).append
    simp [undoDeeds, transactions]
  | done store transactions =>
    have own : Snapshot.matches? false c r = true := Snapshot.matches?_of_identity hc owned
    have removed : c.recordedAs r.path = c.identity := (Snapshot.recordedAs_path hc own).trans owned
    have kept : ∀ old ∈ w'.store.records, old ∈ w.store.records ∧ old.identity ≠ c.identity := by
      intro old old_mem
      rw [store] at old_mem
      obtain ⟨before, apart⟩ := List.mem_filter.mp old_mem
      refine ⟨before, fun same => ?_⟩
      rw [removed, hc.same_iff.mpr same] at apart
      cases apart
    refine ⟨fun old old_mem => traced.owned old (kept old old_mem).1, fun old old_mem => ?_⟩
    apply (traced.stands old (kept old old_mem).1).append
    simp [undoDeeds, transactions, (kept old old_mem).2]

theorem not_undone_mem_undoDeeds {i : Identity} (ne : i ≠ c.identity) :
    .undone i true ∉ undoDeeds c w w' := by
  intro undone
  obtain ⟨t, -, same⟩ := List.mem_map.mp undone
  exact ne (Deed.undone.inj same).1.symm

theorem Undoing.areFounded {deeds : List Deed} {result : Except Failure Unit}
    (stands : Deed.Stands c.identity deeds) (h : Undoing c r sql w result w') :
    Deed.AreFounded deeds (undoDeeds c w w') := by
  have founded_one : ∀ done, Deed.AreFounded deeds [.undone c.identity done] := by
    intro done
    refine ⟨fun i done' same => ?_, trivial⟩
    cases same
    exact stands
  cases h with
  | unsent _ transactions => simp [undoDeeds, transactions, Deed.AreFounded]
  | failed _ transactions => simpa [undoDeeds, transactions] using founded_one _
  | done _ transactions => simpa [undoDeeds, transactions] using founded_one _

theorem IsSoundPlan.tail {deeds : List Deed} {rest : List (ChangeSet × Record × List String)}
    (h : IsSoundPlan deeds ((c, r, sql) :: rest)) : IsSoundPlan
    (deeds ++ undoDeeds c w w') rest where
  textual p hp := h.textual p (List.mem_cons_of_mem _ hp)
  owned p hp := h.owned p (List.mem_cons_of_mem _ hp)
  stands p hp := by
    apply (h.stands p (List.mem_cons_of_mem _ hp)).append
    apply not_undone_mem_undoDeeds
    have nodup := h.nodup
    rw [List.map_cons, List.nodup_cons] at nodup
    intro same
    exact nodup.1 (List.mem_map.mpr ⟨p, hp, same⟩)
  nodup := by
    have nodup := h.nodup
    rw [List.map_cons] at nodup
    exact nodup.of_cons

theorem isTraced_undoAll (m : Migration) {changeSets : List ChangeSet}
    (plan : List (ChangeSet × Record × List String)) (w : World MemoryStore) (deeds : List Deed)
    (sound : IsSoundPlan deeds plan) (traced : w.store.IsTraced changeSets deeds) :
    ((m.undoAll plan).run w).2.store.IsTraced changeSets (deeds ++ m.deedsOfPlan plan w) ∧
      Deed.AreFounded deeds (m.deedsOfPlan plan w) := by
  induction plan generalizing w deeds with
  | nil =>
    refine ⟨?_, trivial⟩
    simpa [undoAll, deedsOfPlan] using traced
  | cons p rest ih =>
    obtain ⟨c, r, sql⟩ := p
    -- the changeset that comes first stands, and those after it are others, so they go on standing
    have hc := sound.textual _ List.mem_cons_self
    have undoing := run_undoOne m c r sql w
    have after := undoing.isTraced hc (sound.owned _ List.mem_cons_self) traced
    have founded := undoing.areFounded (sound.stands _ List.mem_cons_self)
    rw [undoAll_cons, Action.run_bind]
    unfold deedsOfPlan
    generalize (m.undoOne c r sql).run w = undone at after founded ⊢
    rcases undone with ⟨e | _, w'⟩
    · exact ⟨after, founded⟩
    · obtain ⟨traced_rest, founded_rest⟩ := ih w' _ sound.tail after
      dsimp only at founded ⊢
      rw [← List.append_assoc]
      exact ⟨traced_rest, founded.append founded_rest⟩

theorem isTraced_rollback (m : Migration) (count : Int) {w : World MemoryStore} {deeds : List Deed}
    (distinct : ChangeSet.AreDistinct m.ignoreCase m.changeLog.changeSets)
    (traced : w.store.IsTraced m.changeLog.changeSets deeds) :
    ((m.rollback count false).run w).2.store.IsTraced m.changeLog.changeSets
        (deeds ++ m.deedsOfRollback count w) ∧
      Deed.AreFounded deeds (m.deedsOfRollback count w) := by
  obtain ⟨unchanged, -⟩ := run_planned m count w
  rw [run_rollback]
  unfold deedsOfRollback
  rcases planned : (m.planned count).run w with ⟨e | plan, w'⟩
  · rw [planned] at unchanged
    cases unchanged
    refine ⟨?_, trivial⟩
    simpa using traced
  · have sound : IsSoundPlan deeds plan :=
      isSoundPlan_planned distinct traced (congrArg Prod.fst planned)
    rw [planned] at unchanged
    cases unchanged
    exact isTraced_undoAll m plan w' deeds sound traced

theorem Call.isTraced (m : Migration) (call : Call) {w : World MemoryStore} {deeds : List Deed}
    (distinct : ChangeSet.AreDistinct m.ignoreCase m.changeLog.changeSets)
    (traced : w.store.IsTraced m.changeLog.changeSets deeds) :
    (call.run m w).store.IsTraced m.changeLog.changeSets (deeds ++ call.deeds m w) ∧
      Deed.AreFounded deeds (call.deeds m w) := by
  cases call with
  | update now =>
    refine ⟨isTraced_update { m with now := now } distinct traced, ?_⟩
    apply Deed.areFounded_of_not_undone
    intro i done undone
    obtain ⟨v, -, of_v⟩ := List.mem_flatMap.mp undone
    exact v.not_undone_mem_deeds i done of_v
  | rollback now count => exact isTraced_rollback { m with now := now } count distinct traced

theorem areFounded_deedsOf (m : Migration) (calls : List Call) (w : World MemoryStore)
    (deeds : List Deed) (distinct : ChangeSet.AreDistinct m.ignoreCase m.changeLog.changeSets)
    (traced : w.store.IsTraced m.changeLog.changeSets deeds) :
    Deed.AreFounded deeds (m.deedsOf calls w) := by
  induction calls generalizing w deeds with
  | nil => exact trivial
  | cons call rest ih =>
    obtain ⟨after, founded⟩ := call.isTraced m distinct traced
    exact founded.append (ih (call.run m w) _ after)

/-- From an empty store on, whenever a rollback undoes a changeset, its SQL was committed and has
not been rolled back since, unless it was only marked as ran. -/
theorem isApplied_iff_of_undone (m : Migration) (calls : List Call) (w : World MemoryStore)
    (distinct : ChangeSet.AreDistinct m.ignoreCase m.changeLog.changeSets)
    (empty : w.store.records = []) {earlier later : List Deed} {i : Identity} {done : Bool}
    (h : m.deedsOf calls w = earlier ++ .undone i done :: later) :
    Deed.IsApplied i earlier ↔ ¬ Deed.IsOnlyMarked i earlier := by
  have traced : w.store.IsTraced m.changeLog.changeSets [] := by
    constructor
    · simp [empty]
    · simp [empty]
  have founded := areFounded_deedsOf m calls w [] distinct traced
  rw [h] at founded
  exact founded.stands.isApplied_iff

def customersTable : ChangeSet where
  id := .text "1"
  author := .text "alice"
  path := .text "db/changelog.py"
  changes := [.createTable {
    table := .text "customers"
    schema := .ofDeclared none
    columns := .of [{ name := .text "id", type := .text "INT" }] }]
  guard := some {
    policy := { onFail := .markRan }
    preconditions := [.not (.check (.tableExists (.text "customers") .null))] }

/-- Its changelog, on a database that has the table. -/
def customersThere : Migration where
  changeLog := { path := .text "db/changelog.py", changeSets := [customersTable] }
  database := {
    name := "sqlite"
    style := .of (some .sqlite)
    engine := some ({ tables := [("customers", [])] } : EngineScript).engine }
  now := { year := 2024, month := 1, day := 2 }

def updateThenRollback : List Call := [.update customersThere.now, .rollback customersThere.now 1]

theorem customersThere_distinct : ChangeSet.AreDistinct false customersThere.changeLog.changeSets :=
  ChangeSet.areDistinct_singleton ⟨"1", "alice", "db/changelog.py", rfl⟩

theorem customersThere_deeds :
    customersThere.deedsOf updateThenRollback (⟨{}, [], []⟩ : World MemoryStore) =
      [.marked customersTable.identity] ++ .undone customersTable.identity true :: [] := by
  decide +kernel

/-- The table was not created here, but it is dropped. -/
theorem customersThere_dropped :
    ChangeSet.AreDistinct false customersThere.changeLog.changeSets ∧
      customersThere.deedsOf updateThenRollback (⟨{}, [], []⟩ : World MemoryStore) =
        [.marked customersTable.identity] ++ .undone customersTable.identity true :: [] ∧
      ¬ Deed.IsApplied customersTable.identity [.marked customersTable.identity] ∧
      (updateThenRollback.foldl (fun w call => call.run customersThere w)
        (⟨{}, [], []⟩ : World MemoryStore)).transactions = [⟨true, ["DROP TABLE customers"]⟩] := by
  refine ⟨customersThere_distinct, customersThere_deeds, ?_, by decide +kernel⟩
  rintro ⟨before, since, split, -⟩
  have committed : Deed.committed customersTable.identity ∈
      [Deed.marked customersTable.identity] := by
    rw [split]
    simp
  cases List.mem_singleton.mp committed

theorem isApplied_iff_of_undone_customers :
    customersThere.deedsOf updateThenRollback (⟨{}, [], []⟩ : World MemoryStore) =
        [.marked customersTable.identity] ++ .undone customersTable.identity true :: [] ∧
      (Deed.IsApplied customersTable.identity [.marked customersTable.identity] ↔
        ¬ Deed.IsOnlyMarked customersTable.identity [.marked customersTable.identity]) := by
  refine ⟨customersThere_deeds, ?_⟩
  exact isApplied_iff_of_undone customersThere updateThenRollback
    ⟨{}, [], []⟩ customersThere_distinct rfl
    customersThere_deeds

end Migration

end SchemaMigration
