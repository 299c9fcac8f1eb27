import SchemaMigration.Proofs.Run.Rehearsal

/-! Records of others. A run writes under the identities of its changesets and of the records that
govern them as it starts; every other record stays as it is, and where it is. -/

namespace SchemaMigration

namespace Snapshot

variable {s : Snapshot} {changeSets : List ChangeSet} {c : ChangeSet} {i : Identity}
  {records : List Record}

def concerns (s : Snapshot) (changeSets : List ChangeSet) (i : Identity) : Bool :=
  changeSets.any fun c => i == c.identity || (s.find? c).any fun r => i == r.identity

/-- The records that have nothing to do with some changesets, in order. -/
def foreign (s : Snapshot) (changeSets : List ChangeSet) (records : List Record) : List Record :=
  records.filter fun r => !s.concerns changeSets r.identity

theorem concerns_of_mem (hc : c ∈ changeSets) : s.concerns changeSets c.identity = true :=
  List.any_eq_true.mpr ⟨c, hc, by simp⟩

theorem concerns_of_find? (hc : c ∈ changeSets) {r : Record} (found : s.find? c = some r) :
    s.concerns changeSets r.identity = true :=
  List.any_eq_true.mpr ⟨c, hc, by simp [found]⟩

theorem concerns_recordedAs (hc : c ∈ changeSets) (textual : c.identity.IsTextual) :
    s.concerns changeSets (c.recordedAs (s.recordedPath c)) = true := by
  rw [recordedAs_recordedPath textual]
  cases found : s.find? c with
  | none => exact concerns_of_mem hc
  | some r => exact concerns_of_find? hc found

section Operations

variable (concerned : s.concerns changeSets i = true) (textual : i.IsTextual)

include concerned textual

theorem not_same_of_foreign {r : Record} (foreign : s.concerns changeSets r.identity = false) :
    r.identity.same i = false := by
  rw [Bool.eq_false_iff]
  intro same
  rw [textual.same_iff.mp same, concerned] at foreign
  cases foreign

theorem foreign_updateChecksum (store : MemoryStore) (v : Value) :
    s.foreign changeSets (store.updateChecksum i v).records =
      s.foreign changeSets store.records := by
  unfold foreign MemoryStore.updateChecksum
  have keeps_identity : ((fun r : Record => !s.concerns changeSets r.identity) ∘
      fun r : Record => if r.identity.same i then { r with checksum := v } else r) =
        fun r => !s.concerns changeSets r.identity := by
    funext r
    exact congrArg (fun j => !s.concerns changeSets j) (identity_updated i v r)
  rw [List.filter_map, keeps_identity]
  refine (List.map_congr_left fun r hr => ?_).trans (List.map_id _)
  have foreign : s.concerns changeSets r.identity = false := by
    simpa using (List.mem_filter.mp hr).2
  simp [not_same_of_foreign concerned textual foreign]

theorem foreign_putRecord {record : Record} (place : record.identity = i) :
    s.foreign changeSets (MemoryStore.putRecord record records) = s.foreign changeSets records := by
  unfold foreign
  induction records with
  | nil => simp [MemoryStore.putRecord, place, concerned]
  | cons r rest ih =>
    unfold MemoryStore.putRecord
    split
    next same =>
      rw [place] at same
      simp [place, textual.same_iff.mp same, concerned]
    next => simp only [List.filter_cons, ih]

theorem foreign_remove (store : MemoryStore) {path : Value} (place : c.recordedAs path = i) :
    s.foreign changeSets (store.remove c path).records = s.foreign changeSets store.records := by
  unfold foreign MemoryStore.remove
  rw [List.filter_filter, place]
  apply List.filter_congr
  intro r _
  cases foreign : s.concerns changeSets r.identity with
  | true => rfl
  | false => simp [not_same_of_foreign concerned textual foreign]

end Operations

end Snapshot

namespace Migration

variable {m : Migration} {s s' : Selection} {changeSets : List ChangeSet} {c : ChangeSet}
  {w w' : World MemoryStore}

theorem foreign_writtenBack (store : MemoryStore) (hc : c ∈ changeSets)
    (textual : c.identity.IsTextual) :
    s.snapshot.foreign changeSets (s.writtenBack store c).records =
      s.snapshot.foreign changeSets store.records := by
  unfold Selection.writtenBack
  split
  next => rfl
  next i due =>
    obtain ⟨r, found, rfl, -⟩ := Selection.toReconcile?_eq_some due
    exact Snapshot.foreign_updateChecksum (Snapshot.concerns_of_find? hc found)
      (Snapshot.isTextual_of_find? textual found) store _

theorem Turn.foreign_eq {result : Except Failure (Step × Selection)} (hc : c ∈ changeSets)
    (textual : c.identity.IsTextual) (h : Turn m s c w result w') :
    s.snapshot.foreign changeSets w'.store.records = s.snapshot.foreign changeSets
      w.store.records := by
  rcases h.store_cases with kept | written | marked
  · rw [kept]
  · rw [written, foreign_writtenBack w.store hc textual]
  · obtain ⟨order, put⟩ := Snapshot.markRan_eq_ok marked
    rw [put, Snapshot.foreign_putRecord (Snapshot.concerns_recordedAs hc textual)
      (Snapshot.isTextual_recordedAs textual) Snapshot.identity_ofRun,
      foreign_writtenBack w.store hc textual]

theorem foreign_updateAll (m : Migration) (all : List ChangeSet) (s : Selection)
    (w : World MemoryStore)
    (textual : ∀ c ∈ all, c.identity.IsTextual) (subset : changeSets ⊆ all) :
    s.snapshot.foreign all ((m.updateAll false s changeSets).run w).2.store.records =
      s.snapshot.foreign all w.store.records := by
  induction changeSets generalizing s w with
  | nil => rfl
  | cons c rest ih =>
    have hc : c ∈ all := subset List.mem_cons_self
    have turn := run_updateOne m s (textual c hc) w
    have first := turn.foreign_eq hc (textual c hc)
    rcases visited : (m.updateOne false s c).run w with ⟨e | ⟨step, s'⟩, w'⟩
    · rw [visited] at first
      rw [run_updateAll_error visited]
      exact first
    · rw [visited] at turn first
      cases turn.selection_eq
      rw [run_updateAll_ok visited]
      have later := ih (s.noting c) w' fun d hd => subset (List.mem_cons_of_mem c hd)
      rw [Selection.snapshot_noting] at later
      exact later.trans first

theorem foreign_update (m : Migration) (w : World MemoryStore)
    (textual : ∀ c ∈ m.changeLog.changeSets, c.identity.IsTextual) :
    (w.store.snapshot m.ignoreCase).foreign m.changeLog.changeSets
        ((m.update false).run w).2.store.records =
      (w.store.snapshot m.ignoreCase).foreign m.changeLog.changeSets w.store.records := by
  have course := run_update m w
  generalize (m.update false).run w = ended at course ⊢
  obtain ⟨result, w'⟩ := ended
  generalize m.visits w = visits at course
  dsimp only at course ⊢
  cases course with
  | halted _ store _ => rw [store]
  | unmet _ _ store _ => rw [store]
  | @visited log _ w₁ _ _ visited store _ =>
    have row :=
      foreign_updateAll m m.changeLog.changeSets (m.startingSelection w) { w with log := log }
      textual (List.Subset.refl _)
    rw [visited] at row
    rw [store]
    exact row

theorem Undoing.foreign_eq {snapshot : Snapshot} {r : Record} {sql : List String}
    {result : Except Failure Unit} (hc : c ∈ changeSets) (textual : c.identity.IsTextual)
    (found : snapshot.find? c = some r) (h : Undoing c r sql w result w') :
    snapshot.foreign changeSets w'.store.records = snapshot.foreign changeSets w.store.records := by
  cases h with
  | unsent store _ => rw [store]
  | failed store _ => rw [store]
  | done store _ =>
    rw [store]
    exact Snapshot.foreign_remove (Snapshot.concerns_of_find? hc found)
      (Snapshot.isTextual_of_find? textual found) w.store
      (Snapshot.recordedAs_path textual (Snapshot.matches?_of_find? found))

theorem foreign_undoAll (m : Migration) (snapshot : Snapshot)
    (plan : List (ChangeSet × Record × List String)) (w : World MemoryStore)
    (textual : ∀ c ∈ changeSets, c.identity.IsTextual)
    (targets : ∀ p ∈ plan, p.1 ∈ changeSets ∧ snapshot.find? p.1 = some p.2.1) :
    snapshot.foreign changeSets ((m.undoAll plan).run w).2.store.records =
      snapshot.foreign changeSets w.store.records := by
  induction plan generalizing w with
  | nil => rfl
  | cons p rest ih =>
    obtain ⟨c, r, sql⟩ := p
    obtain ⟨hc, found⟩ := targets _ List.mem_cons_self
    have first := (run_undoOne m c r sql w).foreign_eq hc (textual c hc) found
    rw [undoAll_cons, Action.run_bind]
    rcases undone : (m.undoOne c r sql).run w with ⟨e | _, w₁⟩
    · rw [undone] at first
      exact first
    · rw [undone] at first
      exact (ih w₁ fun q hq => targets q (List.mem_cons_of_mem _ hq)).trans first

theorem foreign_rollback (m : Migration) (count : Int) (w : World MemoryStore)
    (textual : ∀ c ∈ m.changeLog.changeSets, c.identity.IsTextual) :
    (w.store.snapshot m.ignoreCase).foreign m.changeLog.changeSets
        ((m.rollback count false).run w).2.store.records =
      (w.store.snapshot m.ignoreCase).foreign m.changeLog.changeSets w.store.records := by
  obtain ⟨unchanged, planned_of⟩ := run_planned m count w
  rw [run_rollback]
  rcases planned : (m.planned count).run w with ⟨e | plan, w'⟩
  · rw [planned] at unchanged
    cases unchanged
    rfl
  · rw [planned] at unchanged planned_of
    cases unchanged
    apply foreign_undoAll m _ plan w' textual
    intro p hp
    have target : (p.1, p.2.1) ∈ plan.map fun p => (p.1, p.2.1) := List.mem_map.mpr ⟨p, hp, rfl⟩
    rw [plan_targets (planned_of plan rfl)] at target
    exact mem_newestFirst_take target

/-- No update and no rollback, whether it returns or fails, touches a record that is neither that of
a changeset nor governs one as the call starts: all of these are there afterwards, with all their
fields and in their order, and no other has joined them. -/
theorem foreign_kept (m : Migration) (w : World MemoryStore)
    (textual : ∀ c ∈ m.changeLog.changeSets, c.identity.IsTextual) :
    (∀ dryRun, (w.store.snapshot m.ignoreCase).foreign m.changeLog.changeSets
        ((m.update dryRun).run w).2.store.records =
      (w.store.snapshot m.ignoreCase).foreign m.changeLog.changeSets w.store.records) ∧
    ∀ count dryRun, (w.store.snapshot m.ignoreCase).foreign m.changeLog.changeSets
        ((m.rollback count dryRun).run w).2.store.records =
      (w.store.snapshot m.ignoreCase).foreign m.changeLog.changeSets w.store.records := by
  constructor
  · intro dryRun
    cases dryRun with
    | false => exact foreign_update m w textual
    | true =>
      obtain ⟨log, dry⟩ := run_update_dry m w
      rw [dry]
  · intro count dryRun
    cases dryRun with
    | false => exact foreign_rollback m count w textual
    | true => rw [run_rollback_dry, (run_planned m count w).1]

def invoicesTable : ChangeSet where
  id := .text "1"
  author := .text "alice"
  path := .text "db/changelog.py"
  runOnChange := .bool true
  changes := [.createTable {
    table := .text "invoices"
    schema := .ofDeclared none
    columns := .of [{ name := .text "id", type := .text "INT" }] }]

def invoicesRun : Migration where
  changeLog := { path := .text "db/changelog.py", changeSets := [invoicesTable] }
  database := {
    name := "sqlite"
    style := .of (some .sqlite)
    engine := some ({} : EngineScript).engine }
  ignoreCase := true
  now := { year := 2024, month := 1, day := 2 }

def invoicesShadow : Record where
  id := .text "1"
  author := .text "alice"
  path := .text "DB/CHANGELOG.PY"
  checksum := .null
  order := .int 2

def paymentsRecord : Record where
  id := .text "1"
  author := .text "bob"
  path := .text "db/payments.py"
  checksum := .text "old"
  order := .int 1

def invoicesRan : World MemoryStore where
  store := { records := [
    paymentsRecord,
    { id := .text "1", author := .text "alice", path := .text "DB/changelog.py"
      checksum := .null },
    invoicesShadow] }

theorem foreign_kept_invoices :
    (∀ c ∈ invoicesRun.changeLog.changeSets, c.identity.IsTextual) ∧
      ((invoicesRun.update false).run invoicesRan).2.store.records.map Record.order =
        [.int 1, .int 3, .int 2] ∧
      (invoicesRan.store.snapshot true).foreign [invoicesTable]
        ((invoicesRun.update false).run invoicesRan).2.store.records =
          [paymentsRecord, invoicesShadow] ∧
      ((invoicesRun.rollback 1 false).run invoicesRan).2.store.records =
        [paymentsRecord, invoicesShadow] ∧
      (invoicesRan.store.snapshot true).foreign [invoicesTable]
        ((invoicesRun.rollback 1 false).run invoicesRan).2.store.records =
          [paymentsRecord, invoicesShadow] := by
  have textual : ∀ c ∈ invoicesRun.changeLog.changeSets, c.identity.IsTextual := by
    intro c hc
    rw [List.mem_singleton.mp hc]
    exact ⟨"1", "alice", "db/changelog.py", rfl⟩
  have before : (invoicesRan.store.snapshot true).foreign [invoicesTable]
    invoicesRan.store.records =
      [paymentsRecord, invoicesShadow] := by decide +kernel
  obtain ⟨updates, rollbacks⟩ := foreign_kept invoicesRun invoicesRan textual
  refine ⟨textual, by decide +kernel, ?_, by decide +kernel, ?_⟩
  · exact (updates false).trans before
  · exact (rollbacks 1 false).trans before

end Migration

end SchemaMigration
