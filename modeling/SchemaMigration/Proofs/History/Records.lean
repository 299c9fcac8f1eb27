import SchemaMigration.History.Table
import SchemaMigration.Proofs.History.Memory

namespace SchemaMigration

def Record.rewritten (i : Identity) (checksum : Value) (r : Record) : Record :=
  if r.identity = i then { r with checksum := checksum } else r

theorem Record.identity_rewritten (i : Identity) (checksum : Value) (r : Record) :
    (r.rewritten i checksum).identity = r.identity := by
  unfold rewritten
  split
  · rfl
  · rfl

/-- Stores that keep records. Identities count where they are texts, as they are declared to be. -/
class RecordStore (σ : Type) [HistoryStore σ] where
  records : σ → List Record
  load_ok {store store' : σ} {loaded : List Record} :
    HistoryStore.load store = (.ok loaded, store') →
      loaded.Perm (records store) ∧ records store' = records store
  updateChecksum_error {store store' : σ} {i : Identity} {checksum : Value} {e : StoreError} :
    HistoryStore.updateChecksum store i checksum = (.error e, store') →
      records store' = records store
  updateChecksum_ok {store store' : σ} {i : Identity} {checksum : String} (textual : i.IsTextual) :
    HistoryStore.updateChecksum store i (.text checksum) = (.ok (), store') →
      records store' = (records store).map (Record.rewritten i (.text checksum))
  markRan_error {store store' : σ} {now : Timestamp} {c : ChangeSet} {path : Value}
    {e : StoreError} :
    HistoryStore.markRan store now c path = (.error e, store') → records store' = records store
  markRan_ok {store store' : σ} {now : Timestamp} {c : ChangeSet} {path : Value}
    (textual : (c.recordedAs path).IsTextual) :
    HistoryStore.markRan store now c path = (.ok (), store') →
      (∃ r ∈ records store', r.identity = c.recordedAs path ∧ r.checksum = .text c.checksum) ∧
        ∀ r, r.identity ≠ c.recordedAs path → (r ∈ records store' ↔ r ∈ records store)

namespace MemoryStore

variable {record r : Record} {records : List Record}

theorem self_mem_putRecord : record ∈ putRecord record records := by
  induction records with
  | nil => exact List.mem_singleton.mpr rfl
  | cons s rest ih =>
    unfold putRecord
    split
    · exact List.mem_cons_self
    · exact List.mem_cons_of_mem s ih

theorem mem_putRecord_iff (textual : record.identity.IsTextual)
    (other : r.identity ≠ record.identity) :
    r ∈ putRecord record records ↔ r ∈ records := by
  have ne : r ≠ record := by
    rintro rfl
    exact other rfl
  induction records with
  | nil => simp [putRecord, ne]
  | cons s rest ih =>
    unfold putRecord
    split
    next same =>
      have replaced : r ≠ s := by
        rintro rfl
        exact other (textual.same_iff.mp same)
      simp [ne, replaced]
    next => simp [ih]

end MemoryStore

instance : RecordStore MemoryStore where
  records := MemoryStore.records
  load_ok h := by
    cases h
    exact ⟨.refl _, rfl⟩
  updateChecksum_error h := by cases h
  updateChecksum_ok textual h := by
    cases h
    apply List.map_congr_left
    intro r _
    unfold Record.rewritten
    simp only [textual.same_iff]
  markRan_error h := congrArg MemoryStore.records (markRan_memory_error h)
  markRan_ok := by
    intro store store' now c path textual h
    obtain ⟨order, rfl⟩ := Snapshot.markRan_eq_ok (markRan_memory_ok h)
    have place : (Record.ofRun c (c.recordedAs path).path now order).identity = c.recordedAs path :=
      Snapshot.identity_ofRun
    refine ⟨⟨_, MemoryStore.self_mem_putRecord, place, rfl⟩, fun r other => ?_⟩
    exact MemoryStore.mem_putRecord_iff (by rwa [place]) (by rwa [place])

namespace TableStore

variable {α : Type} {t t' : TableStore} {operation : String}
  {action : List Record → Except RowFault (α × List Record)}

theorem rows_prepare (t : TableStore) : t.prepare.2.rows.getD [] = t.rows.getD [] := by
  unfold prepare
  split
  · rfl
  · split
    · rfl
    · split
      · rfl
      · dsimp only
        split
        · rfl
        next missing =>
          have no_rows : t.rows = none := by simp_all [exists?]
          rw [no_rows]
          rfl

theorem rows_of_onRows_error {e : StoreError} (h : t.onRows operation action = (.error e, t')) :
    t'.rows.getD [] = t.rows.getD [] := by
  have prepared := t.rows_prepare
  unfold onRows at h
  split at h
  next ready =>
    cases h
    rwa [ready] at prepared
  next ready =>
    rw [ready] at prepared
    split at h
    · split at h
      · cases h
      · cases h
        exact prepared
    · cases h
      exact prepared

theorem rows_of_onRows_ok {a : α} (h : t.onRows operation action = (.ok a, t')) :
    action (t.rows.getD []) = .ok (a, t'.rows.getD []) := by
  have prepared := t.rows_prepare
  unfold onRows at h
  split at h
  next => cases h
  next ready =>
    rw [ready] at prepared
    split at h
    next rows _ found =>
      rw [found] at prepared
      split at h
      next done =>
        cases h
        rw [← prepared]
        exact done
      next => cases h
    next => cases h

@[simp] theorem storedIdentity_of_isTextual {i : Identity} (textual : i.IsTextual) :
    storedIdentity i = .ok i := by
  obtain ⟨a, b, p, rfl⟩ := textual
  rfl

theorem updateRows_text {i : Identity} (textual : i.IsTextual) (checksum : String)
    (rows : List Record) :
    updateRows i (.text checksum) rows =
      .ok ((), rows.map (Record.rewritten i (.text checksum))) := by
  unfold updateRows
  rw [storedIdentity_of_isTextual textual]
  have same : (fun r : Record => if r.identity == i then { r with checksum := .text checksum }
    else r) =
      Record.rewritten i (.text checksum) := by
    funext r
    simp [Record.rewritten]
  exact congrArg (fun f => Except.ok ((), rows.map f)) same

theorem markRows_ok {now : Timestamp} {c : ChangeSet} {path : Value} {rows rows' : List Record}
    (textual : (c.recordedAs path).IsTextual) (h : markRows now c path rows = .ok ((), rows')) :
    (∃ r ∈ rows', r.identity = c.recordedAs path ∧ r.checksum = .text c.checksum) ∧
      ∀ r, r.identity ≠ c.recordedAs path → (r ∈ rows' ↔ r ∈ rows) := by
  unfold markRows at h
  rw [storedIdentity_of_isTextual textual] at h
  generalize c.recordedAs path = i at h ⊢
  have place : (rowOfRun now c i rows).identity = i := rfl
  have content : (rowOfRun now c i rows).checksum = .text c.checksum := rfl
  dsimp only [bind, Except.bind] at h
  generalize rowOfRun now c i rows = row at h place content
  have not_row : ∀ r, r.identity ≠ i → r ≠ row := by
    rintro r other rfl
    exact other place
  split at h
  next found =>
    cases h
    obtain ⟨old, old_mem, same⟩ := List.any_eq_true.mp found
    refine ⟨⟨row, List.mem_map.mpr ⟨old, old_mem, if_pos same⟩, place, content⟩, fun r other => ?_⟩
    rw [List.mem_map]
    constructor
    · rintro ⟨s, hs, rfl⟩
      by_cases same_s : s.identity == i
      · rw [if_pos same_s] at other
        exact absurd place other
      · rwa [if_neg same_s]
    · intro hr
      exact ⟨r, hr, if_neg (by simpa using other)⟩
  next =>
    split at h
    · cases h
      refine ⟨⟨row, by simp, place, content⟩, fun r other => ?_⟩
      simp [not_row r other]
    · cases h

end TableStore

instance : RecordStore TableStore where
  records t := t.rows.getD []
  load_ok h := by
    obtain ⟨rfl, same⟩ := Prod.mk.inj (Except.ok.inj (TableStore.rows_of_onRows_ok h))
    exact ⟨List.mergeSort_perm _ _, same.symm⟩
  updateChecksum_error h := TableStore.rows_of_onRows_error h
  updateChecksum_ok textual h := by
    have written := TableStore.rows_of_onRows_ok h
    rw [TableStore.updateRows_text textual] at written
    exact (Prod.mk.inj (Except.ok.inj written)).2.symm
  markRan_error h := TableStore.rows_of_onRows_error h
  markRan_ok textual h := TableStore.markRows_ok textual (TableStore.rows_of_onRows_ok h)

structure RefusingStore (σ : Type) where
  store : σ
  /-- The texts of the faults of the writes to come, one of them for each write. -/
  faults : List (Option String) := []

namespace RefusingStore

variable {σ : Type} [HistoryStore σ]

def attempt (f : RefusingStore σ) (operation : String) (write : σ → Except StoreError Unit × σ) :
    Except StoreError Unit × RefusingStore σ :=
  match f.faults.head?.join with
  | some detail => (.error (.refused operation detail), { f with faults := f.faults.tail })
  | none => ((write f.store).1, ⟨(write f.store).2, f.faults.tail⟩)

instance : HistoryStore (RefusingStore σ) where
  load f := ((HistoryStore.load f.store).1, { f with store := (HistoryStore.load f.store).2 })
  updateChecksum f i checksum :=
    f.attempt StoreOperation.updateChecksum fun s => HistoryStore.updateChecksum s i checksum
  markRan f now c path := f.attempt StoreOperation.write fun s => HistoryStore.markRan s now c path
  remove f c path := f.attempt StoreOperation.delete fun s => HistoryStore.remove s c path
  follow f t := { f with store := HistoryStore.follow f.store t }
  view f engine log := HistoryStore.view f.store engine log

variable {f f' : RefusingStore σ} {operation : String} {write : σ → Except StoreError Unit × σ}

omit [HistoryStore σ] in
theorem attempt_ok (h : f.attempt operation write = (.ok (), f')) :
    write f.store = (.ok (), f'.store) := by
  unfold attempt at h
  split at h
  next => cases h
  next =>
    obtain ⟨result, rfl⟩ := Prod.mk.inj h
    exact Prod.ext result rfl

omit [HistoryStore σ] in
theorem attempt_error {e : StoreError} (h : f.attempt operation write = (.error e, f')) :
    f'.store = f.store ∨ write f.store = (.error e, f'.store) := by
  unfold attempt at h
  split at h
  next =>
    cases h
    exact .inl rfl
  next =>
    obtain ⟨result, rfl⟩ := Prod.mk.inj h
    exact .inr (Prod.ext result rfl)

instance [RecordStore σ] : RecordStore (RefusingStore σ) where
  records f := RecordStore.records f.store
  load_ok {f f' loaded} h := by
    obtain ⟨result, rfl⟩ := Prod.mk.inj h
    exact RecordStore.load_ok (Prod.ext result rfl)
  updateChecksum_error h := by
    rcases attempt_error h with kept | refused
    · rw [kept]
    · exact RecordStore.updateChecksum_error refused
  updateChecksum_ok textual h := RecordStore.updateChecksum_ok textual (attempt_ok h)
  markRan_error h := by
    rcases attempt_error h with kept | refused
    · rw [kept]
    · exact RecordStore.markRan_error refused
  markRan_ok textual h := RecordStore.markRan_ok textual (attempt_ok h)

end RefusingStore

structure SharedStore (σ : Type) where
  store : σ
  reach : Transaction → σ → σ

namespace SharedStore

variable {σ α : Type}

def lift (operation : σ → Except StoreError α × σ) (f : SharedStore σ) :
    Except StoreError α × SharedStore σ :=
  ((operation f.store).1, { f with store := (operation f.store).2 })

theorem of_lift {operation : σ → Except StoreError α × σ} {result : Except StoreError α}
    {f f' : SharedStore σ} (h : lift operation f = (result, f')) :
    operation f.store = (result, f'.store) := by
  obtain ⟨rfl, rfl⟩ := Prod.mk.inj h
  rfl

instance [HistoryStore σ] : HistoryStore (SharedStore σ) where
  load := lift HistoryStore.load
  updateChecksum f i checksum := f.lift fun s => HistoryStore.updateChecksum s i checksum
  markRan f now c path := f.lift fun s => HistoryStore.markRan s now c path
  remove f c path := f.lift fun s => HistoryStore.remove s c path
  follow f t := { f with store := f.reach t f.store }

instance [HistoryStore σ] [RecordStore σ] : RecordStore (SharedStore σ) where
  records f := RecordStore.records f.store
  load_ok h := RecordStore.load_ok (of_lift h)
  updateChecksum_error h := RecordStore.updateChecksum_error (of_lift h)
  updateChecksum_ok textual h := RecordStore.updateChecksum_ok textual (of_lift h)
  markRan_error h := RecordStore.markRan_error (of_lift h)
  markRan_ok textual h := RecordStore.markRan_ok textual (of_lift h)

end SharedStore

end SchemaMigration
