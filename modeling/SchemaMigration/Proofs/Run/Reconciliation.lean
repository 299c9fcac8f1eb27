import SchemaMigration.Proofs.History.Memory

namespace SchemaMigration

namespace Selection

variable {c d : ChangeSet} {s : Selection} {store : MemoryStore}

def writtenBack (s : Selection) (store : MemoryStore) (c : ChangeSet) : MemoryStore :=
  match s.toReconcile? c with
  | none => store
  | some i => store.updateChecksum i (.text c.checksum)

def noting (s : Selection) (c : ChangeSet) : Selection :=
  match s.toReconcile? c with
  | none => s
  | some i => { s with reconciled := (i, c.checksum) :: s.reconciled }

@[simp] theorem snapshot_noting (s : Selection) (c : ChangeSet) :
    (s.noting c).snapshot = s.snapshot := by
  unfold noting
  split
  · rfl
  · rfl

theorem toReconcile?_eq_some {i : Identity} (h : s.toReconcile? c = some i) :
    ∃ r, s.snapshot.find? c = some r ∧ r.identity = i ∧ Snapshot.hasDrifted c r = true := by
  unfold toReconcile? at h
  split at h
  next => cases h
  next r found =>
    split at h
    next => cases h
    next drifted =>
      split at h
      next => cases h
      next =>
        cases h
        exact ⟨r, found, rfl, by simpa using drifted⟩

theorem reconcile_obstructed (h : s.snapshot.isObstructed c = true) :
    s.reconcile store c = (.error (.misfit .lacking), store) := by
  simp [reconcile, h]

theorem reconcile_memory (hc : c.identity.IsTextual) (free : s.snapshot.isObstructed c = false) :
    s.reconcile store c =
      (.ok ((s.toReconcile? c).isSome, s.noting c), s.writtenBack store c) := by
  unfold reconcile noting writtenBack
  cases due : s.toReconcile? c with
  | none => simp [free]
  | some i =>
    obtain ⟨r, found, rfl, -⟩ := toReconcile?_eq_some due
    have isKey := (Snapshot.isTextual_of_find? hc found).isKey
    simp only [free, isKey, Bool.false_eq_true, Bool.not_true, if_false]
    rfl

theorem others_writtenBack (hc : c.identity.IsTextual) :
    Snapshot.others s.snapshot.ignoreCase c (s.writtenBack store c).records =
      Snapshot.others s.snapshot.ignoreCase c store.records := by
  unfold writtenBack
  split
  next => rfl
  next i due =>
    obtain ⟨r, found, rfl, -⟩ := toReconcile?_eq_some due
    exact Snapshot.others_updateChecksum hc (Snapshot.matches?_of_find? found) _

theorem isObstructed_writtenBack (ignoreCase : Bool) :
    ((s.writtenBack store c).snapshot ignoreCase).isObstructed d =
      (store.snapshot ignoreCase).isObstructed d := by
  unfold writtenBack
  split
  next => rfl
  next => exact Snapshot.isObstructed_updateChecksum _ _

structure IsCurrent (s : Selection) (store : MemoryStore) (c : ChangeSet) : Prop where
  agrees : Snapshot.AgreeOn c s.snapshot (store.snapshot s.snapshot.ignoreCase)
  unwritten : ∀ r, s.snapshot.find? c = some r → s.written? r.identity = none

theorem isCurrent_ofStore (store : MemoryStore) (ignoreCase : Bool) (c : ChangeSet) :
    IsCurrent { snapshot := store.snapshot ignoreCase } store c where
  agrees := .refl c _
  unwritten _ _ := rfl

theorem toReconcile?_of_unwritten
    (unwritten : ∀ r, s.snapshot.find? c = some r → s.written? r.identity = none) :
    s.toReconcile? c =
      ((s.snapshot.find? c).filter (Snapshot.hasDrifted c)).map Record.identity := by
  unfold toReconcile?
  cases found : s.snapshot.find? c with
  | none => rfl
  | some r =>
    have unwritten_r := unwritten r found
    cases drifted : Snapshot.hasDrifted c r with
    | false => simp [Option.filter, drifted]
    | true => simp [Option.filter, drifted, unwritten_r]

theorem find?_writtenBack (hc : c.identity.IsTextual) (current : s.IsCurrent store c) :
    ((s.writtenBack store c).snapshot s.snapshot.ignoreCase).find? c =
      ((store.snapshot s.snapshot.ignoreCase).find? c).map
        fun r => { r with checksum := .text c.checksum } := by
  have due := toReconcile?_of_unwritten current.unwritten
  rw [current.agrees.find?] at due
  unfold writtenBack
  cases found : (store.snapshot s.snapshot.ignoreCase).find? c with
  | none =>
    rw [due, found]
    exact found
  | some r =>
    rw [due, found]
    cases drifted : Snapshot.hasDrifted c r with
    | false =>
      have same : r.checksum = .text c.checksum := by
        simpa [Snapshot.hasDrifted] using drifted
      simp [Option.filter, drifted, found, ← same]
    | true =>
      simp only [Option.filter_some, drifted, if_true, Option.map_some]
      exact Snapshot.find?_updateChecksum hc found _

theorem recordedPath_writtenBack (hc : c.identity.IsTextual) (current : s.IsCurrent store c) :
    ((s.writtenBack store c).snapshot s.snapshot.ignoreCase).recordedPath c =
      s.snapshot.recordedPath c := by
  unfold Snapshot.recordedPath
  rw [find?_writtenBack hc current, current.agrees.find?, Option.map_map]
  rfl

theorem written?_noting {i : Identity} (hi : i.IsTextual) (hc : c.identity.IsTextual)
    (ne : i.texts? s.snapshot.ignoreCase ≠ c.identity.texts? s.snapshot.ignoreCase) :
    (s.noting c).written? i = s.written? i := by
  unfold noting
  split
  next => rfl
  next j due =>
    obtain ⟨r, found, rfl, -⟩ := toReconcile?_eq_some due
    have other : r.identity.same i = false := by
      rw [Bool.eq_false_iff]
      intro same
      rw [← hi.same_iff.mp same] at ne
      exact ne ((Snapshot.matches?_iff hc r).mp (Snapshot.matches?_of_find? found))
    simp [written?, other]

theorem IsCurrent.noting {store' : MemoryStore} (hc : c.identity.IsTextual)
    (hd : d.identity.IsTextual)
    (ne : c.identity.texts? s.snapshot.ignoreCase ≠ d.identity.texts? s.snapshot.ignoreCase)
    (current : s.IsCurrent store d)
    (agrees : Snapshot.AgreeOn d (store.snapshot s.snapshot.ignoreCase)
      (store'.snapshot s.snapshot.ignoreCase)) : (s.noting c).IsCurrent store' d where
  agrees := by
    rw [snapshot_noting]
    exact current.agrees.trans agrees
  unwritten := by
    rw [snapshot_noting]
    intro r found
    rw [written?_noting (Snapshot.isTextual_of_find? hd found) hc, current.unwritten r found]
    intro same
    have own := (Snapshot.matches?_iff hd r).mp (Snapshot.matches?_of_find? found)
    exact ne (same.symm.trans own)

end Selection

end SchemaMigration
