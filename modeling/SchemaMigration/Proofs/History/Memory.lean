import Mathlib.Data.List.TakeWhile
import SchemaMigration.Proofs.History.Ownership

namespace SchemaMigration

/-- What a store in memory says, under a policy on letter case. -/
def MemoryStore.snapshot (store : MemoryStore) (ignoreCase : Bool) : Snapshot :=
  ⟨store.records, ignoreCase⟩

theorem markRan_memory_ok {store store' : MemoryStore} {now : Timestamp} {c : ChangeSet}
    {path : Value} (h : HistoryStore.markRan store now c path = (.ok (), store')) :
    store.markRan now c path = .ok store' := by
  cases marked : store.markRan now c path with
  | ok after => simpa [HistoryStore.markRan, marked] using h
  | error e => simp [HistoryStore.markRan, marked] at h

theorem markRan_memory_error {store store' : MemoryStore} {now : Timestamp} {c : ChangeSet}
    {path : Value} {e : StoreError}
    (h : HistoryStore.markRan store now c path = (.error e, store')) :
    store' = store := by
  cases marked : store.markRan now c path with
  | ok after => simp [HistoryStore.markRan, marked] at h
  | error e' =>
    simp only [HistoryStore.markRan, marked, Prod.mk.injEq] at h
    exact h.2.symm

namespace Snapshot

variable {ignoreCase : Bool} {c d : ChangeSet} {records : List Record} {store : MemoryStore}

theorem isObstructed_map (f : Record → Record) (same : ∀ r, (f r).identity = r.identity) :
    isObstructed ⟨records.map f, ignoreCase⟩ c = isObstructed ⟨records, ignoreCase⟩ c := by
  have f_matches : (fun r => !matches? ignoreCase c r) ∘ f = fun r => !matches? ignoreCase c r := by
    funext r
    simp [matches?_congr (same r)]
  have f_obstructs : (fun r : Record => isNamesake c r &&
    (r.path.text?.isNone || c.path.text?.isNone)) ∘
      f = fun r => isNamesake c r && (r.path.text?.isNone || c.path.text?.isNone) := by
    funext r
    have id_eq : (f r).id = r.id := congrArg Identity.id (same r)
    have author_eq : (f r).author = r.author := congrArg Identity.author (same r)
    have path_eq : (f r).path = r.path := congrArg Identity.path (same r)
    simp [isNamesake, id_eq, author_eq, path_eq]
  simp only [isObstructed, List.takeWhile_map, List.any_map, f_matches, f_obstructs]

theorem identity_updated (i : Identity) (v : Value) (r : Record) :
    (if r.identity.same i then { r with checksum := v } else r).identity = r.identity := by
  split
  · rfl
  · rfl

theorem isObstructed_updateChecksum (i : Identity) (v : Value) :
    ((store.updateChecksum i v).snapshot ignoreCase).isObstructed c =
      (store.snapshot ignoreCase).isObstructed c :=
  isObstructed_map _ (identity_updated i v)

theorem find?_updateChecksum (hc : c.identity.IsTextual) {r : Record}
    (found : (store.snapshot ignoreCase).find? c = some r) (v : Value) :
    ((store.updateChecksum r.identity v).snapshot ignoreCase).find? c =
      some { r with checksum := v } := by
  have f_matches : (matches? ignoreCase c) ∘
      (fun s => if s.identity.same r.identity then { s with checksum := v } else s) =
        matches? ignoreCase c := by
    funext s
    exact matches?_congr (identity_updated r.identity v s)
  have governing : store.records.find? (matches? ignoreCase c) = some r := found
  have itself : r.identity.same r.identity = true :=
    (isTextual_of_find? hc found).same_iff.mpr rfl
  unfold Snapshot.find? MemoryStore.snapshot MemoryStore.updateChecksum
  dsimp only
  rw [List.find?_map, f_matches, governing]
  simp [itself]

theorem others_updateChecksum (hc : c.identity.IsTextual) {r : Record}
    (own : matches? ignoreCase c r = true) (v : Value) :
    others ignoreCase c (store.updateChecksum r.identity v).records =
      others ignoreCase c store.records := by
  have textual := isTextual_of_matches? hc own
  unfold others MemoryStore.updateChecksum
  dsimp only
  induction store.records with
  | nil => rfl
  | cons s rest ih =>
    by_cases same : s.identity.same r.identity
    · have changed : matches? ignoreCase c { s with checksum := v } = true := by
        rw [← own]
        exact matches?_congr (textual.same_iff.mp same)
      have unchanged : matches? ignoreCase c s = true := by
        rw [← own]
        exact matches?_congr (textual.same_iff.mp same)
      simp [same, changed, unchanged, ih]
    · simp only [List.map_cons, same, Bool.false_eq_true, if_false, List.filter_cons, ih]

open MemoryStore (putRecord)

section Put

variable {record : Record}

theorem mem_putRecord {r : Record} (h : r ∈ putRecord record records) :
    r = record ∨ r ∈ records := by
  induction records with
  | nil => exact .inl (List.mem_singleton.mp h)
  | cons s rest ih =>
    unfold putRecord at h
    split at h
    · rcases List.mem_cons.mp h with rfl | old
      · exact .inl rfl
      · exact .inr (List.mem_cons_of_mem s old)
    · rcases List.mem_cons.mp h with rfl | put
      · exact .inr List.mem_cons_self
      · rcases ih put with new | old
        · exact .inl new
        · exact .inr (List.mem_cons_of_mem s old)

theorem putRecord_append {front rest : List Record}
    (h : ∀ r ∈ front, r.identity.same record.identity = false) :
    putRecord record (front ++ rest) = front ++ putRecord record rest := by
  induction front with
  | nil => rfl
  | cons r front ih =>
    have rest_apart : ∀ s ∈ front, s.identity.same record.identity = false :=
      fun s hs => h s (List.mem_cons_of_mem r hs)
    simp [putRecord, h r List.mem_cons_self, ih rest_apart]

theorem same_eq_false_of_foreign (hc : c.identity.IsTextual)
    (own : matches? ignoreCase c record = true) {r : Record}
    (foreign : matches? ignoreCase c r = false) : r.identity.same record.identity = false := by
  rw [Bool.eq_false_iff]
  intro same
  have equal := (isTextual_of_matches? hc own).same_iff.mp same
  rw [matches?_congr equal, own] at foreign
  cases foreign

theorem putRecord_of_none (hc : c.identity.IsTextual) (own : matches? ignoreCase c record = true)
    (found : records.find? (matches? ignoreCase c) = none) :
    putRecord record records = records ++ [record] := by
  have foreign : ∀ r ∈ records, r.identity.same record.identity = false := by
    intro r hr
    rw [List.find?_eq_none] at found
    exact same_eq_false_of_foreign hc own (Bool.eq_false_iff.mpr (found r hr))
  have appended : putRecord record (records ++ []) = records ++ [record] := putRecord_append foreign
  rwa [List.append_nil] at appended

theorem putRecord_of_some (hc : c.identity.IsTextual) (own : matches? ignoreCase c record = true)
    {r : Record} (found : records.find? (matches? ignoreCase c) = some r)
    (place : r.identity = record.identity) :
    ∃ front rest, records = front ++ r :: rest ∧
      (∀ s ∈ front, matches? ignoreCase c s = false) ∧
      putRecord record records = front ++ record :: rest := by
  obtain ⟨governs, front, rest, rfl, foreign⟩ := List.find?_eq_some_iff_append.mp found
  have apart : ∀ s ∈ front, matches? ignoreCase c s = false := by
    intro s hs
    simpa using foreign s hs
  refine ⟨front, rest, rfl, apart, ?_⟩
  have same : r.identity.same record.identity = true :=
    (isTextual_of_matches? hc own).same_iff.mpr place
  rw [putRecord_append fun s hs => same_eq_false_of_foreign hc own (apart s hs)]
  simp [putRecord, same]

variable (hc : c.identity.IsTextual) (own : matches? ignoreCase c record = true)
  (place : ∀ r, records.find? (matches? ignoreCase c) = some r → r.identity = record.identity)

include hc own place

theorem others_putRecord :
    others ignoreCase c (putRecord record records) = others ignoreCase c records := by
  cases found : records.find? (matches? ignoreCase c) with
  | none =>
    rw [putRecord_of_none hc own found]
    simp [others, own]
  | some r =>
    obtain ⟨front, rest, split, -, put⟩ := putRecord_of_some hc own found (place r found)
    have governs : matches? ignoreCase c r = true := List.find?_some found
    rw [put, split]
    simp [others, own, governs]

theorem find?_putRecord :
    (putRecord record records).find? (matches? ignoreCase c) = some record := by
  cases found : records.find? (matches? ignoreCase c) with
  | none =>
    rw [putRecord_of_none hc own found, List.find?_append, found]
    simp [own]
  | some r =>
    obtain ⟨front, rest, -, foreign, put⟩ := putRecord_of_some hc own found (place r found)
    have front_none : front.find? (matches? ignoreCase c) = none := by
      rw [List.find?_eq_none]
      intro s hs
      simp [foreign s hs]
    rw [put, List.find?_append, front_none]
    simp [own]

theorem isObstructed_putRecord :
    isObstructed ⟨putRecord record records, ignoreCase⟩ c =
      isObstructed ⟨records, ignoreCase⟩ c := by
  have same_front : (putRecord record records).takeWhile (fun r => !matches? ignoreCase c r) =
      records.takeWhile fun r => !matches? ignoreCase c r := by
    cases found : records.find? (matches? ignoreCase c) with
    | none =>
      have all_foreign : ∀ r ∈ records, (!matches? ignoreCase c r) = true := by
        intro r hr
        simpa using List.find?_eq_none.mp found r hr
      have all_taken := List.takeWhile_eq_self_iff.mpr all_foreign
      rw [putRecord_of_none hc own found, List.takeWhile_append_of_pos all_foreign, all_taken]
      simp [own]
    | some r =>
      obtain ⟨front, rest, split, foreign, put⟩ := putRecord_of_some hc own found (place r found)
      have governs : matches? ignoreCase c r = true := List.find?_some found
      rw [put, split]
      simp [List.takeWhile_append, own, governs]
  simp only [isObstructed, same_front]

end Put

section MarkRan

variable {now : Timestamp} {order : Value} {path : Value} {store' : MemoryStore}

theorem markRan_eq_ok (h : store.markRan now c path = .ok store') :
    ∃ order, store' = { store with
      records := putRecord (Record.ofRun c (c.recordedAs path).path now order) store.records } := by
  unfold MemoryStore.markRan at h
  split at h
  next order _ =>
    cases h
    exact ⟨order, rfl⟩
  next => cases h

theorem identity_ofRun :
    (Record.ofRun c (c.recordedAs path).path now order).identity = c.recordedAs path := by
  unfold ChangeSet.recordedAs
  split
  · rfl
  · rfl

variable {s : Snapshot} (hc : c.identity.IsTextual)

include hc

theorem identity_ofRun_of_find? {r : Record} (found : s.find? c = some r) :
    r.identity = (Record.ofRun c (c.recordedAs (s.recordedPath c)).path now order).identity := by
  rw [identity_ofRun, recordedAs_recordedPath hc, found]
  rfl

theorem matches?_ofRun : matches? s.ignoreCase c
    (Record.ofRun c (c.recordedAs (s.recordedPath c)).path now order) = true := by
  cases found : s.find? c with
  | none =>
    apply matches?_of_identity hc
    rw [identity_ofRun, recordedAs_recordedPath hc, found]
    rfl
  | some r =>
    rw [← matches?_congr (identity_ofRun_of_find? hc found)]
    exact matches?_of_find? found

variable (h : store.markRan now c ((store.snapshot ignoreCase).recordedPath c) = .ok store')

include h

theorem others_markRan :
    others ignoreCase c store'.records = others ignoreCase c store.records := by
  obtain ⟨order, rfl⟩ := markRan_eq_ok h
  exact others_putRecord hc (matches?_ofRun (s := store.snapshot ignoreCase) hc)
    fun r found => identity_ofRun_of_find? (s := store.snapshot ignoreCase) hc found

theorem find?_markRan : ∃ r, (store'.snapshot ignoreCase).find? c = some r ∧
    r.checksum = .text c.checksum := by
  obtain ⟨order, rfl⟩ := markRan_eq_ok h
  refine ⟨_, find?_putRecord hc (matches?_ofRun (s := store.snapshot ignoreCase) hc)
    fun r found => identity_ofRun_of_find? (s := store.snapshot ignoreCase) hc found, rfl⟩

theorem isObstructed_markRan :
    (store'.snapshot ignoreCase).isObstructed c = (store.snapshot ignoreCase).isObstructed c := by
  obtain ⟨order, rfl⟩ := markRan_eq_ok h
  exact isObstructed_putRecord hc (matches?_ofRun (s := store.snapshot ignoreCase) hc)
    fun r found => identity_ofRun_of_find? (s := store.snapshot ignoreCase) hc found

end MarkRan

end Snapshot

end SchemaMigration
