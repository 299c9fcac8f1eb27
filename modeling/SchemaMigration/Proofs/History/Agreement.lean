import SchemaMigration.Proofs.History.Editing

/-! The same history in two stores. Edits that are made to an empty store in memory and to an empty
table leave the same records in both, up to the width of the column of descriptions; and they fail
in neither. -/

namespace SchemaMigration

namespace MemoryStore

theorem putRecord_eq_upsert {record : Record} {records : List Record}
    (identities : (records.map Record.identity).Nodup) (textual : record.identity.IsTextual) :
    putRecord record records = record.upsert records := by
  induction records with
  | nil => rfl
  | cons r rest ih =>
    rw [List.map_cons, List.nodup_cons] at identities
    by_cases same : r.identity = record.identity
    · have untouched : ∀ s ∈ rest, s.identity ≠ record.identity := by
        intro s hs same_s
        exact identities.1 (List.mem_map.mpr ⟨s, hs, same_s.trans same.symm⟩)
      have rest_kept : rest.map (fun s => if s.identity = record.identity then record else s) =
          rest :=
        (List.map_congr_left fun s hs => (if_neg (untouched s hs) : _ = id s)).trans
          (List.map_id rest)
      have found : r.identity.same record.identity = true := textual.same_iff.mpr same
      rw [putRecord, if_pos found]
      simp [Record.upsert, same, rest_kept]
    · have apart : r.identity.same record.identity = false := by
        rw [Bool.eq_false_iff]
        exact fun found => same (textual.same_iff.mp found)
      rw [putRecord, apart, ih identities.2]
      unfold Record.upsert
      by_cases found : rest.any fun s => s.identity == record.identity
      · simp [same, found]
      · simp [same, found]

theorem write_eq {store : MemoryStore} (h : Record.AreNumbered store.records) (e : HistoryEdit) :
    ∃ store', e.write store = (.ok (), store') ∧ store'.records = e.onRecords id store.records := by
  have textual := e.isTextual_identity
  cases e with
  | rewrite id author path checksum =>
    refine ⟨_, rfl, List.map_congr_left fun r _ => ?_⟩
    exact if_congr textual.same_iff rfl rfl
  | mark now c _ path =>
    have next := Record.nextOrder?_eq (Record.areCounted_of_isNumbered h.numbered)
    have marked : store.markRan now c (.ofText? path) = .ok { store with
        records := putRecord (Record.ofRun c (c.recordedAs (.ofText? path)).path now
          (.int (Record.highest store.records + 1))) store.records } := by
      unfold markRan
      rw [next]
    refine ⟨{ store with records := _ },
      by simp [HistoryEdit.write, HistoryStore.markRan, marked]; rfl, ?_⟩
    apply putRecord_eq_upsert h.identities
    rw [Snapshot.identity_ofRun]
    exact textual
  | forget c _ path =>
    refine ⟨_, rfl, List.filter_congr fun r _ => ?_⟩
    exact congrArg Bool.not (Bool.eq_iff_iff.mpr (textual.same_iff.trans beq_iff_eq.symm))

theorem writeAll_eq (edits : List HistoryEdit) :
    ∃ store : MemoryStore, HistoryEdit.writeAll edits ({} : MemoryStore) = (.ok (), store) ∧
      store.records = HistoryEdit.recordsAfter id edits := by
  induction edits using List.reverseRecOn with
  | nil => exact ⟨{}, rfl, rfl⟩
  | append_singleton edits e ih =>
    obtain ⟨store, done, records_eq⟩ := ih
    have numbered : Record.AreNumbered store.records := by
      rw [records_eq]
      exact HistoryEdit.areNumbered_recordsAfter edits
    obtain ⟨store', written, records_eq'⟩ := write_eq numbered e
    refine ⟨store', (HistoryEdit.writeAll_concat done e).trans written, ?_⟩
    rw [records_eq', records_eq, HistoryEdit.recordsAfter_concat]

end MemoryStore

namespace TableStore

open Sqlite (Cell)

def Holds (t : TableStore) (rows : List Record) : Prop :=
  ∃ ready, t.prepare = (.ok (), ready) ∧ ready.reachable = true ∧ ready.rows = some rows

variable {t : TableStore} {rows : List Record} {α : Type}
  {action : List Record → Except RowFault (α × List Record)}

theorem prepare_of_prepare {ready : TableStore}
    (h : t.prepare = (.ok (), ready)) (rows : List Record) :
    ({ ready with rows := some rows } : TableStore).prepare =
      (.ok (), { ready with rows := some rows }) := by
  have initialized : ready.initialized = true := by
    unfold prepare at h
    split at h
    next already =>
      cases h
      exact already
    · split at h
      · cases h
        rfl
      · split at h
        · cases h
        · cases h
          rfl
  unfold prepare
  rw [if_pos initialized]

theorem Holds.onRows {a : α} {rows' : List Record} (h : t.Holds rows)
    (done : action rows = .ok (a, rows'))
    (operation : String) : ∃ t', t.onRows operation action = (.ok a, t') ∧ t'.Holds rows' := by
  obtain ⟨ready, prepared, reachable, found⟩ := h
  refine ⟨{ ready with rows := some rows' }, ?_, _, prepare_of_prepare prepared rows',
    reachable, rfl⟩
  simp [TableStore.onRows, prepared, reachable, found, done]

theorem Holds.load (h : t.Holds rows) : (HistoryStore.load t).1 = .ok (inOrder rows) := by
  obtain ⟨t', loaded, -⟩ := @Holds.onRows t rows _ (fun rows => .ok (inOrder rows, rows)) _ _ h rfl
    StoreOperation.read
  exact congrArg Prod.fst loaded

theorem holds_of_load {loaded : List Record} (h : (HistoryStore.load t).1 = .ok loaded) :
    ∃ rows, t.Holds rows ∧ loaded = inOrder rows := by
  unfold HistoryStore.load instHistoryStoreTableStore at h
  dsimp only [TableStore.onRows] at h
  split at h
  next => cases h
  next ready prepared =>
    split at h
    next rows reachable found =>
      exact ⟨rows, ⟨ready, prepared, reachable, found⟩, (Except.ok.inj h).symm⟩
    next => cases h

theorem id_recordedAs {c : ChangeSet} {path : Value} :
    (c.recordedAs path).id = c.id ∧ (c.recordedAs path).author = c.author := by
  unfold ChangeSet.recordedAs
  split
  · exact ⟨rfl, rfl⟩
  · exact ⟨rfl, rfl⟩

theorem markRows_eq {now : Timestamp} {c : ChangeSet} {path : Value}
    (textual : (c.recordedAs path).IsTextual) (rows : List Record) :
    markRows now c path rows =
      .ok ((), (Record.ofRun c (c.recordedAs path).path now (nextOrder rows)).cut.upsert rows) := by
  have row_eq : rowOfRun now c (c.recordedAs path) rows =
      (Record.ofRun c (c.recordedAs path).path now (nextOrder rows)).cut := by
    unfold rowOfRun
    rw [id_recordedAs.1, id_recordedAs.2]
    rfl
  have place : (Record.ofRun c (c.recordedAs path).path now (nextOrder rows)).cut.identity =
      c.recordedAs path := (Record.identity_cut _).trans Snapshot.identity_ofRun
  have whole : isWhole (c.recordedAs path) = true := by
    obtain ⟨a, b, p, eq⟩ := textual
    rw [eq]
    rfl
  unfold markRows Record.upsert
  rw [storedIdentity_of_isTextual textual, place]
  dsimp only [bind, Except.bind, pure, Except.pure]
  rw [row_eq, whole]
  split
  · rfl
  · rfl

theorem removeRows_eq {i : Identity} (textual : i.IsTextual) (rows : List Record) :
    removeRows i rows = .ok ((), rows.filter fun r => r.identity != i) := by
  unfold removeRows
  rw [storedIdentity_of_isTextual textual]
  rfl

theorem Holds.write (h : t.Holds rows) (numbered : ∀ r ∈ rows, r.IsNumbered)
    (below : Record.highest rows + 1 < Cell.intLimit) (e : HistoryEdit) :
    ∃ t', e.write t = (.ok (), t') ∧ t'.Holds (e.onRecords Record.cut rows) := by
  have textual := e.isTextual_identity
  cases e with
  | rewrite id author path checksum =>
    exact h.onRows (updateRows_text textual checksum rows) StoreOperation.updateChecksum
  | mark now c _ path =>
    have marked := @markRows_eq now c (.ofText? path) textual rows
    rw [nextOrder_eq numbered below] at marked
    exact h.onRows marked StoreOperation.write
  | forget c _ path =>
    exact h.onRows (removeRows_eq textual rows) StoreOperation.delete

theorem Holds.writeAll (h : t.Holds []) (edits : List HistoryEdit)
    (few : edits.length < Cell.intLimit) :
    ∃ t', HistoryEdit.writeAll edits t = (.ok (), t') ∧ t'.Holds (HistoryEdit.rowsAfter edits) := by
  induction edits using List.reverseRecOn with
  | nil => exact ⟨t, rfl, h⟩
  | append_singleton edits e ih =>
    rw [List.length_append, List.length_singleton, Int.natCast_add] at few
    obtain ⟨t', done, holds⟩ := ih (by omega)
    have below := HistoryEdit.highest_rowsAfter_le edits
    obtain ⟨t'', written, holds'⟩ :=
      holds.write (HistoryEdit.leaveNumbered_rowsAfter edits).numbered.numbered (by omega) e
    refine ⟨t'', (HistoryEdit.writeAll_concat done e).trans written, ?_⟩
    unfold HistoryEdit.rowsAfter at holds' ⊢
    rwa [HistoryEdit.recordsAfter_concat]

theorem inOrder_eq (numbered : Record.AreNumbered rows)
    (below : Record.highest rows < Cell.intLimit) :
    inOrder rows = rows.mergeSort fun r s => decide (r.rank ≤ s.rank) := by
  have cell : ∀ r ∈ rows, cellOf r.order = .int r.rank := by
    intro r hr
    obtain ⟨order_eq, pos⟩ := numbered.numbered r hr
    rw [order_eq]
    exact cellOf_int (Int.le_of_lt pos) (Int.lt_of_le_of_lt (Record.rank_le_highest hr) below)
  have by_rank : ∀ r ∈ rows, ∀ s ∈ rows, notAfter r s = decide (r.rank ≤ s.rank) := by
    intro r hr s hs
    unfold notAfter
    rw [cell r hr, cell s hs, Cell.compareWith]
    rcases Int.lt_trichotomy r.rank s.rank with before | same | after
    · simp [Int.compare_eq_lt.mpr before, Int.le_of_lt before]
    · obtain rfl := numbered.eq_of_rank hr hs same
      cases date : r.date with
      | none => simp
      | some d => simp
    · simp [Int.compare_eq_gt.mpr after, Int.not_le.mpr after]
  have sorted := List.map_mergeSort (f := id) (l := rows)
    (r := notAfter) (s := fun r s => decide (r.rank ≤ s.rank)) by_rank
  simpa [inOrder] using sorted

end TableStore

namespace HistoryEdit

variable {edits : List HistoryEdit}

theorem load_writeAll {t : TableStore} (empty : (HistoryStore.load t).1 = .ok [])
    (few : edits.length < Sqlite.Cell.intLimit) :
    ∃ t', writeAll edits t = (.ok (), t') ∧ (HistoryStore.load t').1 = .ok (listing edits) := by
  obtain ⟨rows, holds, no_rows⟩ := TableStore.holds_of_load empty
  have rows_nil : rows = [] := by
    have same := List.mergeSort_perm rows TableStore.notAfter
    unfold TableStore.inOrder at no_rows
    rw [← no_rows] at same
    exact same.symm.eq_nil
  rw [rows_nil] at holds
  obtain ⟨t', done, holds'⟩ := holds.writeAll edits few
  have below : Record.highest (rowsAfter edits) < Sqlite.Cell.intLimit :=
    Int.lt_of_le_of_lt (highest_rowsAfter_le edits) few
  refine ⟨t', done, ?_⟩
  rw [holds'.load, TableStore.inOrder_eq (leaveNumbered_rowsAfter edits).numbered below]
  rfl

theorem listing_perm (edits : List HistoryEdit) : (listing edits).Perm (rowsAfter edits) :=
  List.mergeSort_perm _ _

theorem listing_perm_map_cut (edits : List HistoryEdit) :
    (listing edits).Perm ((recordsAfter id edits).map Record.cut) := by
  rw [← rowsAfter_eq]
  exact listing_perm edits

theorem leaveNumbered_listing (edits : List HistoryEdit) : LeaveNumbered edits (listing edits) :=
  (leaveNumbered_rowsAfter edits).perm (listing_perm edits).symm

/-- Two stores that are empty at first and are edited alike hold the same records: that in memory,
and a table whose statements compare texts exactly and cut descriptions. A table of 64-bit numbers
is such a one until it has used them up. -/
theorem same_records_of_edits (edits : List HistoryEdit) {t : TableStore}
    (empty : (HistoryStore.load t).1 = .ok []) :
    ∃ store records, writeAll edits ({} : MemoryStore) = (.ok (), store) ∧
      (HistoryStore.load store).1 = .ok records ∧ LeaveNumbered edits records ∧
      (listing edits).Perm (records.map Record.cut) ∧ LeaveNumbered edits (listing edits) ∧
      (edits.length < Sqlite.Cell.intLimit →
        ∃ t', writeAll edits t = (.ok (), t') ∧ (HistoryStore.load t').1 =
          .ok (listing edits)) := by
  obtain ⟨store, done, records_eq⟩ := MemoryStore.writeAll_eq edits
  exact ⟨store, recordsAfter id edits, done, congrArg Except.ok records_eq,
    leaveNumbered_recordsAfter edits, listing_perm_map_cut edits, leaveNumbered_listing edits,
    load_writeAll empty⟩

def emptySet (id : String) : ChangeSet where
  id := .text id
  author := .text "alice"
  path := .text "db/changelog.py"

theorem isTextual_emptySet (id : String) : (emptySet id).identity.IsTextual := ⟨id, _, _, rfl⟩

def noon : Timestamp := { year := 2024, month := 1, day := 2, hour := 12 }

/-- The first changeset is recorded again after the second, and another one is under a path of its
own and forgotten. -/
def recordedAgain : List HistoryEdit :=
  [mark noon (emptySet "1") (isTextual_emptySet "1") none,
    mark noon (emptySet "2") (isTextual_emptySet "2") none,
    mark noon (emptySet "3") (isTextual_emptySet "3") (some "DB/changelog.py"),
    rewrite "1" "alice" "db/changelog.py" "old",
    forget (emptySet "3") (isTextual_emptySet "3") (some "DB/changelog.py"),
    mark noon (emptySet "1") (isTextual_emptySet "1") none]

theorem load_newTable : (HistoryStore.load ({} : TableStore)).1 = .ok [] := by
  have no_obstacle : ({} : TableStore).obstacle? = none := by decide +kernel
  have missing : ({} : TableStore).exists? = false := by decide +kernel
  have ready : ({} : TableStore).Holds [] :=
    ⟨{ initialized := true, rows := some [] }, by simp [TableStore.prepare, no_obstacle, missing],
      rfl, rfl⟩
  rw [ready.load, TableStore.inOrder, List.mergeSort_nil]

theorem same_records_of_recordedAgain :
    (HistoryStore.load ({} : TableStore)).1 = .ok [] ∧
      ∃ store records t', writeAll recordedAgain ({} : MemoryStore) = (.ok (), store) ∧
        (HistoryStore.load store).1 = .ok records ∧
        writeAll recordedAgain ({} : TableStore) = (.ok (), t') ∧
        (HistoryStore.load t').1 = .ok (listing recordedAgain) ∧
        (listing recordedAgain).Perm (records.map Record.cut) ∧
        LeaveNumbered recordedAgain (listing recordedAgain) := by
  obtain ⟨store, records, done, loaded, -, same, numbered, few⟩ :=
    same_records_of_edits recordedAgain load_newTable
  obtain ⟨t', written, listed⟩ := few (by decide)
  exact ⟨load_newTable, store, records, t', done, loaded, written, listed, same, numbered⟩

end HistoryEdit

end SchemaMigration
