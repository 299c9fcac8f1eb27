import Mathlib.Data.List.Induction
import SchemaMigration.Proofs.History.Numbering
import SchemaMigration.Proofs.History.Records

namespace SchemaMigration

/-- A call that writes to a history, with arguments of the kinds that are declared for it. -/
inductive HistoryEdit
  | rewrite (id author path checksum : String)
  | mark (now : Timestamp) (c : ChangeSet) (textual : c.identity.IsTextual) (path : Option String)
  | forget (c : ChangeSet) (textual : c.identity.IsTextual) (path : Option String)

theorem ChangeSet.isTextual_recordedAs {c : ChangeSet} (textual : c.identity.IsTextual)
    (path : Option String) : (c.recordedAs (.ofText? path)).IsTextual := by
  unfold recordedAs
  split
  next given =>
    cases path with
    | none => cases given
    | some p =>
      obtain ⟨a, b, _, eq⟩ := textual
      have id_eq : c.id = .text a := congrArg Identity.id eq
      have author_eq : c.author = .text b := congrArg Identity.author eq
      exact ⟨a, b, p, by rw [id_eq, author_eq]; rfl⟩
  next => exact textual

namespace HistoryEdit

variable {σ : Type} [HistoryStore σ]

def identity : HistoryEdit → Identity
  | rewrite id author path _ => ⟨.text id, .text author, .text path⟩
  | mark _ c _ path => c.recordedAs (.ofText? path)
  | forget c _ path => c.recordedAs (.ofText? path)

theorem isTextual_identity (e : HistoryEdit) : e.identity.IsTextual := by
  cases e with
  | rewrite id author path _ => exact ⟨id, author, path, rfl⟩
  | mark _ _ textual path => exact ChangeSet.isTextual_recordedAs textual path
  | forget _ textual path => exact ChangeSet.isTextual_recordedAs textual path

def write (s : σ) : HistoryEdit → Except StoreError Unit × σ
  | rewrite id author path checksum =>
    HistoryStore.updateChecksum s ⟨.text id, .text author, .text path⟩ (.text checksum)
  | mark now c _ path => HistoryStore.markRan s now c (.ofText? path)
  | forget c _ path => HistoryStore.remove s c (.ofText? path)

/-- Edits one after the other, up to the first that fails. -/
def writeAll : List HistoryEdit → σ → Except StoreError Unit × σ
  | [], s => (.ok (), s)
  | e :: rest, s =>
    match e.write s with
    | (.ok (), s) => writeAll rest s
    | (.error x, s) => (.error x, s)

theorem writeAll_concat {edits : List HistoryEdit} {s s' : σ} (h : writeAll edits s = (.ok (), s'))
    (e : HistoryEdit) : writeAll (edits ++ [e]) s = e.write s' := by
  induction edits generalizing s with
  | nil =>
    cases h
    rw [List.nil_append, writeAll]
    split
    next done => exact done.symm
    next failed => exact failed.symm
  | cons d rest ih =>
    rw [writeAll] at h
    rw [List.cons_append, writeAll]
    split at h
    next => exact ih h
    next => cases h

end HistoryEdit

namespace Record

structure AreNumbered (records : List Record) : Prop where
  identities : (records.map identity).Nodup
  numbered : ∀ r ∈ records, r.IsNumbered
  orders : (records.map order).Nodup

def upsert (row : Record) (records : List Record) : List Record :=
  if records.any fun r => r.identity == row.identity then
    records.map fun r => if r.identity == row.identity then row else r
  else records ++ [row]

variable {r s row : Record} {records : List Record} {i : Identity} {v : Value}

theorem areNumbered_nil : AreNumbered [] where
  identities := List.nodup_nil
  numbered := nofun
  orders := List.nodup_nil

theorem AreNumbered.map (h : AreNumbered records) {f : Record → Record}
    (same_identity : ∀ r, (f r).identity = r.identity) (same_order : ∀ r, (f r).order = r.order) :
    AreNumbered (records.map f) where
  identities := by
    have unchanged : identity ∘ f = identity := funext same_identity
    rw [List.map_map, unchanged]
    exact h.identities
  numbered r hr := by
    obtain ⟨s, hs, rfl⟩ := List.mem_map.mp hr
    exact (isNumbered_congr (same_order s)).mpr (h.numbered s hs)
  orders := by
    have unchanged : order ∘ f = order := funext same_order
    rw [List.map_map, unchanged]
    exact h.orders

theorem AreNumbered.sublist {some : List Record} (h : AreNumbered records)
    (part : some.Sublist records) :
    AreNumbered some where
  identities := h.identities.sublist (part.map identity)
  numbered r hr := h.numbered r (part.subset hr)
  orders := h.orders.sublist (part.map order)

theorem AreNumbered.perm {records' : List Record} (h : AreNumbered records)
    (same : records.Perm records') :
    AreNumbered records' where
  identities := (same.map identity).nodup_iff.mp h.identities
  numbered r hr := h.numbered r (same.symm.subset hr)
  orders := (same.map order).nodup_iff.mp h.orders

theorem AreNumbered.eq_of_rank (h : AreNumbered records) (hr : r ∈ records) (hs : s ∈ records)
    (same : r.rank = s.rank) : r = s := by
  have same_order : r.order = s.order := by rw [(h.numbered r hr).1, (h.numbered s hs).1, same]
  exact List.inj_on_of_nodup_map h.orders hr hs same_order

theorem AreNumbered.eq_of_identity (h : AreNumbered records) (hr : r ∈ records) (hs : s ∈ records)
    (same : r.identity = s.identity) : r = s :=
  List.inj_on_of_nodup_map h.identities hr hs same

theorem mem_upsert : r ∈ upsert row records ↔ r = row ∨ r ∈ records ∧
    r.identity ≠ row.identity := by
  unfold upsert
  split
  next found =>
    obtain ⟨old, old_mem, same⟩ := List.any_eq_true.mp found
    rw [List.mem_map]
    constructor
    · rintro ⟨s, hs, rfl⟩
      split
      · exact .inl rfl
      next other => exact .inr ⟨hs, by simpa using other⟩
    · rintro (rfl | ⟨hr, other⟩)
      · exact ⟨old, old_mem, if_pos same⟩
      · exact ⟨r, hr, if_neg (by simpa using other)⟩
  next missing =>
    have apart : ∀ s ∈ records, s.identity ≠ row.identity := by simpa using missing
    rw [List.mem_append, List.mem_singleton]
    constructor
    · rintro (hr | rfl)
      · exact .inr ⟨hr, apart r hr⟩
      · exact .inl rfl
    · rintro (rfl | ⟨hr, _⟩)
      · exact .inr rfl
      · exact .inl hr

theorem pairwise_upsert {R : Record → Record → Prop} (identities : (records.map identity).Nodup)
    (pairwise : records.Pairwise R)
    (with_row : ∀ r ∈ records, r.identity ≠ row.identity → R r row ∧ R row r) :
    (upsert row records).Pairwise R := by
  have apart : records.Pairwise fun r s => r.identity ≠ s.identity :=
    List.pairwise_map.mp identities
  unfold upsert
  split
  next =>
    rw [List.pairwise_map]
    apply (pairwise.and apart).imp_of_mem
    rintro r s hr hs ⟨related, other⟩
    by_cases row_r : r.identity = row.identity
    · have other_s : s.identity ≠ row.identity := fun row_s => other (row_r.trans row_s.symm)
      simpa [row_r, other_s] using (with_row s hs other_s).2
    · by_cases row_s : s.identity = row.identity
      · simpa [row_r, row_s] using (with_row r hr row_r).1
      · simpa [row_r, row_s] using related
  next missing =>
    have other : ∀ r ∈ records, r.identity ≠ row.identity := by simpa using missing
    rw [List.pairwise_append]
    refine ⟨pairwise, List.pairwise_singleton _ _, fun r hr s hs => ?_⟩
    rw [List.mem_singleton.mp hs]
    exact (with_row r hr (other r hr)).1

theorem AreNumbered.upsert (h : AreNumbered records)
    (next : row.order = .int (highest records + 1)) :
    AreNumbered (upsert row records) := by
  have row_rank : row.rank = highest records + 1 := rank_of_order next
  have above : ∀ r ∈ records, r.rank < row.rank := by
    intro r hr
    rw [row_rank]
    exact Int.lt_add_one_of_le (rank_le_highest hr)
  have order_ne : ∀ r ∈ records, r.order ≠ row.order := by
    intro r hr same
    exact absurd (rank_congr same) (Int.ne_of_lt (above r hr))
  refine ⟨?_, ?_, ?_⟩
  · rw [List.Nodup, List.pairwise_map]
    exact pairwise_upsert h.identities (List.pairwise_map.mp h.identities)
      fun r _ other => ⟨other, other.symm⟩
  · intro r hr
    rcases mem_upsert.mp hr with rfl | ⟨old, _⟩
    · exact .of_order next (Int.lt_add_one_of_le highest_nonneg)
    · exact h.numbered r old
  · rw [List.Nodup, List.pairwise_map]
    exact pairwise_upsert h.identities (List.pairwise_map.mp h.orders)
      fun r hr _ => ⟨order_ne r hr, (order_ne r hr).symm⟩

/-- The record with a description that is cut to the width of the column. -/
def cut (r : Record) : Record :=
  { r with
    description :=
      match r.description with
      | .text s => .text (s.take TableStore.descriptionWidth).toString
      | v => v }

@[simp] theorem identity_cut (r : Record) : r.cut.identity = r.identity := rfl

@[simp] theorem order_cut (r : Record) : r.cut.order = r.order := rfl

theorem cut_rewritten (i : Identity) (v : Value) (r : Record) :
    (r.rewritten i v).cut = r.cut.rewritten i v := by
  unfold rewritten
  rw [identity_cut]
  split
  · rfl
  · rfl

theorem order_rewritten (i : Identity) (v : Value) (r : Record) :
    (r.rewritten i v).order = r.order := by
  unfold rewritten
  split
  · rfl
  · rfl

theorem upsert_map_cut : (upsert row records).map cut = upsert row.cut (records.map cut) := by
  have same_any : (records.map cut).any (fun r => r.identity == row.identity) =
      records.any fun r => r.identity == row.identity := by simp [List.any_map, Function.comp_def]
  unfold upsert
  rw [identity_cut, same_any]
  split
  next =>
    rw [List.map_map, List.map_map]
    apply List.map_congr_left
    intro r _
    by_cases same : r.identity = row.identity
    · simp [same]
    · simp [same]
  next => simp

end Record

namespace HistoryEdit

open Record (AreNumbered highest)

/-- What an edit makes of records. Those of runs are held in a form, and their next order is one
more than the greatest; texts are compared exactly. -/
def onRecords (held : Record → Record) (records : List Record) : HistoryEdit → List Record
  | e@(rewrite _ _ _ checksum) => records.map (Record.rewritten e.identity (.text checksum))
  | e@(mark now c _ _) =>
    (held (Record.ofRun c e.identity.path now (.int (highest records + 1)))).upsert records
  | e@(forget ..) => records.filter fun r => r.identity != e.identity

def recordsAfter (held : Record → Record) (edits : List HistoryEdit) : List Record :=
  edits.foldl (onRecords held) []

def rowsAfter (edits : List HistoryEdit) : List Record := recordsAfter Record.cut edits

def listing (edits : List HistoryEdit) : List Record :=
  (rowsAfter edits).mergeSort fun r s => decide (r.rank ≤ s.rank)

def IsNewest (e : HistoryEdit) (records : List Record) : Prop :=
  match e with
  | mark now c _ _ =>
    ∃ r ∈ records, r.identity = e.identity ∧ r.date = some now ∧ r.checksum = .text c.checksum ∧
      ∀ s ∈ records, s ≠ r → s.rank < r.rank
  | _ => True

variable {held : Record → Record} {records : List Record} {edits : List HistoryEdit}
  {e : HistoryEdit}

@[simp] theorem recordsAfter_concat :
    recordsAfter held (edits ++ [e]) = onRecords held (recordsAfter held edits) e := by
  simp [recordsAfter]

theorem identity_ofRun_mark {now : Timestamp} {c : ChangeSet} {textual : c.identity.IsTextual}
    {path : Option String} {order : Value} :
    (Record.ofRun c (mark now c textual path).identity.path now order).identity =
      (mark now c textual path).identity :=
  Snapshot.identity_ofRun

theorem areNumbered_onRecords (h : AreNumbered records) (e : HistoryEdit) :
    AreNumbered (onRecords id records e) := by
  cases e with
  | rewrite => exact h.map (Record.identity_rewritten _ _) (Record.order_rewritten _ _)
  | mark => exact h.upsert rfl
  | forget => exact h.sublist List.filter_sublist

theorem isNewest_onRecords (e : HistoryEdit) : e.IsNewest (onRecords id records e) := by
  cases e with
  | rewrite => trivial
  | mark now c textual path =>
    refine ⟨_, Record.mem_upsert.mpr (.inl rfl), identity_ofRun_mark, rfl, rfl,
      fun s hs other => ?_⟩
    obtain rfl | ⟨old, _⟩ := Record.mem_upsert.mp hs
    · exact absurd rfl other
    · exact Int.lt_add_one_of_le (Record.rank_le_highest old)
  | forget => trivial

theorem highest_onRecords_le (e : HistoryEdit) :
    highest (onRecords id records e) ≤ highest records + 1 := by
  have kept : ∀ r ∈ records, r.rank ≤ highest records + 1 := by
    intro r hr
    have := Record.rank_le_highest hr
    omega
  have nonneg : 0 ≤ highest records + 1 := Int.le_add_one Record.highest_nonneg
  cases e with
  | rewrite =>
    unfold onRecords
    rw [Record.highest_map (Record.order_rewritten _ _)]
    omega
  | mark =>
    apply Record.highest_le nonneg
    intro r hr
    obtain rfl | ⟨old, _⟩ := Record.mem_upsert.mp hr
    · exact Int.le_refl _
    · exact kept r old
  | forget =>
    exact Record.highest_le nonneg fun r hr => kept r (List.mem_of_mem_filter hr)

theorem map_cut_onRecords (e : HistoryEdit) :
    (onRecords id records e).map Record.cut = onRecords Record.cut (records.map Record.cut) e := by
  cases e with
  | rewrite id author path checksum =>
    simp [onRecords, Function.comp_def, Record.cut_rewritten]
  | mark now c textual path =>
    simp only [onRecords, Record.upsert_map_cut, Record.highest_map Record.order_cut, id]
  | forget c textual path =>
    simp [onRecords, List.filter_map, Function.comp_def]

theorem isNewest_map_cut (h : e.IsNewest records) : e.IsNewest (records.map Record.cut) := by
  cases e with
  | rewrite => trivial
  | mark =>
    obtain ⟨r, hr, place, date, checksum, beyond⟩ := h
    refine ⟨r.cut, List.mem_map_of_mem hr, place, date, checksum, fun s hs other => ?_⟩
    obtain ⟨old, old_mem, rfl⟩ := List.mem_map.mp hs
    have ne : old ≠ r := by
      rintro rfl
      exact other rfl
    exact beyond old old_mem ne
  | forget => trivial

theorem areNumbered_recordsAfter (edits : List HistoryEdit) :
    AreNumbered (recordsAfter id edits) := by
  induction edits using List.reverseRecOn with
  | nil => exact Record.areNumbered_nil
  | append_singleton edits e ih =>
    rw [recordsAfter_concat]
    exact areNumbered_onRecords ih e

theorem highest_recordsAfter_le (edits : List HistoryEdit) :
    highest (recordsAfter id edits) ≤ edits.length := by
  induction edits using List.reverseRecOn with
  | nil => exact Int.le_refl 0
  | append_singleton edits e ih =>
    have step : highest (onRecords id (recordsAfter id edits) e) ≤
        highest (recordsAfter id edits) + 1 :=
      highest_onRecords_le e
    rw [recordsAfter_concat, List.length_append, List.length_singleton, Int.natCast_add]
    omega

theorem rowsAfter_eq (edits : List HistoryEdit) :
    rowsAfter edits = (recordsAfter id edits).map Record.cut := by
  unfold rowsAfter
  induction edits using List.reverseRecOn with
  | nil => rfl
  | append_singleton edits e ih =>
    rw [recordsAfter_concat, recordsAfter_concat, map_cut_onRecords, ih]

theorem isNewest_getLast (last : edits.getLast? = some e) : e.IsNewest (recordsAfter id edits) := by
  obtain ⟨front, rfl⟩ := List.getLast?_eq_some_iff.mp last
  rw [recordsAfter_concat]
  exact isNewest_onRecords e

/-- What edits leave in a store: records under numbers, the last one to be marked beyond all
others. -/
structure LeaveNumbered (edits : List HistoryEdit) (records : List Record) : Prop where
  numbered : AreNumbered records
  newest : ∀ e, edits.getLast? = some e → e.IsNewest records

theorem LeaveNumbered.perm {records' : List Record} (h : LeaveNumbered edits records)
    (same : records.Perm records') : LeaveNumbered edits records' where
  numbered := h.numbered.perm same
  newest e last := by
    cases e with
    | rewrite => trivial
    | mark =>
      obtain ⟨r, hr, place, date, checksum, beyond⟩ := h.newest _ last
      exact ⟨r, same.subset hr, place, date, checksum, fun s hs => beyond s (same.symm.subset hs)⟩
    | forget => trivial

theorem leaveNumbered_recordsAfter (edits : List HistoryEdit) :
    LeaveNumbered edits (recordsAfter id edits) where
  numbered := areNumbered_recordsAfter edits
  newest _ last := isNewest_getLast last

theorem leaveNumbered_rowsAfter (edits : List HistoryEdit) :
    LeaveNumbered edits (rowsAfter edits) := by
  rw [rowsAfter_eq]
  exact {
    numbered := (areNumbered_recordsAfter edits).map Record.identity_cut Record.order_cut
    newest _ last := isNewest_map_cut (isNewest_getLast last) }

theorem highest_rowsAfter_le (edits : List HistoryEdit) :
    Record.highest (rowsAfter edits) ≤ edits.length := by
  rw [rowsAfter_eq, Record.highest_map Record.order_cut]
  exact highest_recordsAfter_le edits

end HistoryEdit

end SchemaMigration
