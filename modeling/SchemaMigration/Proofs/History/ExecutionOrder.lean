import SchemaMigration.Proofs.History.Agreement

/-! Histories in the order of execution. A table reads in the order in which changesets were last
marked. A store in memory reads in the order in which they entered it, and marks one that it holds
where it stands; so it reads in the order of execution exactly if no changeset was marked again
after one that entered later. -/

namespace SchemaMigration

structure Stay where
  entered : Nat
  marked : Nat
  deriving DecidableEq, Repr

namespace HistoryEdit

def stayAfter (i : Identity) (count : Nat) (stay : Option Stay) (e : HistoryEdit) : Option Stay :=
  if e.identity = i then
    match e with
    | rewrite .. => stay
    | mark .. => some ⟨(stay.map Stay.entered).getD count, count⟩
    | forget .. => none
  else stay

def stayUpTo? (i : Identity) : List HistoryEdit → Option Stay
  | [] => none
  | e :: earlier => stayAfter i earlier.length (stayUpTo? i earlier) e

def stay? (edits : List HistoryEdit) (i : Identity) : Option Stay := stayUpTo? i edits.reverse

/-- Whether those that entered earlier were also marked earlier, among those that are held. -/
def KeepsOrder (edits : List HistoryEdit) : Prop :=
  ∀ i j a b, stay? edits i = some a → stay? edits j = some b → a.entered < b.entered →
    a.marked < b.marked

variable {edits : List HistoryEdit} {i : Identity} {e : HistoryEdit}

theorem stay?_concat : stay? (edits ++ [e]) i = stayAfter i edits.length (stay? edits i) e := by
  simp [stay?, stayUpTo?]

theorem stay?_of_ne (other : i ≠ e.identity) : stay? (edits ++ [e]) i = stay? edits i := by
  rw [stay?_concat]
  exact if_neg (Ne.symm other)

theorem stay?_mark {now : Timestamp} {c : ChangeSet} {textual : c.identity.IsTextual}
    {path : Option String} (marks : e = mark now c textual path) :
    stay? (edits ++ [e]) e.identity =
      some ⟨((stay? edits e.identity).map Stay.entered).getD edits.length, edits.length⟩ := by
  subst marks
  rw [stay?_concat, stayAfter, if_pos rfl]

theorem stay?_lt {a : Stay} (held : stay? edits i = some a) :
    a.entered < edits.length ∧ a.marked < edits.length := by
  induction edits using List.reverseRecOn generalizing a with
  | nil => cases held
  | append_singleton edits e ih =>
    rw [List.length_append, List.length_singleton]
    by_cases same : i = e.identity
    · subst same
      cases e with
      | rewrite =>
        rw [stay?_concat, stayAfter, if_pos rfl] at held
        exact ⟨Nat.lt_succ_of_lt (ih held).1, Nat.lt_succ_of_lt (ih held).2⟩
      | mark =>
        rw [stay?_mark rfl] at held
        cases held
        refine ⟨?_, Nat.lt_succ_self _⟩
        cases before : stay? edits (mark _ _ _ _).identity with
        | none => exact Nat.lt_succ_self _
        | some b => exact Nat.lt_succ_of_lt (ih before).1
      | forget =>
        rw [stay?_concat, stayAfter, if_pos rfl] at held
        cases held
    · rw [stay?_of_ne same] at held
      exact ⟨Nat.lt_succ_of_lt (ih held).1, Nat.lt_succ_of_lt (ih held).2⟩

theorem exists_of_stay? {a : Stay} (held : stay? edits i = some a) :
    ∃ e ∈ edits, e.identity = i := by
  induction edits using List.reverseRecOn with
  | nil => cases held
  | append_singleton edits e ih =>
    by_cases same : i = e.identity
    · exact ⟨e, List.mem_append_right _ (List.mem_singleton.mpr rfl), same.symm⟩
    · rw [stay?_of_ne same] at held
      obtain ⟨d, hd, place⟩ := ih held
      exact ⟨d, List.mem_append_left _ hd, place⟩

theorem keepsOrder_iff : KeepsOrder edits ↔ ∀ d ∈ edits, ∀ e ∈ edits, ∀ a ∈ stay? edits d.identity,
    ∀ b ∈ stay? edits e.identity, a.entered < b.entered → a.marked < b.marked := by
  constructor
  · intro keeps d _ e _ a found_a b found_b
    exact keeps _ _ a b found_a found_b
  · intro keeps i j a b found_a found_b
    obtain ⟨d, hd, rfl⟩ := exists_of_stay? found_a
    obtain ⟨e, he, rfl⟩ := exists_of_stay? found_b
    exact keeps d hd e he a found_a b found_b

instance : Decidable (KeepsOrder edits) := decidable_of_iff _ keepsOrder_iff.symm

/-- What the records in memory show of stays: those that are held, in the order in which they
entered, with the numbers of their last marks. -/
structure ShowStays (edits : List HistoryEdit) (records : List Record) : Prop where
  held : ∀ i, i ∈ records.map Record.identity ↔ (stay? edits i).isSome = true
  entered : (records.map Record.identity).Pairwise fun i j =>
    ∀ a b, stay? edits i = some a → stay? edits j = some b → a.entered < b.entered
  marked : ∀ r ∈ records, ∀ s ∈ records, ∀ a b, stay? edits r.identity = some a →
    stay? edits s.identity = some b → (r.rank < s.rank ↔ a.marked < b.marked)

variable {records : List Record} {now : Timestamp} {c : ChangeSet} {textual : c.identity.IsTextual}
  {path : Option String}

theorem ShowStays.congr {edits' : List HistoryEdit} (h : ShowStays edits records)
    (same : ∀ i, stay? edits' i = stay? edits i) : ShowStays edits' records := by
  have stays : stay? edits' = stay? edits := funext same
  constructor
  · rw [stays]
    exact h.held
  · rw [stays]
    exact h.entered
  · rw [stays]
    exact h.marked

theorem ShowStays.map (h : ShowStays edits records) {f : Record → Record}
    (same_identity : ∀ r, (f r).identity = r.identity) (same_order : ∀ r, (f r).order = r.order) :
    ShowStays edits (records.map f) := by
  have identities : (records.map f).map Record.identity = records.map Record.identity := by
    rw [List.map_map]
    exact congrArg (List.map · records) (funext same_identity)
  constructor
  · rw [identities]
    exact h.held
  · rw [identities]
    exact h.entered
  · intro r' hr' s' hs'
    obtain ⟨r, hr, rfl⟩ := List.mem_map.mp hr'
    obtain ⟨s, hs, rfl⟩ := List.mem_map.mp hs'
    rw [same_identity, same_identity, Record.rank_congr (same_order r),
      Record.rank_congr (same_order s)]
    exact h.marked r hr s hs

theorem ShowStays.forget (h : ShowStays edits records) :
    ShowStays (edits ++ [forget c textual path])
      (records.filter fun r => r.identity != (forget c textual path).identity) := by
  have gone : stay? (edits ++ [HistoryEdit.forget c textual path])
      (HistoryEdit.forget c textual path).identity = none := by
    rw [stay?_concat, stayAfter, if_pos rfl]
  generalize forgets : HistoryEdit.forget c textual path = e at gone
  have identities : (records.filter fun r => r.identity != e.identity).map Record.identity =
      (records.map Record.identity).filter fun i => i != e.identity := by
    rw [List.filter_map]
    rfl
  have other : ∀ i ∈ (records.map Record.identity).filter fun i =>
      i != e.identity, i ≠ e.identity := by
    intro i hi
    simpa using List.of_mem_filter hi
  constructor
  · intro i
    rw [identities, List.mem_filter, h.held]
    by_cases same : i = e.identity
    · simp [same, gone]
    · simp [same, stay?_of_ne same]
  · rw [identities]
    refine (h.entered.sublist List.filter_sublist).imp_of_mem fun hi hj earlier => ?_
    rwa [stay?_of_ne (other _ hi), stay?_of_ne (other _ hj)]
  · intro r hr s hs
    rw [stay?_of_ne (by simpa using List.of_mem_filter hr),
      stay?_of_ne (by simpa using List.of_mem_filter hs)]
    exact h.marked r (List.mem_of_mem_filter hr) s (List.mem_of_mem_filter hs)

theorem identities_upsert {row : Record} :
    (row.upsert records).map Record.identity =
      if row.identity ∈ records.map Record.identity then records.map Record.identity
      else records.map Record.identity ++ [row.identity] := by
  have found : (records.any fun r => r.identity == row.identity) = true ↔
      row.identity ∈ records.map Record.identity := by simp [List.any_eq_true]
  unfold Record.upsert
  split
  next held =>
    rw [if_pos (found.mp held), List.map_map]
    apply List.map_congr_left
    intro r _
    by_cases same : r.identity = row.identity
    · simp [same]
    · simp [same]
  next missing =>
    rw [if_neg fun held => missing (found.mpr held)]
    simp

section Mark

variable {row : Record} (h : ShowStays edits records) (marks : e = mark now c textual path)
  (place : row.identity = e.identity)

include h marks

theorem ShowStays.entered_of_held (held : i ∈ records.map Record.identity) {a : Stay}
    (found : stay? (edits ++ [e]) i = some a) : ∃ b, stay? edits i = some b ∧
      b.entered = a.entered := by
  by_cases same : i = e.identity
  · obtain ⟨b, before⟩ := Option.isSome_iff_exists.mp ((h.held i).mp held)
    rw [same, stay?_mark marks, ← same, before] at found
    cases found
    exact ⟨b, before, rfl⟩
  · rw [stay?_of_ne same] at found
    exact ⟨a, found, rfl⟩

include place

theorem ShowStays.held_mark (i : Identity) : i ∈ (row.upsert records).map Record.identity ↔
    (stay? (edits ++ [e]) i).isSome = true := by
  have mem : i ∈ (row.upsert records).map Record.identity ↔
      i = e.identity ∨ i ∈ records.map Record.identity := by
    rw [identities_upsert, place]
    split
    next held =>
      refine ⟨.inr, ?_⟩
      rintro (rfl | old)
      · exact held
      · exact old
    next => simp [or_comm]
  rw [mem, h.held]
  by_cases same : i = e.identity
  · simp [same, stay?_mark marks]
  · simp [same, stay?_of_ne same]

theorem ShowStays.entered_mark : ((row.upsert records).map Record.identity).Pairwise fun i j =>
    ∀ a b, stay? (edits ++ [e]) i = some a → stay? (edits ++ [e]) j = some b →
      a.entered < b.entered := by
  rw [identities_upsert, place]
  split
  next =>
    refine h.entered.imp_of_mem fun hi hj earlier a b found_a found_b => ?_
    obtain ⟨a', before_a, a_eq⟩ := h.entered_of_held marks hi found_a
    obtain ⟨b', before_b, b_eq⟩ := h.entered_of_held marks hj found_b
    rw [← a_eq, ← b_eq]
    exact earlier a' b' before_a before_b
  next missing =>
    have other : ∀ i ∈ records.map Record.identity, i ≠ e.identity := by
      rintro i hi rfl
      exact missing hi
    have new : stay? edits e.identity = none := by
      rw [← Option.not_isSome_iff_eq_none, ← h.held]
      exact missing
    rw [List.pairwise_append]
    refine ⟨?_, List.pairwise_singleton _ _, fun i hi j hj a b found_a found_b => ?_⟩
    · refine h.entered.imp_of_mem fun hi hj earlier => ?_
      rwa [stay?_of_ne (other _ hi), stay?_of_ne (other _ hj)]
    · rw [stay?_of_ne (other i hi)] at found_a
      rw [List.mem_singleton.mp hj, stay?_mark marks, new] at found_b
      cases found_b
      exact (stay?_lt found_a).1

theorem ShowStays.marked_mark (next : row.rank = Record.highest records + 1) :
    ∀ r ∈ row.upsert records, ∀ s ∈ row.upsert records, ∀ a b,
      stay? (edits ++ [e]) r.identity = some a → stay? (edits ++ [e]) s.identity = some b →
        (r.rank < s.rank ↔ a.marked < b.marked) := by
  have marked_row : ∀ a, stay? (edits ++ [e]) e.identity = some a → a.marked = edits.length := by
    intro a found
    rw [stay?_mark marks] at found
    cases found
    rfl
  intro r hr s hs a b found_a found_b
  obtain rfl | ⟨old_r, other_r⟩ := Record.mem_upsert.mp hr
  · rw [place] at found_a
    obtain rfl | ⟨old_s, other_s⟩ := Record.mem_upsert.mp hs
    · rw [place, found_a] at found_b
      cases found_b
      simp
    · rw [place] at other_s
      rw [stay?_of_ne other_s] at found_b
      have below := Record.rank_le_highest old_s
      have before := (stay?_lt found_b).2
      rw [marked_row a found_a, next]
      omega
  · rw [place] at other_r
    rw [stay?_of_ne other_r] at found_a
    obtain rfl | ⟨old_s, other_s⟩ := Record.mem_upsert.mp hs
    · rw [place] at found_b
      have below := Record.rank_le_highest old_r
      have before := (stay?_lt found_a).2
      rw [marked_row b found_b, next]
      omega
    · rw [place] at other_s
      rw [stay?_of_ne other_s] at found_b
      exact h.marked r old_r s old_s a b found_a found_b

theorem ShowStays.mark (next : row.rank = Record.highest records + 1) :
    ShowStays (edits ++ [e]) (row.upsert records) where
  held := h.held_mark marks place
  entered := h.entered_mark marks place
  marked := h.marked_mark marks place next

end Mark

theorem showStays_recordsAfter (edits : List HistoryEdit) :
    ShowStays edits (recordsAfter id edits) := by
  induction edits using List.reverseRecOn with
  | nil => exact ⟨by simp [recordsAfter, stay?, stayUpTo?], List.Pairwise.nil, nofun⟩
  | append_singleton edits e ih =>
    rw [recordsAfter_concat]
    cases e with
    | rewrite id author path checksum =>
      refine (ih.map (Record.identity_rewritten _ _) (Record.order_rewritten _ _)).congr fun i => ?_
      rw [stay?_concat, stayAfter]
      split
      · rfl
      · rfl
    | mark now c textual path => exact ih.mark rfl identity_ofRun_mark rfl
    | forget c textual path => exact ih.forget

end HistoryEdit

namespace Record

/-- Whether records are numbered in the order that they have, strictly upwards. -/
structure AreInOrder (records : List Record) : Prop where
  numbered : ∀ r ∈ records, r.IsNumbered
  upwards : records.Pairwise fun r s => r.rank < s.rank

variable {records records' : List Record} {r s : Record}

theorem AreNumbered.mergeSort (h : AreNumbered records) :
    AreInOrder (records.mergeSort fun r s => decide (r.rank ≤ s.rank)) := by
  have numbered := h.perm (List.mergeSort_perm records fun r s => decide (r.rank ≤ s.rank)).symm
  have sorted : (records.mergeSort fun r s => decide (r.rank ≤ s.rank)).Pairwise fun r s =>
      decide (r.rank ≤ s.rank) = true :=
    List.pairwise_mergeSort (fun _ _ _ => by simpa using Int.le_trans)
      (fun r s => by simpa using Int.le_total r.rank s.rank) records
  refine ⟨numbered.numbered, (sorted.and (List.pairwise_map.mp numbered.orders)).imp_of_mem ?_⟩
  rintro r s hr hs ⟨le, different⟩
  refine Int.lt_iff_le_and_ne.mpr ⟨of_decide_eq_true le, fun same => different ?_⟩
  exact congrArg order (numbered.eq_of_rank hr hs same)

theorem AreInOrder.map_cut (h : AreInOrder records) : AreInOrder (records.map cut) where
  numbered r hr := by
    obtain ⟨s, hs, rfl⟩ := List.mem_map.mp hr
    exact h.numbered s hs
  upwards := List.pairwise_map.mpr h.upwards

theorem AreInOrder.eq_of_perm (h : AreInOrder records) (h' : AreInOrder records')
    (same : records.Perm records') : records = records' :=
  same.eq_of_pairwise (fun _ _ _ _ lt gt => absurd (Int.lt_trans lt gt) (Int.lt_irrefl _))
    h.upwards h'.upwards

theorem AreNumbered.eq_of_identities (h : AreNumbered records) (same : records.Perm records')
    (identities : records.map identity = records'.map identity) : records = records' := by
  apply List.ext_getElem same.length_eq
  intro n hn hn'
  have in_records : records'[n] ∈ records := same.symm.subset (List.getElem_mem hn')
  apply h.eq_of_identity (List.getElem_mem hn) in_records
  have at_n := List.getElem_of_eq identities (by simpa using hn)
  simpa using at_n

end Record

namespace HistoryEdit

open Record (AreInOrder)

theorem areInOrder_recordsAfter_iff (edits : List HistoryEdit) :
    AreInOrder (recordsAfter id edits) ↔ KeepsOrder edits := by
  have shown := showStays_recordsAfter edits
  have entered := List.pairwise_map.mp shown.entered
  have stay_of_mem : ∀ r ∈ recordsAfter id edits, ∃ a, stay? edits r.identity = some a := by
    intro r hr
    exact Option.isSome_iff_exists.mp ((shown.held r.identity).mp (List.mem_map_of_mem hr))
  constructor
  · rintro ⟨-, upwards⟩ i j a b found_a found_b earlier
    obtain ⟨r, hr, rfl⟩ := List.mem_map.mp ((shown.held i).mpr (Option.isSome_of_eq_some found_a))
    obtain ⟨s, hs, rfl⟩ := List.mem_map.mp ((shown.held j).mpr (Option.isSome_of_eq_some found_b))
    rw [← shown.marked r hr s hs a b found_a found_b]
    have ne : r ≠ s := by
      rintro rfl
      rw [found_a] at found_b
      cases found_b
      exact Nat.lt_irrefl _ earlier
    rcases related_of_pairwise (entered.and upwards) hr hs ne with ⟨-, lt⟩ | ⟨later, -⟩
    · exact lt
    · exact absurd (later b a found_b found_a) (Nat.lt_asymm earlier)
  · intro keeps
    refine ⟨(areNumbered_recordsAfter edits).numbered, entered.imp_of_mem fun hr hs earlier => ?_⟩
    obtain ⟨a, found_a⟩ := stay_of_mem _ hr
    obtain ⟨b, found_b⟩ := stay_of_mem _ hs
    rw [shown.marked _ hr _ hs a b found_a found_b]
    exact keeps _ _ a b found_a found_b (earlier a b found_a found_b)

theorem areInOrder_listing (edits : List HistoryEdit) : AreInOrder (listing edits) :=
  (leaveNumbered_rowsAfter edits).numbered.mergeSort

theorem identities_eq_iff (edits : List HistoryEdit) :
    (listing edits).map Record.identity = (recordsAfter id edits).map Record.identity ↔
      AreInOrder (recordsAfter id edits) := by
  have same := listing_perm_map_cut edits
  have cut_identities : ((recordsAfter id edits).map Record.cut).map Record.identity =
      (recordsAfter id edits).map Record.identity := by
    rw [List.map_map]
    rfl
  constructor
  · intro identities
    have equal := (leaveNumbered_listing edits).numbered.eq_of_identities same
      (identities.trans cut_identities.symm)
    have upwards := (areInOrder_listing edits).upwards
    rw [equal, List.pairwise_map] at upwards
    exact ⟨(areNumbered_recordsAfter edits).numbered, upwards⟩
  · intro in_order
    rw [(areInOrder_listing edits).eq_of_perm in_order.map_cut same, cut_identities]

/-- A store in memory reads in the order of execution, and lists the same changesets as a table,
exactly if no changeset was marked again after one that entered later and is still held. A table
always reads in that order. -/
theorem areInOrder_iff_keepsOrder (edits : List HistoryEdit) {t : TableStore}
    (empty : (HistoryStore.load t).1 = .ok []) :
    ∃ store records, writeAll edits ({} : MemoryStore) = (.ok (), store) ∧
      (HistoryStore.load store).1 = .ok records ∧
      (AreInOrder records ↔ KeepsOrder edits) ∧
      ((listing edits).map Record.identity = records.map Record.identity ↔ KeepsOrder edits) ∧
      AreInOrder (listing edits) ∧
      (edits.length < Sqlite.Cell.intLimit →
        ∃ t', writeAll edits t = (.ok (), t') ∧ (HistoryStore.load t').1 =
          .ok (listing edits)) := by
  obtain ⟨store, done, records_eq⟩ := MemoryStore.writeAll_eq edits
  have ordered := areInOrder_recordsAfter_iff edits
  exact ⟨store, recordsAfter id edits, done, congrArg Except.ok records_eq, ordered,
    (identities_eq_iff edits).trans ordered, areInOrder_listing edits, load_writeAll empty⟩

def recordedAnew : List HistoryEdit :=
  [mark noon (emptySet "1") (isTextual_emptySet "1") none,
    mark noon (emptySet "2") (isTextual_emptySet "2") none,
    forget (emptySet "1") (isTextual_emptySet "1") none,
    mark noon (emptySet "1") (isTextual_emptySet "1") none]

theorem areInOrder_of_recordedAnew :
    (HistoryStore.load ({} : TableStore)).1 = .ok [] ∧
      ∃ store records, writeAll recordedAnew ({} : MemoryStore) = (.ok (), store) ∧
        (HistoryStore.load store).1 = .ok records ∧ AreInOrder records ∧
        (listing recordedAnew).map Record.identity = records.map Record.identity := by
  have keeps : KeepsOrder recordedAnew := by decide +kernel
  obtain ⟨store, records, done, loaded, ordered, same, -⟩ :=
    areInOrder_iff_keepsOrder recordedAnew load_newTable
  exact ⟨load_newTable, store, records, done, loaded, ordered.mpr keeps, same.mpr keeps⟩

/-- The first changeset is marked again after the second, while both are held. -/
def markedAgain : List HistoryEdit :=
  [mark noon (emptySet "1") (isTextual_emptySet "1") none,
    mark noon (emptySet "2") (isTextual_emptySet "2") none,
    mark noon (emptySet "1") (isTextual_emptySet "1") none]

theorem not_areInOrder_markedAgain :
    ∃ store records t' rows, writeAll markedAgain ({} : MemoryStore) = (.ok (), store) ∧
      (HistoryStore.load store).1 = .ok records ∧ records.map Record.order = [.int 3, .int 2] ∧
      ¬ AreInOrder records ∧ writeAll markedAgain ({} : TableStore) = (.ok (), t') ∧
      (HistoryStore.load t').1 = .ok rows ∧ rows.map Record.identity ≠
        records.map Record.identity := by
  obtain ⟨store, done, records_eq⟩ := MemoryStore.writeAll_eq markedAgain
  have few : (markedAgain.length : Int) < Sqlite.Cell.intLimit := by decide
  obtain ⟨t', written, listed⟩ := load_writeAll load_newTable few
  have breaks : ¬ KeepsOrder markedAgain := by decide +kernel
  have not_in_order := mt (areInOrder_recordsAfter_iff markedAgain).mp breaks
  have orders : (recordsAfter id markedAgain).map Record.order = [.int 3, .int 2] := by
    decide +kernel
  exact ⟨store, _, t', _, done, congrArg Except.ok records_eq, orders, not_in_order,
    written, listed, fun same => not_in_order ((identities_eq_iff markedAgain).mp same)⟩

end HistoryEdit

end SchemaMigration
