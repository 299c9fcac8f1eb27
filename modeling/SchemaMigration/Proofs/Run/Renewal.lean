import SchemaMigration.Proofs.History.Numbering
import SchemaMigration.Proofs.Run.Rehearsal

namespace SchemaMigration

namespace Snapshot

variable {s : Snapshot} {c d : ChangeSet} {rest changeSets : List ChangeSet} {r : Record}

def drifted? (s : Snapshot) (c : ChangeSet) : Option Identity :=
  ((s.find? c).filter (hasDrifted c)).map Record.identity

/-- A record with the checksum of the changeset whose governing record has drifted under its
identity, if there is one. -/
def refreshed (s : Snapshot) (changeSets : List ChangeSet) (r : Record) : Record :=
  match changeSets.find? fun c => s.drifted? c == some r.identity with
  | some c => { r with checksum := .text c.checksum }
  | none => r

def unseen (s : Snapshot) (changeSets : List ChangeSet) : List ChangeSet :=
  changeSets.filter fun c => (s.find? c).isNone

/-- Whether nothing of a changelog that is recorded has to run again. -/
def RunsUnseenOnly (s : Snapshot) (changeSets : List ChangeSet) : Prop :=
  ∀ c ∈ changeSets, (s.find? c).isSome → s.mustRun c = false

theorem RunsUnseenOnly.head (h : s.RunsUnseenOnly (c :: rest)) : s.RunsUnseenOnly [c] := by
  intro d hd
  rw [List.mem_singleton.mp hd]
  exact h c List.mem_cons_self

theorem RunsUnseenOnly.tail (h : s.RunsUnseenOnly (c :: rest)) : s.RunsUnseenOnly rest :=
  fun d hd => h d (List.mem_cons_of_mem c hd)

theorem RunsUnseenOnly.mustRun_eq (h : s.RunsUnseenOnly changeSets) (hc : c ∈ changeSets) :
    s.mustRun c = (s.find? c).isNone := by
  cases found : s.find? c with
  | none => simp [mustRun, found]
  | some r => exact h c hc (by simp [found])

theorem drifted?_eq_some {i : Identity} (h : s.drifted? c = some i) :
    ∃ r, s.find? c = some r ∧ r.identity = i ∧ hasDrifted c r = true := by
  unfold drifted? at h
  obtain ⟨r, filtered, rfl⟩ := Option.map_eq_some_iff.mp h
  obtain ⟨found, drifted⟩ := Option.filter_eq_some_iff.mp filtered
  exact ⟨r, found, rfl, drifted⟩

theorem identity_refreshed (s : Snapshot) (changeSets : List ChangeSet) (r : Record) :
    (s.refreshed changeSets r).identity = r.identity := by
  unfold refreshed
  split
  · rfl
  · rfl

theorem order_refreshed (s : Snapshot) (changeSets : List ChangeSet) (r : Record) :
    (s.refreshed changeSets r).order = r.order := by
  unfold refreshed
  split
  · rfl
  · rfl

theorem refreshed_nil : s.refreshed [] r = r := rfl

theorem refreshed_cons_of_eq (h : s.drifted? c = some r.identity) :
    s.refreshed (c :: rest) r = { r with checksum := .text c.checksum } := by
  unfold refreshed
  rw [List.find?_cons_of_pos (by simp [h])]

theorem refreshed_cons_of_ne (h : s.drifted? c ≠ some r.identity) :
    s.refreshed (c :: rest) r = s.refreshed rest r := by
  unfold refreshed
  rw [List.find?_cons_of_neg (by simp [h])]

theorem refreshed_of_ne (h : ∀ c ∈ changeSets, s.drifted? c ≠ some r.identity) :
    s.refreshed changeSets r = r := by
  induction changeSets with
  | nil => rfl
  | cons c rest ih =>
    rw [refreshed_cons_of_ne (h c List.mem_cons_self)]
    exact ih fun d hd => h d (List.mem_cons_of_mem c hd)

theorem texts?_of_drifted? {i : Identity} (hc : c.identity.IsTextual) (h : s.drifted? c = some i) :
    i.texts? s.ignoreCase = c.identity.texts? s.ignoreCase := by
  obtain ⟨r, found, rfl, -⟩ := drifted?_eq_some h
  exact (matches?_iff hc r).mp (matches?_of_find? found)

theorem refreshed_refreshed_singleton (distinct : ChangeSet.AreDistinct s.ignoreCase (c :: rest)) :
    s.refreshed rest (s.refreshed [c] r) = s.refreshed (c :: rest) r := by
  by_cases drifted : s.drifted? c = some r.identity
  · have others : ∀ d ∈ rest, s.drifted? d ≠ some (s.refreshed [c] r).identity := by
      intro d hd same
      rw [identity_refreshed] at same
      apply distinct.head_ne hd
      rw [← texts?_of_drifted? distinct.head drifted,
        texts?_of_drifted? (distinct.tail.textual d hd) same]
    rw [refreshed_of_ne others, refreshed_cons_of_eq drifted, refreshed_cons_of_eq drifted]
  · rw [refreshed_cons_of_ne drifted, refreshed_cons_of_ne drifted, refreshed_nil]

def renewed (s : Snapshot) (changeSets : List ChangeSet) : Snapshot where
  records := s.records.map (s.refreshed changeSets)
  ignoreCase := s.ignoreCase

theorem isObstructed_renewed (s : Snapshot) (changeSets : List ChangeSet) (c : ChangeSet) :
    (s.renewed changeSets).isObstructed c = s.isObstructed c :=
  isObstructed_map (s.refreshed changeSets) (identity_refreshed s changeSets)

theorem find?_renewed (s : Snapshot) (changeSets : List ChangeSet) (c : ChangeSet) :
    (s.renewed changeSets).find? c = (s.find? c).map (s.refreshed changeSets) := by
  have same : matches? s.ignoreCase c ∘ s.refreshed changeSets = matches? s.ignoreCase c :=
    funext fun r => matches?_congr (identity_refreshed s changeSets r)
  unfold renewed Snapshot.find?
  rw [List.find?_map, same]

theorem refreshed_of_find? (distinct : ChangeSet.AreDistinct s.ignoreCase changeSets)
    (hc : c ∈ changeSets)
    (found : s.find? c = some r) : s.refreshed changeSets r =
      { r with checksum := .text c.checksum } := by
  have own := (matches?_iff (distinct.textual c hc) r).mp (matches?_of_find? found)
  have only : ∀ d ∈ changeSets, s.drifted? d = some r.identity → d = c := by
    intro d hd drifted
    by_contra ne
    apply distinct.texts?_ne hd hc ne
    rw [← texts?_of_drifted? (distinct.textual d hd) drifted, own]
  cases drifted : hasDrifted c r with
  | true =>
    have due : s.drifted? c = some r.identity := by simp [drifted?, found, Option.filter, drifted]
    have finds : changeSets.find? (fun c => s.drifted? c == some r.identity) = some c :=
      find?_eq_some_of_unique hc (by simp [due]) fun d hd same => only d hd (by simpa using same)
    unfold refreshed
    rw [finds]
  | false =>
    have current : r.checksum = .text c.checksum := by simpa [hasDrifted] using drifted
    have none_due : ∀ d ∈ changeSets, s.drifted? d ≠ some r.identity := by
      intro d hd due
      rw [only d hd due] at due
      obtain ⟨governing, found', -, drifted'⟩ := drifted?_eq_some due
      rw [found] at found'
      cases found'
      rw [drifted] at drifted'
      cases drifted'
    rw [refreshed_of_ne none_due, ← current]

theorem find?_renewed_of_mem (distinct : ChangeSet.AreDistinct s.ignoreCase changeSets)
    (hc : c ∈ changeSets) :
    (s.renewed changeSets).find? c = (s.find? c).map fun r =>
    { r with checksum := .text c.checksum } := by
  rw [find?_renewed]
  cases found : s.find? c with
  | none => rfl
  | some r => exact congrArg some (refreshed_of_find? distinct hc found)

theorem mustRun_renewed (distinct : ChangeSet.AreDistinct s.ignoreCase changeSets)
    (unseen_only : s.RunsUnseenOnly changeSets) (hc : c ∈ changeSets) :
    (s.renewed changeSets).mustRun c = s.mustRun c := by
  rw [unseen_only.mustRun_eq hc]
  have before := unseen_only c hc
  unfold mustRun at before ⊢
  rw [find?_renewed_of_mem distinct hc]
  cases found : s.find? c with
  | none => rfl
  | some r =>
    rw [found] at before
    have idle := before rfl
    dsimp only at idle
    rw [Bool.or_eq_false_iff] at idle
    simp [hasDrifted, idle.1]

end Snapshot

namespace Selection

variable {s : Selection} {store : MemoryStore} {c : ChangeSet}

theorem writtenBack_eq (hc : c.identity.IsTextual) (current : s.IsCurrent store c) :
    (s.writtenBack store c).records = store.records.map (s.snapshot.refreshed [c]) := by
  have due : s.toReconcile? c = s.snapshot.drifted? c := toReconcile?_of_unwritten current.unwritten
  unfold writtenBack
  rw [due]
  cases drifted : s.snapshot.drifted? c with
  | none =>
    have unchanged : ∀ r ∈ store.records, s.snapshot.refreshed [c] r = id r := by
      intro r _
      exact Snapshot.refreshed_cons_of_ne (by simp [drifted])
    rw [List.map_congr_left unchanged, List.map_id]
  | some i =>
    obtain ⟨governing, found, rfl, -⟩ := Snapshot.drifted?_eq_some drifted
    have textual := Snapshot.isTextual_of_find? hc found
    apply List.map_congr_left
    intro r _
    by_cases same : r.identity = governing.identity
    · rw [if_pos (textual.same_iff.mpr same), Snapshot.refreshed_cons_of_eq (by rw [drifted, same])]
    · rw [if_neg fun found => same (textual.same_iff.mp found)]
      have other : s.snapshot.drifted? c ≠ some r.identity := by
        rw [drifted]
        exact fun same_r => same (Option.some.inj same_r).symm
      rw [Snapshot.refreshed_cons_of_ne other, Snapshot.refreshed_nil]

end Selection

namespace Migration

/-- The runs of changesets at one moment, one after the other, with the records that they leave
above some order. -/
def runsFrom (m : Migration) (order : Int) : List ChangeSet → List (ChangeSet × Record)
  | [] => []
  | c :: rest => (c, Record.ofRun c c.path m.now (.int (order + 1))) :: m.runsFrom (order + 1) rest

variable {m : Migration} {order : Int} {changeSets : List ChangeSet} {t : ChangeSet × Record}

theorem map_fst_runsFrom (m : Migration) (order : Int) (changeSets : List ChangeSet) :
    (m.runsFrom order changeSets).map Prod.fst = changeSets := by
  induction changeSets generalizing order with
  | nil => rfl
  | cons c rest ih => rw [runsFrom, List.map_cons, ih]

theorem identity_of_runsFrom (h : t ∈ m.runsFrom order changeSets) :
    t.2.identity = t.1.identity := by
  induction changeSets generalizing order with
  | nil => cases h
  | cons c rest ih =>
    rcases List.mem_cons.mp h with rfl | later
    · rfl
    · exact ih later

theorem order_of_runsFrom (h : t ∈ m.runsFrom order changeSets) :
    t.2.order = .int t.2.rank ∧ order < t.2.rank := by
  induction changeSets generalizing order with
  | nil => cases h
  | cons c rest ih =>
    rcases List.mem_cons.mp h with rfl | later
    · exact ⟨rfl, Int.lt_succ order⟩
    · obtain ⟨numbered, above⟩ := ih later
      exact ⟨numbered, Int.lt_trans (Int.lt_succ order) above⟩

theorem areCounted_runsFrom (nonneg : 0 ≤ order) :
    Record.AreCounted ((m.runsFrom order changeSets).map Prod.snd) := by
  constructor
  · intro r hr
    obtain ⟨t, ht, rfl⟩ := List.mem_map.mp hr
    exact .inr ⟨_, (order_of_runsFrom ht).1⟩
  · intro r hr
    obtain ⟨t, ht, rfl⟩ := List.mem_map.mp hr
    exact Int.le_of_lt (Int.lt_of_le_of_lt nonneg (order_of_runsFrom ht).2)

theorem runsFrom_append (m : Migration) (order : Int) (front rest : List ChangeSet) :
    m.runsFrom order (front ++ rest) = m.runsFrom order front ++
      m.runsFrom (order + front.length) rest := by
  induction front generalizing order with
  | nil => simp [runsFrom]
  | cons c front ih =>
    have later : order + 1 + front.length = order + (c :: front).length := by
      rw [List.length_cons]
      omega
    rw [List.cons_append, runsFrom, runsFrom, List.cons_append, ih, later]

theorem highest_runsFrom (m : Migration) (nonneg : 0 ≤ order) (changeSets : List ChangeSet) :
    max order (Record.highest ((m.runsFrom order changeSets).map Prod.snd)) = order +
      changeSets.length := by
  induction changeSets generalizing order with
  | nil => simp [runsFrom, Int.max_eq_left nonneg]
  | cons c rest ih =>
    have rest_eq := ih (Int.le_add_one nonneg)
    have first : (Record.ofRun c c.path m.now (.int (order + 1))).rank = order + 1 := rfl
    rw [runsFrom, List.map_cons, Record.highest_cons, first, List.length_cons]
    omega

theorem pairwise_runsFrom (m : Migration) (order : Int) (changeSets : List ChangeSet) :
    (m.runsFrom order changeSets).Pairwise fun t u => t.2.rank < u.2.rank := by
  induction changeSets generalizing order with
  | nil => exact List.Pairwise.nil
  | cons c rest ih => exact (ih (order + 1)).cons fun u hu => (order_of_runsFrom hu).2

/-- What a row of visits leaves of records: they themselves, renewed, and behind them those of the
changesets that were not recorded. -/
def recordsLeft (m : Migration) (s : Snapshot) (changeSets : List ChangeSet)
    (records : List Record) :
    List Record :=
  records.map (s.refreshed changeSets) ++
    (m.runsFrom (Record.highest records) (s.unseen changeSets)).map Prod.snd

section Left

variable {s : Snapshot} {c : ChangeSet} {rest : List ChangeSet} {records : List Record}

theorem recordsLeft_nil : m.recordsLeft s [] records = records := by
  have unchanged : ∀ r ∈ records, s.refreshed [] r = id r := fun _ _ => rfl
  unfold recordsLeft
  rw [List.map_congr_left unchanged, List.map_id]
  simp [Snapshot.unseen, runsFrom]

theorem areCounted_recordsLeft (counted : Record.AreCounted records) :
    Record.AreCounted (m.recordsLeft s changeSets records) :=
  Record.areCounted_append.mpr
    ⟨counted.map (Snapshot.order_refreshed _ _), areCounted_runsFrom Record.highest_nonneg⟩

theorem highest_recordsLeft : Record.highest (m.recordsLeft s changeSets records) =
    Record.highest records + (s.unseen changeSets).length := by
  unfold recordsLeft
  rw [Record.highest_append, Record.highest_map (Snapshot.order_refreshed _ _)]
  exact highest_runsFrom m Record.highest_nonneg _

theorem refreshed_of_runsFrom (distinct : ChangeSet.AreDistinct s.ignoreCase (c :: rest))
    {r : Record} (hr : r ∈ (m.runsFrom order (s.unseen [c])).map Prod.snd) :
    s.refreshed rest r = r := by
  obtain ⟨t, ht, rfl⟩ := List.mem_map.mp hr
  have at_c : t.1 = c := by
    have known : t.1 ∈ s.unseen [c] := by
      rw [← map_fst_runsFrom m order (s.unseen [c])]
      exact List.mem_map_of_mem ht
    exact List.mem_singleton.mp (List.mem_of_mem_filter known)
  apply Snapshot.refreshed_of_ne
  intro d hd same
  rw [identity_of_runsFrom ht, at_c] at same
  exact distinct.head_ne hd (Snapshot.texts?_of_drifted? (distinct.tail.textual d hd) same)

theorem recordsLeft_recordsLeft (distinct : ChangeSet.AreDistinct s.ignoreCase (c :: rest)) :
    m.recordsLeft s rest (m.recordsLeft s [c] records) = m.recordsLeft s (c :: rest) records := by
  have new_kept : ∀ r ∈ (m.runsFrom (Record.highest records) (s.unseen [c])).map Prod.snd,
      s.refreshed rest r = id r :=
    fun r hr => refreshed_of_runsFrom distinct hr
  have unseen_eq : s.unseen (c :: rest) = s.unseen [c] ++ s.unseen rest :=
    List.filter_append [c] rest
  have renewed : ∀ r ∈ records, (s.refreshed rest ∘ s.refreshed [c]) r =
      s.refreshed (c :: rest) r :=
    fun r _ => Snapshot.refreshed_refreshed_singleton distinct
  calc m.recordsLeft s rest (m.recordsLeft s [c] records)
      = (m.recordsLeft s [c] records).map (s.refreshed rest) ++
          (m.runsFrom (Record.highest records + (s.unseen [c]).length) (s.unseen rest)).map
              Prod.snd := by
        rw [← highest_recordsLeft (m := m)]
        rfl
    _ = records.map (s.refreshed (c :: rest)) ++
          ((m.runsFrom (Record.highest records) (s.unseen [c])).map Prod.snd ++
            (m.runsFrom (Record.highest records + (s.unseen [c]).length) (s.unseen rest)).map
                Prod.snd) := by
        rw [recordsLeft, List.map_append, List.map_map, List.map_congr_left renewed,
          List.map_congr_left new_kept, List.map_id, List.append_assoc]
    _ = m.recordsLeft s (c :: rest) records := by
        rw [recordsLeft, unseen_eq, runsFrom_append, List.map_append]

end Left

variable {s s' : Selection} {c : ChangeSet} {rest : List ChangeSet} {step : Step}
  {w w' : World MemoryStore}

theorem records_of_markRan {store store' : MemoryStore} {now : Timestamp} {ignoreCase : Bool}
    (hc : c.identity.IsTextual) (missing : (store.snapshot ignoreCase).find? c = none)
    (counted : Record.AreCounted store.records)
    (marked : store.markRan now c .null = .ok store') :
    store'.records =
      store.records ++ [Record.ofRun c c.path now (.int (Record.highest store.records + 1))] := by
  unfold MemoryStore.markRan at marked
  rw [Record.nextOrder?_eq counted] at marked
  cases marked
  have own : Snapshot.matches? ignoreCase c
      (Record.ofRun c c.path now (.int (Record.highest store.records + 1))) = true :=
    Snapshot.matches?_of_identity hc rfl
  exact Snapshot.putRecord_of_none hc own missing

section Visit

variable (hc : c.identity.IsTextual) (current : s.IsCurrent w.store c) (unguarded : c.guard = none)
  (unseen_only : s.snapshot.RunsUnseenOnly [c]) (counted : Record.AreCounted w.store.records)

include hc current unguarded unseen_only counted

theorem records_of_updateOne (visited : (m.updateOne false s c).run w = (.ok (step, s'), w')) :
    w'.store.records = m.recordsLeft s.snapshot [c] w.store.records := by
  have decision := unseen_only.mustRun_eq (List.mem_singleton.mpr rfl)
  have turn := run_updateOne m s hc w
  rw [visited] at turn
  dsimp only at turn
  generalize ended : (Except.ok (step, s') : Except Failure (Step × Selection)) = result at turn
  cases turn with
  | obstructed => cases ended
  | skipped _ decided store _ =>
    rw [decided] at decision
    have none_new : s.snapshot.unseen [c] = [] := by simp [Snapshot.unseen, ← decision]
    rw [store, recordsLeft, none_new, Selection.writtenBack_eq hc current, runsFrom, List.map_nil,
      List.append_nil]
  | @treated outcome _ _ decided treatment =>
    cases outcome with
    | error e => cases ended
    | ok step' =>
      rw [decided] at decision
      have missing : s.snapshot.find? c = none := Option.isNone_iff_eq_none.mp decision.symm
      have one_new : s.snapshot.unseen [c] = [c] := by simp [Snapshot.unseen, ← decision]
      rw [Snapshot.recordedPath_of_none missing] at treatment
      obtain ⟨-, steps⟩ := treatment.eq_ok
      rw [unguarded, passage_none] at steps
      rcases steps with ⟨-, guard, -⟩ | ⟨-, guard, -⟩ | ⟨sql, -, -, -, marked⟩
      · cases guard
      · cases guard
      · have still_missing := Selection.find?_writtenBack hc current
        rw [← current.agrees.find?, missing, Option.map_none] at still_missing
        have records_eq := Selection.writtenBack_eq hc current
        have counted' : Record.AreCounted (s.writtenBack w.store c).records := by
          rw [records_eq]
          exact counted.map (Snapshot.order_refreshed _ _)
        rw [records_of_markRan hc still_missing counted' (markRan_memory_ok marked), recordsLeft,
          records_eq, Record.highest_map (Snapshot.order_refreshed _ _), one_new]
        rfl

end Visit

theorem records_of_updateAll {steps : List (ChangeSet × Step)}
    (distinct : ChangeSet.AreDistinct s.snapshot.ignoreCase changeSets)
    (current : ∀ c ∈ changeSets, s.IsCurrent w.store c)
    (unguarded : ∀ c ∈ changeSets, c.guard = none)
    (unseen_only : s.snapshot.RunsUnseenOnly changeSets)
    (counted : Record.AreCounted w.store.records)
    (returned : (m.updateAll false s changeSets).run w = (.ok steps, w')) :
    w'.store.records = m.recordsLeft s.snapshot changeSets w.store.records := by
  induction changeSets generalizing s w steps with
  | nil =>
    cases returned
    exact recordsLeft_nil.symm
  | cons c rest ih =>
    obtain ⟨step, s₁, w₁, more, visited, row, rfl⟩ := run_updateAll_cons_eq_ok returned
    have turn := run_updateOne m s distinct.head w
    rw [visited] at turn
    have current' := turn.isCurrent distinct current
    have first := records_of_updateOne distinct.head (current c List.mem_cons_self)
      (unguarded c List.mem_cons_self) unseen_only.head counted visited
    cases turn.selection_eq
    have counted' : Record.AreCounted w₁.store.records := by
      rw [first]
      exact areCounted_recordsLeft counted
    have others := ih (by simpa using distinct.tail) current'
      (fun d hd => unguarded d (List.mem_cons_of_mem c hd))
        (by simpa using unseen_only.tail) counted' row
    rw [others, Selection.snapshot_noting, first]
    exact recordsLeft_recordsLeft distinct

end Migration

end SchemaMigration
