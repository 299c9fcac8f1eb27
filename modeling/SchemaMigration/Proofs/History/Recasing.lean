import SchemaMigration.Proofs.History.Records

namespace SchemaMigration

/-- One changeset under two paths that differ in letter case at most. -/
structure ChangeSet.IsRecased (c d : ChangeSet) : Prop where
  others : d = { c with path := d.path }
  path : Path.sameDeclared true c.path d.path = .ok true

structure Record.IsRecased (r r' : Record) : Prop where
  others : r' = { r with path := r'.path }
  path : Path.sameDeclared true r.path r'.path = .ok true

theorem Path.eq_text_of_sameDeclared {v w : Value} (h : sameDeclared true v w = .ok true) :
    ∃ p q, v = .text p ∧ w = .text q ∧ compared true p = compared true q := by
  cases v with
  | text p =>
    cases w with
    | text q =>
      rw [sameDeclared_text, Except.ok.injEq, same_eq_compared, beq_iff_eq] at h
      exact ⟨p, q, rfl, rfl, h⟩
    | _ => cases h
  | _ => cases h

theorem Identity.texts?_recased {id author path path' : Value}
    (h : Path.sameDeclared true path path' = .ok true) :
    texts? true ⟨id, author, path'⟩ = texts? true ⟨id, author, path⟩ := by
  obtain ⟨p, q, rfl, rfl, same⟩ := Path.eq_text_of_sameDeclared h
  cases id with
  | text a =>
    cases author with
    | text b => simp [texts?, same]
    | _ => rfl
  | _ => rfl

namespace ChangeSet.IsRecased

variable {c d : ChangeSet} (h : c.IsRecased d)

include h

theorem id_eq : d.id = c.id := by rw [h.others]

theorem author_eq : d.author = c.author := by rw [h.others]

theorem changes_eq : d.changes = c.changes := by rw [h.others]

theorem checksum_eq : d.checksum = c.checksum := congrArg checksumOf h.changes_eq

theorem texts?_eq : d.identity.texts? true = c.identity.texts? true := by
  unfold ChangeSet.identity
  rw [h.id_eq, h.author_eq]
  exact Identity.texts?_recased h.path

theorem isTextual (hc : c.identity.IsTextual) : d.identity.IsTextual :=
  hc.of_texts?_eq h.texts?_eq

theorem ofRun_eq (now : Timestamp) (order path path' : Value) :
    Record.ofRun d path' now order = { Record.ofRun c path now order with path := path' } := by
  rw [h.others]
  rfl

end ChangeSet.IsRecased

theorem ChangeSet.AreDistinct.recased {cs ds : List ChangeSet} (distinct : AreDistinct true cs)
    (h : List.Forall₂ IsRecased cs ds) : AreDistinct true ds := by
  have same : ds.map (fun d => d.identity.texts? true) = cs.map fun c =>
      c.identity.texts? true := by
    induction h with
    | nil => rfl
    | cons first _ ih => rw [List.map_cons, List.map_cons, first.texts?_eq, ih distinct.tail]
  refine ⟨fun d hd => ?_, same ▸ distinct.nodup⟩
  have known : d.identity.texts? true ∈ ds.map fun d => d.identity.texts? true :=
    List.mem_map.mpr ⟨d, hd, rfl⟩
  rw [same] at known
  obtain ⟨c, hc, texts⟩ := List.mem_map.mp known
  exact (distinct.textual c hc).of_texts?_eq texts.symm

theorem Record.IsRecased.texts?_eq {r r' : Record} (h : r.IsRecased r') :
    r'.identity.texts? true = r.identity.texts? true := by
  have id_eq : r'.id = r.id := by rw [h.others]
  have author_eq : r'.author = r.author := by rw [h.others]
  unfold Record.identity
  rw [id_eq, author_eq]
  exact Identity.texts?_recased h.path

theorem Record.IsRecased.rewritten {r r' : Record} {i i' : Identity} (h : r.IsRecased r')
    (same : r.identity = i ↔ r'.identity = i') (v : Value) :
    (r.rewritten i v).IsRecased (r'.rewritten i' v) := by
  unfold Record.rewritten
  by_cases found : r.identity = i
  · rw [if_pos found, if_pos (same.mp found)]
    exact ⟨by rw [h.others], h.path⟩
  · rw [if_neg found, if_neg fun found' => found (same.mpr found')]
    exact h

section Pairs

variable {α β : Type} {pairs : List (α × β)}

theorem find?_of_pairs {f : α → Bool} {g : β → Bool} (h : ∀ p ∈ pairs, f p.1 = g p.2) :
    (pairs.map Prod.fst).find? f = none ∧ (pairs.map Prod.snd).find? g = none ∨
      ∃ p ∈ pairs, (pairs.map Prod.fst).find? f = some p.1 ∧
        (pairs.map Prod.snd).find? g = some p.2 := by
  induction pairs with
  | nil => exact .inl ⟨rfl, rfl⟩
  | cons p rest ih =>
    have first := h p List.mem_cons_self
    rw [List.map_cons, List.map_cons, List.find?_cons, List.find?_cons, ← first]
    cases f p.1 with
    | true => exact .inr ⟨p, List.mem_cons_self, rfl, rfl⟩
    | false =>
      rcases ih fun q hq => h q (List.mem_cons_of_mem p hq) with none_found | ⟨q, hq, found⟩
      · exact .inl none_found
      · exact .inr ⟨q, List.mem_cons_of_mem p hq, found⟩

theorem any_takeWhile_of_pairs {f g : α → Bool} {f' g' : β → Bool}
    (h : ∀ p ∈ pairs, f p.1 = f' p.2 ∧ g p.1 = g' p.2) :
    ((pairs.map Prod.fst).takeWhile f).any g = ((pairs.map Prod.snd).takeWhile f').any g' := by
  induction pairs with
  | nil => rfl
  | cons p rest ih =>
    obtain ⟨same_f, same_g⟩ := h p List.mem_cons_self
    have later := ih fun q hq => h q (List.mem_cons_of_mem p hq)
    simp only [List.map_cons, List.takeWhile_cons, ← same_f]
    cases f p.1 with
    | true => simp [same_g, later]
    | false => rfl

end Pairs

namespace MemoryStore

variable {record r : Record} {front rest : List Record}

theorem same_eq_false (textual : record.identity.IsTextual) (apart : r.identity ≠ record.identity) :
    r.identity.same record.identity = false := by
  rw [Bool.eq_false_iff]
  exact fun same => apart (textual.same_iff.mp same)

theorem putRecord_append_of_mem (textual : record.identity.IsTextual)
    (known : ∃ s ∈ front, s.identity = record.identity) :
    putRecord record (front ++ rest) = putRecord record front ++ rest := by
  induction front with
  | nil => simp at known
  | cons s front ih =>
    by_cases place : s.identity = record.identity
    · have found : s.identity.same record.identity = true := textual.same_iff.mpr place
      rw [List.cons_append, putRecord, putRecord, if_pos found, if_pos found, List.cons_append]
    · have later := ih (by simpa [place] using known)
      simp [putRecord, same_eq_false textual place, later]

theorem identities_putRecord (textual : record.identity.IsTextual)
    (known : ∃ s ∈ front, s.identity = record.identity) :
    (putRecord record front).map Record.identity = front.map Record.identity := by
  induction front with
  | nil => simp at known
  | cons s front ih =>
    by_cases place : s.identity = record.identity
    · have found : s.identity.same record.identity = true := textual.same_iff.mpr place
      rw [putRecord, if_pos found, List.map_cons, List.map_cons, place]
    · have later := ih (by simpa [place] using known)
      simp [putRecord, same_eq_false textual place, later]

theorem putRecord_of_split (textual : record.identity.IsTextual)
    (place : r.identity = record.identity)
    (apart : ∀ s ∈ front, s.identity ≠ record.identity) :
    putRecord record (front ++ r :: rest) = front ++ record :: rest := by
  have found : r.identity.same record.identity = true := textual.same_iff.mpr place
  rw [Snapshot.putRecord_append fun s hs => same_eq_false textual (apart s hs),
    putRecord, if_pos found]

theorem putRecord_of_apart (textual : record.identity.IsTextual)
    (apart : ∀ s ∈ front, s.identity ≠ record.identity) :
    putRecord record front = front ++ [record] := by
  have appended : putRecord record (front ++ []) = front ++ putRecord record [] :=
    Snapshot.putRecord_append fun s hs => same_eq_false textual (apart s hs)
  rwa [List.append_nil] at appended

end MemoryStore

def Record.counterparts (kept : List Record) (new : List (Record × Record)) :
    List (Record × Record) :=
  kept.map (fun r => (r, r)) ++ new

theorem Record.map_fst_counterparts (kept : List Record) (new : List (Record × Record)) :
    (counterparts kept new).map Prod.fst = kept ++ new.map Prod.fst := by
  rw [counterparts, List.map_append, List.map_map]
  exact congrArg (· ++ new.map Prod.fst) (List.map_id kept)

theorem Record.map_snd_counterparts (kept : List Record) (new : List (Record × Record)) :
    (counterparts kept new).map Prod.snd = kept ++ new.map Prod.snd := by
  rw [counterparts, List.map_append, List.map_map]
  exact congrArg (· ++ new.map Prod.snd) (List.map_id kept)

theorem Record.mem_counterparts {kept : List Record} {new : List (Record × Record)}
    {r r' : Record} :
    (r, r') ∈ counterparts kept new ↔ r ∈ kept ∧ r' = r ∨ (r, r') ∈ new := by
  simp only [counterparts, List.mem_append, List.mem_map, Prod.mk.injEq]
  constructor
  · rintro (⟨s, hs, rfl, rfl⟩ | recent)
    · exact .inl ⟨hs, rfl⟩
    · exact .inr recent
  · rintro (⟨old, rfl⟩ | recent)
    · exact .inl ⟨r', old, rfl, rfl⟩
    · exact .inr recent

def Identity.Tally (kept : List Record) (new : List (Record × Record)) (i i' : Identity) : Prop :=
  ∀ p ∈ Record.counterparts kept new, p.1.identity = i ↔ p.2.identity = i'

theorem Identity.Tally.filter {kept : List Record} {new : List (Record × Record)} {i i' : Identity}
    {keep : Record → Bool} {keep' : Record × Record → Bool} (h : Tally kept new i i') :
    Tally (kept.filter keep) (new.filter keep') i i' := by
  rintro ⟨q, q'⟩ both
  apply h
  rcases Record.mem_counterparts.mp both with ⟨old, rfl⟩ | recent
  · exact Record.mem_counterparts.mpr (.inl ⟨List.mem_of_mem_filter old, rfl⟩)
  · exact Record.mem_counterparts.mpr (.inr (List.mem_of_mem_filter recent))

def MemoryStore.IsVacant (store : MemoryStore) (texts : Option (String × String × String)) : Prop :=
  ∀ r ∈ store.records, r.identity.texts? true ≠ texts

/-- Two stores that started with the same records. Those that are left of them, in their order, are
the same in both, and so are those that came since, but for letter case in their paths. The latter
are of identities that were vacant at some time, and no other record has one of these, in whatever
case. -/
structure MemoryStore.SideBySide (vacant : Option (String × String × String) → Prop)
    (start kept : List Record) (new : List (Record × Record))
    (store store' : MemoryStore) : Prop where
  left : store.records = kept ++ new.map Prod.fst
  right : store'.records = kept ++ new.map Prod.snd
  left_over : (kept.map Record.identity).Sublist (start.map Record.identity)
  since : ∀ p ∈ new, vacant (p.1.identity.texts? true)
  recased : ∀ p ∈ new, p.1.IsRecased p.2
  textual : ∀ p ∈ new, p.1.identity.IsTextual
  single : (new.map fun p => p.1.identity.texts? true).Nodup
  apart : ∀ p ∈ new, ∀ i ∈ kept.map Record.identity, i.texts? true ≠ p.1.identity.texts? true

namespace MemoryStore.IsVacant

variable {store store' : MemoryStore} {texts : Option (String × String × String)} {record : Record}

theorem of_subset (known : ∀ r ∈ store.records, ∃ r' ∈ store'.records, r'.identity = r.identity)
    (h : store'.IsVacant texts) : store.IsVacant texts := by
  intro r hr same
  obtain ⟨r', hr', same_identity⟩ := known r hr
  rw [← same_identity] at same
  exact h r' hr' same

theorem of_updateChecksum {i : Identity} {v : Value}
    (h : (store.updateChecksum i v).IsVacant texts) :
    store.IsVacant texts :=
  h.of_subset fun r hr => ⟨_, List.mem_map_of_mem hr, Snapshot.identity_updated i v r⟩

theorem of_putRecord (textual : record.identity.IsTextual)
    (h : IsVacant { store with records := putRecord record store.records } texts) :
    store.IsVacant texts := by
  apply h.of_subset
  intro r hr
  by_cases place : r.identity = record.identity
  · exact ⟨record, self_mem_putRecord, place.symm⟩
  · exact ⟨r, (mem_putRecord_iff textual place).mpr hr, rfl⟩

end MemoryStore.IsVacant

namespace MemoryStore.SideBySide

open Record (counterparts map_fst_counterparts map_snd_counterparts mem_counterparts)

variable {vacant : Option (String × String × String) → Prop} {start kept : List Record}
  {new : List (Record × Record)} {store store' : MemoryStore} {c d : ChangeSet} {r r' : Record}
  {i i' : Identity}

theorem refl (store : MemoryStore) :
    SideBySide vacant store.records store.records [] store store where
  left := (List.append_nil _).symm
  right := (List.append_nil _).symm
  left_over := List.Sublist.refl _
  since := nofun
  recased := nofun
  textual := nofun
  single := List.nodup_nil
  apart := nofun

section Counterparts

variable (h : SideBySide vacant start kept new store store')

include h

theorem left_eq : store.records = (counterparts kept new).map Prod.fst :=
  h.left.trans (map_fst_counterparts kept new).symm

theorem right_eq : store'.records = (counterparts kept new).map Prod.snd :=
  h.right.trans (map_snd_counterparts kept new).symm

theorem others_eq (both : (r, r') ∈ counterparts kept new) : r' = { r with path := r'.path } := by
  rcases mem_counterparts.mp both with ⟨-, rfl⟩ | recent
  · rfl
  · exact (h.recased _ recent).others

theorem texts?_eq (both : (r, r') ∈ counterparts kept new) :
    r'.identity.texts? true = r.identity.texts? true := by
  rcases mem_counterparts.mp both with ⟨-, rfl⟩ | recent
  · rfl
  · exact (h.recased _ recent).texts?_eq

theorem isNone_text? (both : (r, r') ∈ counterparts kept new) :
    r'.path.text?.isNone = r.path.text?.isNone := by
  rcases mem_counterparts.mp both with ⟨-, rfl⟩ | recent
  · rfl
  · obtain ⟨p, q, left_path, right_path, -⟩ :=
      Path.eq_text_of_sameDeclared (h.recased _ recent).path
    rw [left_path, right_path]
    rfl

theorem eq_of_texts? {q q' : Record}
    (recent : (r, r') ∈ new) (both : (q, q') ∈ counterparts kept new)
    (same : q.identity.texts? true = r.identity.texts? true) : q = r ∧ q' = r' := by
  rcases mem_counterparts.mp both with ⟨old, rfl⟩ | also_recent
  · exact absurd same (h.apart _ recent _ (List.mem_map_of_mem old))
  · exact Prod.mk.inj (List.inj_on_of_nodup_map h.single also_recent recent same)

theorem tally (both : (r, r') ∈ counterparts kept new) :
    Identity.Tally kept new r.identity r'.identity := by
  rintro ⟨q, q'⟩ other
  have same_texts : ∀ {s t : Record}, s.identity = t.identity →
      s.identity.texts? true = t.identity.texts? true := fun same => by rw [same]
  -- a kept record is its own counterpart, and what came since shares its texts with no other record
  rcases mem_counterparts.mp both with ⟨-, rfl⟩ | recent
  · rcases mem_counterparts.mp other with ⟨-, rfl⟩ | recent'
    · rfl
    · constructor
      · intro same
        obtain ⟨rfl, rfl⟩ := h.eq_of_texts? recent' both (same_texts same).symm
        rfl
      · intro same
        obtain ⟨rfl, rfl⟩ :=
          h.eq_of_texts? recent' both ((same_texts same).symm.trans (h.texts?_eq other))
        rfl
  · constructor
    · intro same
      obtain ⟨rfl, rfl⟩ := h.eq_of_texts? recent other (same_texts same)
      rfl
    · intro same
      have texts := (h.texts?_eq other).symm.trans ((same_texts same).trans (h.texts?_eq both))
      obtain ⟨rfl, rfl⟩ := h.eq_of_texts? recent other texts
      rfl

end Counterparts

section LookUps

variable (h : SideBySide vacant start kept new store store') (recased : c.IsRecased d)
  (hc : c.identity.IsTextual)

include h recased hc

theorem matches?_eq (both : (r, r') ∈ counterparts kept new) :
    Snapshot.matches? true c r = Snapshot.matches? true d r' := by
  rw [Bool.eq_iff_iff, Snapshot.matches?_iff hc, Snapshot.matches?_iff (recased.isTextual hc),
    h.texts?_eq both, recased.texts?_eq]

theorem find?_cases :
    (store.snapshot true).find? c = none ∧ (store'.snapshot true).find? d = none ∨
      ∃ r r', (r, r') ∈ counterparts kept new ∧ (store.snapshot true).find? c = some r ∧
        (store'.snapshot true).find? d = some r' := by
  unfold Snapshot.find? MemoryStore.snapshot
  rw [h.left_eq, h.right_eq]
  rcases find?_of_pairs fun p hp => h.matches?_eq recased hc hp with none_found | ⟨p, hp, found⟩
  · exact .inl none_found
  · exact .inr ⟨p.1, p.2, hp, found⟩

theorem isObstructed_eq :
    (store'.snapshot true).isObstructed d = (store.snapshot true).isObstructed c := by
  unfold Snapshot.isObstructed MemoryStore.snapshot
  rw [h.left_eq, h.right_eq]
  refine congrArg (true && ·) (any_takeWhile_of_pairs ?_).symm
  rintro ⟨r, r'⟩ hp
  have id_eq : r'.id = r.id := by rw [h.others_eq hp]
  have author_eq : r'.author = r.author := by rw [h.others_eq hp]
  have declared : d.path.text?.isNone = c.path.text?.isNone := by
    obtain ⟨p, q, c_path, d_path, -⟩ := Path.eq_text_of_sameDeclared recased.path
    rw [c_path, d_path]
    rfl
  refine ⟨congrArg Bool.not (h.matches?_eq recased hc hp), ?_⟩
  simp only [Snapshot.isNamesake, id_eq, author_eq, recased.id_eq, recased.author_eq,
    h.isNone_text? hp, declared]

omit hc in
theorem hasDrifted_eq (both : (r, r') ∈ counterparts kept new) :
    Snapshot.hasDrifted d r' = Snapshot.hasDrifted c r := by
  unfold Snapshot.hasDrifted
  rw [h.others_eq both, recased.checksum_eq]

theorem mustRun_eq : (store'.snapshot true).mustRun d = (store.snapshot true).mustRun c := by
  have always : d.runAlways = c.runAlways := by rw [recased.others]
  have on_change : d.runOnChange = c.runOnChange := by rw [recased.others]
  unfold Snapshot.mustRun
  rcases h.find?_cases recased hc with ⟨left, right⟩ | ⟨r, r', both, left, right⟩
  · rw [left, right]
  · simp only [left, right, always, on_change, h.hasDrifted_eq recased both]

end LookUps

theorem congr {store₁ store₁' : MemoryStore} {kept₁ : List Record} {new₁ : List (Record × Record)}
    (h : SideBySide vacant start kept new store store')
    (left : store₁.records = kept₁ ++ new₁.map Prod.fst)
    (right : store₁'.records = kept₁ ++ new₁.map Prod.snd)
    (identities : kept₁.map Record.identity = kept.map Record.identity)
    (texts : new₁.map (fun p => p.1.identity.texts? true) = new.map fun p =>
      p.1.identity.texts? true)
    (recased : ∀ p ∈ new₁, p.1.IsRecased p.2) :
    SideBySide vacant start kept₁ new₁ store₁ store₁' := by
  have replaced : ∀ p ∈ new₁, ∃ q ∈ new, q.1.identity.texts? true = p.1.identity.texts? true := by
    intro p hp
    have known : p.1.identity.texts? true ∈ new₁.map fun p => p.1.identity.texts? true :=
      List.mem_map.mpr ⟨p, hp, rfl⟩
    rw [texts] at known
    exact List.mem_map.mp known
  -- every condition on what came since is one on its texts
  refine ⟨left, right, identities ▸ h.left_over, fun p hp => ?_, recased, fun p hp => ?_,
    texts ▸ h.single, fun p hp i hi => ?_⟩
  · obtain ⟨q, hq, same⟩ := replaced p hp
    rw [← same]
    exact h.since q hq
  · obtain ⟨q, hq, same⟩ := replaced p hp
    exact (h.textual q hq).of_texts?_eq same.symm
  · obtain ⟨q, hq, same⟩ := replaced p hp
    rw [← same]
    exact h.apart q hq i (identities ▸ hi)

theorem updateChecksum (h : SideBySide vacant start kept new store store')
    (tally : Identity.Tally kept new i i') (textual : i.IsTextual)
    (textual' : i'.IsTextual) (v : Value) :
    SideBySide vacant start (kept.map (Record.rewritten i v))
      (new.map fun p => (p.1.rewritten i v, p.2.rewritten i' v))
      (store.updateChecksum i v) (store'.updateChecksum i' v) := by
  have rewritten : ∀ (j : Identity), j.IsTextual → ∀ s : MemoryStore,
      (s.updateChecksum j v).records = s.records.map (Record.rewritten j v) := by
    intro j hj s
    exact List.map_congr_left fun r _ => if_congr hj.same_iff rfl rfl
  apply h.congr
  · rw [rewritten i textual, h.left]
    simp
  · rw [rewritten i' textual', h.right]
    have kept_same : kept.map (Record.rewritten i' v) = kept.map (Record.rewritten i v) := by
      refine List.map_congr_left fun r hr => ?_
      exact if_congr (tally (r, r) (mem_counterparts.mpr (.inl ⟨hr, rfl⟩))).symm rfl rfl
    simp [kept_same]
  · simp [Function.comp_def, Record.identity_rewritten]
  · simp [Function.comp_def, Record.identity_rewritten]
  · intro p hp
    obtain ⟨q, hq, rfl⟩ := List.mem_map.mp hp
    exact (h.recased q hq).rewritten (tally q (mem_counterparts.mpr (.inr hq))) v

theorem remove {path path' : Value} (h : SideBySide vacant start kept new store store')
    (tally : Identity.Tally kept new (c.recordedAs path) (d.recordedAs path'))
    (textual : (c.recordedAs path).IsTextual) (textual' : (d.recordedAs path').IsTextual) :
    SideBySide vacant start (kept.filter fun r => r.identity ≠ c.recordedAs path)
      (new.filter fun p => p.1.identity ≠ c.recordedAs path) (store.remove c path)
      (store'.remove d path') := by
  have removed : ∀ (e : ChangeSet) (p : Value), (e.recordedAs p).IsTextual → ∀ s : MemoryStore,
      (s.remove e p).records = s.records.filter fun r => r.identity ≠ e.recordedAs p := by
    intro e p he s
    refine List.filter_congr fun r _ => ?_
    rw [Bool.eq_iff_iff]
    simp [← he.same_iff]
  have fewer :=
    List.filter_sublist (p := fun p => decide (p.1.identity ≠ c.recordedAs path)) (l := new)
  refine ⟨?_, ?_, ?_, fun p hp => h.since p (fewer.mem hp), fun p hp => h.recased p (fewer.mem hp),
    fun p hp => h.textual p (fewer.mem hp), (fewer.map _).nodup h.single,
    fun p hp i hi => h.apart p (fewer.mem hp) i ?_⟩
  · rw [removed c path textual, h.left, List.filter_append, List.filter_map]
    rfl
  · rw [removed d path' textual', h.right, List.filter_append, List.filter_map]
    have told : ∀ p ∈ counterparts kept new, decide (p.2.identity ≠ d.recordedAs path') =
        decide (p.1.identity ≠ c.recordedAs path) :=
      fun p hp => decide_eq_decide.mpr (not_congr (tally p hp).symm)
    congr 1
    · exact List.filter_congr fun r hr => told (r, r) (mem_counterparts.mpr (.inl ⟨hr, rfl⟩))
    · exact congrArg (List.map Prod.snd)
        (List.filter_congr fun p hp => told p (mem_counterparts.mpr (.inr hp)))
  · exact (List.filter_sublist.map _).trans h.left_over
  · exact (List.filter_sublist.map _).mem hi

theorem nextOrder?_eq (h : SideBySide vacant start kept new store store') :
    Record.nextOrder? store'.records = Record.nextOrder? store.records := by
  have orders : store'.records.map Record.order = store.records.map Record.order := by
    rw [h.left_eq, h.right_eq, List.map_map, List.map_map]
    refine List.map_congr_left fun p hp => ?_
    have others := h.others_eq hp
    simp only [Function.comp_apply]
    rw [others]
  unfold Record.nextOrder?
  rw [orders]

section Put

variable {record record' : Record} (h : SideBySide vacant start kept new store store')
  (textual : record.identity.IsTextual)

include h textual

theorem put_kept (old : r ∈ kept) (place : r.identity = record.identity) :
    SideBySide vacant start (putRecord record kept) new
      { store with records := putRecord record store.records }
      { store' with records := putRecord record store'.records } := by
  have known : ∃ s ∈ kept, s.identity = record.identity := ⟨r, old, place⟩
  refine h.congr ?_ ?_ (identities_putRecord textual known) rfl h.recased
  · rw [← putRecord_append_of_mem textual known, ← h.left]
  · rw [← putRecord_append_of_mem textual known, ← h.right]

variable (recased : record.IsRecased record')

include recased

omit textual in
theorem apart_of_texts? {pairs : List (Record × Record)}
    (known : ∀ p ∈ pairs, p ∈ counterparts kept new)
    (foreign : ∀ p ∈ pairs, p.1.identity.texts? true ≠ record.identity.texts? true) :
    (∀ s ∈ pairs.map Prod.fst, s.identity ≠ record.identity) ∧
      ∀ s ∈ pairs.map Prod.snd, s.identity ≠ record'.identity := by
  constructor
  · intro s hs same
    obtain ⟨p, hp, rfl⟩ := List.mem_map.mp hs
    exact foreign p hp (congrArg (Identity.texts? true) same)
  · intro s hs same
    obtain ⟨p, hp, rfl⟩ := List.mem_map.mp hs
    apply foreign p hp
    rw [← h.texts?_eq (known p hp), same, recased.texts?_eq]

theorem put_new (recent : (r, r') ∈ new) (place : r.identity = record.identity)
    (place' : r'.identity = record'.identity) :
    ∃ new₁, SideBySide vacant start kept new₁
      { store with records := putRecord record store.records }
      { store' with records := putRecord record' store'.records } := by
  -- on neither side is there a record with the identity before the one that came since
  obtain ⟨front, rest, rfl⟩ := List.append_of_mem recent
  have single := h.single
  rw [List.map_append, List.map_cons, List.nodup_append] at single
  have known : ∀ p ∈ counterparts kept front, p ∈ counterparts kept (front ++ (r, r') :: rest) := by
    rintro ⟨q, q'⟩ hp
    rcases mem_counterparts.mp hp with old | before
    · exact mem_counterparts.mpr (.inl old)
    · exact mem_counterparts.mpr (.inr (List.mem_append_left _ before))
  have foreign : ∀ p ∈ counterparts kept front,
      p.1.identity.texts? true ≠ record.identity.texts? true := by
    rintro ⟨q, q'⟩ hp
    rw [← place]
    rcases mem_counterparts.mp hp with ⟨old, -⟩ | before
    · exact h.apart _ recent _ (List.mem_map_of_mem old)
    · exact single.2.2 _ (List.mem_map.mpr ⟨_, before, rfl⟩) _ List.mem_cons_self
  obtain ⟨apart, apart'⟩ := h.apart_of_texts? recased known foreign
  refine ⟨front ++ (record, record') :: rest, h.congr ?_ ?_ rfl ?_ ?_⟩
  · have left : store.records = (counterparts kept front).map Prod.fst ++ r ::
        rest.map Prod.fst := by
      rw [h.left, map_fst_counterparts]
      simp
    dsimp only
    rw [left, putRecord_of_split textual place apart, map_fst_counterparts]
    simp
  · have right : store'.records = (counterparts kept front).map Prod.snd ++ r' ::
        rest.map Prod.snd := by
      rw [h.right, map_snd_counterparts]
      simp
    dsimp only
    rw [right, putRecord_of_split (textual.of_texts?_eq recased.texts?_eq) place' apart',
      map_snd_counterparts]
    simp
  · simp [place]
  · intro p hp
    rcases List.mem_append.mp hp with before | at_or_after
    · exact h.recased p (List.mem_append_left _ before)
    · rcases List.mem_cons.mp at_or_after with rfl | after
      · exact recased
      · exact h.recased p (List.mem_append_right _ (List.mem_cons_of_mem _ after))

theorem put_last (free : vacant (record.identity.texts? true))
    (foreign : ∀ p ∈ counterparts kept new,
      p.1.identity.texts? true ≠ record.identity.texts? true) :
    SideBySide vacant start kept (new ++ [(record, record')])
      { store with records := putRecord record store.records }
      { store' with records := putRecord record' store'.records } := by
  obtain ⟨apart, apart'⟩ := h.apart_of_texts? recased (fun p hp => hp) foreign
  rw [← h.left_eq] at apart
  rw [← h.right_eq] at apart'
  have cases_new : ∀ p ∈ new ++ [(record, record')], p ∈ new ∨ p = (record, record') := by simp
  refine ⟨?_, ?_, h.left_over, fun p hp => ?_, fun p hp => ?_, fun p hp => ?_, ?_, fun p hp => ?_⟩
  · dsimp only
    rw [putRecord_of_apart textual apart, h.left]
    simp
  · dsimp only
    rw [putRecord_of_apart (textual.of_texts?_eq recased.texts?_eq) apart', h.right]
    simp
  · rcases cases_new p hp with old | rfl
    · exact h.since p old
    · exact free
  · rcases cases_new p hp with old | rfl
    · exact h.recased p old
    · exact recased
  · rcases cases_new p hp with old | rfl
    · exact h.textual p old
    · exact textual
  · rw [List.map_append, List.map_singleton, List.nodup_append]
    refine ⟨h.single, List.nodup_singleton _, ?_⟩
    intro t ht t' ht' same
    obtain ⟨p, hp, rfl⟩ := List.mem_map.mp ht
    rw [List.mem_singleton.mp ht'] at same
    exact foreign p (mem_counterparts.mpr (.inr hp)) same
  · rcases cases_new p hp with old | rfl
    · exact h.apart p old
    · intro i hi
      obtain ⟨s, hs, rfl⟩ := List.mem_map.mp hi
      exact foreign (s, s) (mem_counterparts.mpr (.inl ⟨hs, rfl⟩))

end Put

section MarkRan

variable (h : SideBySide vacant start kept new store store')
  (vacancies : ∀ texts, store.IsVacant texts → vacant texts) (recased : c.IsRecased d)
  (hc : c.identity.IsTextual) (now : Timestamp)

include h vacancies recased hc

theorem put_ofRun (order : Value) : ∃ kept₁ new₁, SideBySide vacant start kept₁ new₁
    { store with
      records := putRecord (Record.ofRun c
        (c.recordedAs ((store.snapshot true).recordedPath c)).path now order) store.records }
    { store' with
      records := putRecord (Record.ofRun d
        (d.recordedAs ((store'.snapshot true).recordedPath d)).path now order)
        store'.records } := by
  have hd := recased.isTextual hc
  have textual := Snapshot.isTextual_recordedAs (s := store.snapshot true) hc
  have i_eq := Snapshot.recordedAs_recordedPath (s := store.snapshot true) hc
  have i'_eq := Snapshot.recordedAs_recordedPath (s := store'.snapshot true) hd
  have others := recased.ofRun_eq now order
  have identity_eq (e : ChangeSet) (path : Value) :
      (Record.ofRun e (e.recordedAs path).path now order).identity = e.recordedAs path :=
    Snapshot.identity_ofRun
  rw [← identity_eq] at i_eq i'_eq textual
  generalize (c.recordedAs ((store.snapshot true).recordedPath c)).path = path at i_eq textual ⊢
  generalize (d.recordedAs ((store'.snapshot true).recordedPath d)).path = path' at i'_eq ⊢
  rcases h.find?_cases recased hc with ⟨left, right⟩ | ⟨r, r', both, left, right⟩
  · rw [left] at i_eq
    rw [right] at i'_eq
    obtain rfl : path = c.path := congrArg Identity.path i_eq
    obtain rfl : path' = d.path := congrArg Identity.path i'_eq
    -- no record was found, so that the identity is vacant now
    have foreign : store.IsVacant (c.identity.texts? true) := by
      intro r hr same
      exact List.find?_eq_none.mp left r hr ((Snapshot.matches?_iff hc r).mpr same)
    refine ⟨_, _, h.put_last textual ⟨others _ _, recased.path⟩ (vacancies _ foreign) fun p hp =>
      ?_⟩
    exact foreign p.1 (h.left_eq ▸ List.mem_map_of_mem hp)
  · rw [left] at i_eq
    rw [right] at i'_eq
    obtain rfl : path = r.path := congrArg Identity.path i_eq
    obtain rfl : path' = r'.path := congrArg Identity.path i'_eq
    rcases mem_counterparts.mp both with ⟨old, rfl⟩ | recent
    · -- both sides carry the path that was recorded before either of them started
      have same : Record.ofRun d r'.path now order = Record.ofRun c r'.path now order :=
        others r'.path r'.path
      rw [same]
      exact ⟨_, _, h.put_kept textual old i_eq.symm⟩
    · exact ⟨_, h.put_new textual ⟨others _ _, (h.recased _ recent).path⟩ recent
        i_eq.symm i'_eq.symm⟩

theorem markRan :
    (∃ e, store.markRan now c ((store.snapshot true).recordedPath c) = .error e ∧
        store'.markRan now d ((store'.snapshot true).recordedPath d) = .error e) ∨
      ∃ store₁ store₁' kept₁ new₁,
        store.markRan now c ((store.snapshot true).recordedPath c) = .ok store₁ ∧
        store'.markRan now d ((store'.snapshot true).recordedPath d) = .ok store₁' ∧
        SideBySide vacant start kept₁ new₁ store₁ store₁' ∧
        ∀ texts, store₁.IsVacant texts → vacant texts := by
  unfold MemoryStore.markRan
  rw [h.nextOrder?_eq]
  cases Record.nextOrder? store.records with
  | none => exact .inl ⟨_, rfl, rfl⟩
  | some order =>
    obtain ⟨kept₁, new₁, put⟩ := h.put_ofRun vacancies recased hc now order
    refine .inr ⟨_, _, kept₁, new₁, rfl, rfl, put, fun texts free =>
      vacancies texts (free.of_putRecord ?_)⟩
    rw [Snapshot.identity_ofRun]
    exact Snapshot.isTextual_recordedAs (s := store.snapshot true) hc

end MarkRan

end MemoryStore.SideBySide

end SchemaMigration
