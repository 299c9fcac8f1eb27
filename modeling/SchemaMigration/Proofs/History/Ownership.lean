import SchemaMigration.Proofs.History.Identity

namespace SchemaMigration

theorem find?_eq_some_of_unique {α : Type} {p : α → Bool} {a : α} {xs : List α} (ha : a ∈ xs)
    (found : p a = true) (unique : ∀ b ∈ xs, p b = true → b = a) : xs.find? p = some a := by
  obtain ⟨b, found_b⟩ := Option.isSome_iff_exists.mp (List.find?_isSome.mpr ⟨a, ha, found⟩)
  rw [found_b, unique b (List.mem_of_find?_eq_some found_b) (List.find?_some found_b)]

namespace Snapshot

variable {ignoreCase : Bool} {c d : ChangeSet} {records : List Record}

structure AgreeOn (c : ChangeSet) (s t : Snapshot) : Prop where
  find? : s.find? c = t.find? c
  isObstructed : s.isObstructed c = t.isObstructed c

theorem AgreeOn.refl (c : ChangeSet) (s : Snapshot) : AgreeOn c s s := ⟨rfl, rfl⟩

theorem AgreeOn.symm {s t : Snapshot} (h : AgreeOn c s t) : AgreeOn c t s :=
  ⟨h.find?.symm, h.isObstructed.symm⟩

theorem AgreeOn.trans {s t u : Snapshot} (h : AgreeOn c s t) (k : AgreeOn c t u) : AgreeOn c s u :=
  ⟨h.find?.trans k.find?, h.isObstructed.trans k.isObstructed⟩

theorem AgreeOn.mustRun {s t : Snapshot} (h : AgreeOn c s t) : s.mustRun c = t.mustRun c := by
  unfold Snapshot.mustRun
  rw [h.find?]

/-- The records that are not those of a changeset, in order. -/
def others (ignoreCase : Bool) (c : ChangeSet) (records : List Record) : List Record :=
  records.filter fun r => !matches? ignoreCase c r

theorem find?_others (h : ∀ r, matches? ignoreCase c r = true → matches? ignoreCase d r = false) :
    (others ignoreCase c records).find? (matches? ignoreCase d) =
      records.find? (matches? ignoreCase d) := by
  unfold others
  rw [List.find?_filter]
  congr 1
  funext r
  cases own : matches? ignoreCase c r with
  | false => simp
  | true => simp [h r own]

theorem any_takeWhile_filter {α : Type} (keep isMatch obstructs : α → Bool) (xs : List α)
    (h : ∀ x, keep x = false → isMatch x = false ∧ obstructs x = false) :
    ((xs.filter keep).takeWhile fun x => !isMatch x).any obstructs =
      (xs.takeWhile fun x => !isMatch x).any obstructs := by
  induction xs with
  | nil => rfl
  | cons x rest ih =>
    cases kept : keep x with
    | false =>
      obtain ⟨no_match, no_obstacle⟩ := h x kept
      simp [kept, no_match, no_obstacle, ih]
    | true =>
      cases found : isMatch x with
      | false => simp [kept, found, ih]
      | true => simp [kept, found]

theorem isObstructed_others (hc : c.identity.IsTextual) (hd : d.identity.IsTextual)
    (h : ∀ r, matches? ignoreCase c r = true → matches? ignoreCase d r = false) :
    isObstructed ⟨others ignoreCase c records, ignoreCase⟩ d =
      isObstructed ⟨records, ignoreCase⟩ d := by
  unfold isObstructed others
  dsimp only
  rw [any_takeWhile_filter]
  intro r left_out
  have own : matches? ignoreCase c r = true := by simpa using left_out
  obtain ⟨a, b, p, record_eq⟩ := isTextual_of_matches? hc own
  obtain ⟨a', b', p', declared_eq⟩ := hd
  have record_path : r.path = .text p := congrArg Identity.path record_eq
  have declared_path : d.path = .text p' := congrArg Identity.path declared_eq
  refine ⟨h r own, ?_⟩
  simp [record_path, declared_path, Value.text?]

theorem agreeOn_of_others {records' : List Record} (hc : c.identity.IsTextual)
    (hd : d.identity.IsTextual)
    (ne : c.identity.texts? ignoreCase ≠ d.identity.texts? ignoreCase)
    (h : others ignoreCase c records = others ignoreCase c records') :
    AgreeOn d ⟨records, ignoreCase⟩ ⟨records', ignoreCase⟩ := by
  have apart : ∀ r, matches? ignoreCase c r = true → matches? ignoreCase d r = false :=
    fun r own => not_matches?_of_ne hc hd ne own
  constructor
  · unfold Snapshot.find?
    rw [← find?_others apart, h, find?_others apart]
  · rw [← isObstructed_others hc hd apart, h, isObstructed_others hc hd apart]

def recordedPath (s : Snapshot) (c : ChangeSet) : Value := ((s.find? c).map Record.path).getD .null

theorem matches?_of_find? {s : Snapshot} {r : Record} (h : s.find? c = some r) :
    matches? s.ignoreCase c r = true := List.find?_some h

theorem isTextual_of_find? {s : Snapshot} (hc : c.identity.IsTextual) {r : Record}
    (h : s.find? c = some r) : r.identity.IsTextual :=
  isTextual_of_matches? hc (matches?_of_find? h)

theorem recordedPath_of_none {s : Snapshot} (h : s.find? c = none) : s.recordedPath c = .null := by
  simp [recordedPath, h]

theorem recordedPath_of_some {s : Snapshot} {r : Record} (h : s.find? c = some r) :
    s.recordedPath c = r.path := by
  simp [recordedPath, h]

theorem recordedAs_path {r : Record} (hc : c.identity.IsTextual)
    (own : matches? ignoreCase c r = true) : c.recordedAs r.path = r.identity := by
  obtain ⟨a, b, p, declared⟩ := hc
  have texts := (matches?_iff ⟨a, b, p, declared⟩ r).mp own
  rw [declared] at texts
  obtain ⟨a', b', q, recorded, same⟩ := Identity.texts?_eq_some_iff.mp texts
  obtain ⟨rfl, rfl, compared⟩ : a' = a ∧ b' = b ∧
      Path.compared ignoreCase q = Path.compared ignoreCase p := by
    simpa using same
  have c_id : c.id = .text a' := congrArg Identity.id declared
  have c_author : c.author = .text b' := congrArg Identity.author declared
  have r_path : r.path = .text q := congrArg Identity.path recorded
  unfold ChangeSet.recordedAs
  split
  next => rw [recorded, c_id, c_author, r_path]
  next empty =>
    have q_empty : q = "" := by simpa [r_path, Value.isTrue] using empty
    have p_empty : p = "" := by
      rw [← Path.compared_eq_empty_iff ignoreCase, ← compared, q_empty,
        Path.compared_eq_empty_iff]
    rw [declared, recorded, q_empty, p_empty]

theorem recordedAs_recordedPath {s : Snapshot} (hc : c.identity.IsTextual) :
    c.recordedAs (s.recordedPath c) = ((s.find? c).map Record.identity).getD c.identity := by
  cases found : s.find? c with
  | none =>
    rw [recordedPath_of_none found]
    rfl
  | some r =>
    rw [recordedPath_of_some found, recordedAs_path hc (matches?_of_find? found)]
    rfl

theorem texts?_recordedAs {s : Snapshot} (hc : c.identity.IsTextual) :
    (c.recordedAs (s.recordedPath c)).texts? s.ignoreCase = c.identity.texts? s.ignoreCase := by
  rw [recordedAs_recordedPath hc]
  cases found : s.find? c with
  | none => rfl
  | some r => exact (matches?_iff hc r).mp (matches?_of_find? found)

theorem isTextual_recordedAs {s : Snapshot} (hc : c.identity.IsTextual) :
    (c.recordedAs (s.recordedPath c)).IsTextual :=
  hc.of_texts?_eq (texts?_recordedAs hc)

end Snapshot

end SchemaMigration
