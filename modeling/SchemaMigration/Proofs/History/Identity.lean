import Mathlib.Data.List.Nodup
import SchemaMigration.Selection

namespace SchemaMigration

namespace Value

@[simp] theorem same_text_right (v : Value) (s : String) : v.same (.text s) = (v == .text s) := by
  rw [Bool.eq_iff_iff, beq_iff_eq]
  cases v with
  | text t => rw [same_text, beq_iff_eq, text.injEq]
  | null => simp [same, orderOfNumbers?, number?]
  | bool b => simp [same, orderOfNumbers?, number?]
  | int n => simp [same, orderOfNumbers?, number?]
  | float x => simp [same, orderOfNumbers?, number?]
  | list items => simp [same, orderOfNumbers?, number?]
  | object fields => simp [same, orderOfNumbers?, number?]

end Value

namespace Path

/-- The form in which a path is compared: folded if letter case does not count. -/
def compared (ignoreCase : Bool) (p : String) : String := if ignoreCase then Text.fold p else p

theorem same_eq_compared (ignoreCase : Bool) (p q : String) :
    same ignoreCase p q = (compared ignoreCase p == compared ignoreCase q) := by
  cases ignoreCase <;> rfl

@[simp] theorem compared_eq_empty_iff (ignoreCase : Bool) (p : String) :
    compared ignoreCase p = "" ↔ p = "" := by
  cases ignoreCase <;> simp [compared]

end Path

namespace Identity

/-- The three texts of an identity, the path as it is compared. There are none if a part is no
text. -/
def texts? (ignoreCase : Bool) (i : Identity) : Option (String × String × String) :=
  match i.id, i.author, i.path with
  | .text a, .text b, .text p => some (a, b, Path.compared ignoreCase p)
  | _, _, _ => none

theorem texts?_eq_some_iff {ignoreCase : Bool} {i : Identity} {t : String × String × String} :
    i.texts? ignoreCase = some t ↔
      ∃ a b p, i = ⟨.text a, .text b, .text p⟩ ∧ (a, b, Path.compared ignoreCase p) = t := by
  constructor
  · intro h
    unfold texts? at h
    split at h
    next a b p id_eq author_eq path_eq =>
      obtain ⟨id, author, path⟩ := i
      cases id_eq
      cases author_eq
      cases path_eq
      exact ⟨a, b, p, rfl, Option.some.inj h⟩
    next => cases h
  · rintro ⟨a, b, p, rfl, rfl⟩
    rfl

/-- Whether all parts of an identity are texts, as they are declared to be. -/
def IsTextual (i : Identity) : Prop := ∃ a b p, i = ⟨.text a, .text b, .text p⟩

theorem IsTextual.isKey {i : Identity} (h : i.IsTextual) : i.isKey = true := by
  obtain ⟨a, b, p, rfl⟩ := h
  rfl

theorem IsTextual.same_iff {i j : Identity} (h : j.IsTextual) : i.same j = true ↔ i = j := by
  obtain ⟨a, b, p, rfl⟩ := h
  obtain ⟨id, author, path⟩ := i
  simp [same, and_assoc]

theorem IsTextual.of_texts?_eq {ignoreCase : Bool} {i j : Identity} (h : i.IsTextual)
    (same : j.texts? ignoreCase = i.texts? ignoreCase) : j.IsTextual := by
  obtain ⟨a, b, p, rfl⟩ := h
  obtain ⟨a', b', p', rfl, -⟩ := texts?_eq_some_iff.mp same
  exact ⟨a', b', p', rfl⟩

end Identity

namespace ChangeSet

/-- Changesets as they are declared: identified by texts, no two of them by the same ones. -/
structure AreDistinct (ignoreCase : Bool) (changeSets : List ChangeSet) : Prop where
  textual : ∀ c ∈ changeSets, c.identity.IsTextual
  nodup : (changeSets.map fun c => c.identity.texts? ignoreCase).Nodup

theorem areDistinct_singleton {ignoreCase : Bool} {c : ChangeSet} (h : c.identity.IsTextual) :
    AreDistinct ignoreCase [c] where
  textual d hd := by
    rw [List.mem_singleton.mp hd]
    exact h
  nodup := List.nodup_singleton _

theorem AreDistinct.head {ignoreCase : Bool} {c : ChangeSet} {rest : List ChangeSet}
    (h : AreDistinct ignoreCase (c :: rest)) : c.identity.IsTextual :=
  h.textual c List.mem_cons_self

theorem AreDistinct.tail {ignoreCase : Bool} {c : ChangeSet} {rest : List ChangeSet}
    (h : AreDistinct ignoreCase (c :: rest)) : AreDistinct ignoreCase rest where
  textual d hd := h.textual d (List.mem_cons_of_mem c hd)
  nodup := by
    have := h.nodup
    rw [List.map_cons] at this
    exact this.of_cons

theorem AreDistinct.head_ne {ignoreCase : Bool} {c : ChangeSet} {rest : List ChangeSet}
    (h : AreDistinct ignoreCase (c :: rest)) {d : ChangeSet} (hd : d ∈ rest) :
    c.identity.texts? ignoreCase ≠ d.identity.texts? ignoreCase := by
  have := h.nodup
  rw [List.map_cons, List.nodup_cons] at this
  intro same
  exact this.1 (List.mem_map.mpr ⟨d, hd, same.symm⟩)

theorem AreDistinct.texts?_ne {ignoreCase : Bool} {changeSets : List ChangeSet}
    (h : AreDistinct ignoreCase changeSets) {c d : ChangeSet} (hc : c ∈ changeSets)
    (hd : d ∈ changeSets) (ne : c ≠ d) :
    c.identity.texts? ignoreCase ≠ d.identity.texts? ignoreCase := by
  intro same
  exact ne (List.inj_on_of_nodup_map h.nodup hc hd same)

end ChangeSet

namespace Snapshot

theorem matches?_iff {ignoreCase : Bool} {c : ChangeSet} (hc : c.identity.IsTextual) (r : Record) :
    matches? ignoreCase c r = true ↔
      r.identity.texts? ignoreCase = c.identity.texts? ignoreCase := by
  obtain ⟨a, b, p, eq⟩ := hc
  obtain ⟨id_eq, author_eq, path_eq⟩ : c.id = .text a ∧ c.author = .text b ∧ c.path = .text p := by
    simpa [ChangeSet.identity] using eq
  have texts : c.identity.texts? ignoreCase = some (a, b, Path.compared ignoreCase p) := by
    rw [eq]
    rfl
  rw [texts, Identity.texts?_eq_some_iff]
  obtain ⟨id, author, path, checksum, date, order, description⟩ := r
  simp only [matches?, isNamesake, samePath, id_eq, author_eq, path_eq, Value.same_text_right,
    Record.identity, Bool.and_eq_true, beq_iff_eq]
  cases path with
  | text q => simp [Path.same_eq_compared]
  | _ => cases ignoreCase <;> simp [Path.sameDeclared, Value.written, bind, Except.bind]

theorem isTextual_of_matches? {ignoreCase : Bool} {c : ChangeSet} (hc : c.identity.IsTextual)
    {r : Record} (h : matches? ignoreCase c r = true) : r.identity.IsTextual :=
  hc.of_texts?_eq ((matches?_iff hc r).mp h)

theorem matches?_of_identity {ignoreCase : Bool} {c : ChangeSet} (hc : c.identity.IsTextual)
    {r : Record} (h : r.identity = c.identity) : matches? ignoreCase c r = true := by
  rw [matches?_iff hc, h]

theorem matches?_congr {ignoreCase : Bool} {c : ChangeSet} {r s : Record}
    (h : r.identity = s.identity) : matches? ignoreCase c r = matches? ignoreCase c s := by
  obtain ⟨id_eq, author_eq, path_eq⟩ : r.id = s.id ∧ r.author = s.author ∧ r.path = s.path := by
    simpa [Record.identity] using h
  simp [matches?, isNamesake, samePath, id_eq, author_eq, path_eq]

theorem not_matches?_of_ne {ignoreCase : Bool} {c d : ChangeSet} (hc : c.identity.IsTextual)
    (hd : d.identity.IsTextual)
    (ne : c.identity.texts? ignoreCase ≠ d.identity.texts? ignoreCase) {r : Record}
    (h : matches? ignoreCase c r = true) : matches? ignoreCase d r = false := by
  rw [Bool.eq_false_iff]
  intro also
  exact ne (((matches?_iff hc r).mp h).symm.trans ((matches?_iff hd r).mp also))

end Snapshot

end SchemaMigration
