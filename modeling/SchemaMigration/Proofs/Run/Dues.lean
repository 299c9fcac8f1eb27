import Mathlib.Data.List.Induction
import Mathlib.Data.List.Nodup
import SchemaMigration.Proofs.History.Records
import SchemaMigration.Proofs.Run.Renewal

namespace SchemaMigration

namespace Snapshot

variable {s : Snapshot} {c d : ChangeSet} {front rest : List ChangeSet} {w : Identity × String}

def due? (s : Snapshot) (c : ChangeSet) : Option (Identity × String) :=
  (s.drifted? c).map fun i => (i, c.checksum)

def dues (s : Snapshot) (changeSets : List ChangeSet) : List (Identity × String) :=
  (changeSets.filterMap s.due?).eraseDups

def GovernsAlike (s : Snapshot) (changeSets : List ChangeSet) : Prop :=
  ∀ c ∈ changeSets, ∀ d ∈ changeSets, ∀ r, s.find? c = some r → s.find? d = some r →
    c.checksum = d.checksum

theorem due?_eq_some : s.due? c = some w ↔ s.drifted? c = some w.1 ∧ c.checksum = w.2 := by
  obtain ⟨i, t⟩ := w
  simp [due?]

theorem mem_dues {changeSets : List ChangeSet} :
    w ∈ s.dues changeSets ↔ ∃ c ∈ changeSets, s.due? c = some w := by
  rw [dues, List.mem_eraseDups, List.mem_filterMap]

theorem GovernsAlike.mono {some all : List ChangeSet} (h : s.GovernsAlike all) (part : some ⊆ all) :
    s.GovernsAlike some :=
  fun c hc d hd => h c (part hc) d (part hd)

theorem find?_of_drifted? {r : Record} (hc : c.identity.IsTextual) (hd : d.identity.IsTextual)
    (found : s.find? c = some r) (drifted : s.drifted? d = some r.identity) :
    s.find? d = some r := by
  have same : c.identity.texts? s.ignoreCase = d.identity.texts? s.ignoreCase := by
    rw [← texts?_of_drifted? hd drifted, ← (matches?_iff hc r).mp (matches?_of_find? found)]
  have same_records : matches? s.ignoreCase c = matches? s.ignoreCase d := by
    funext record
    rw [Bool.eq_iff_iff, matches?_iff hc, matches?_iff hd, same]
  rw [find?, ← same_records]
  exact found

section Alike

variable {changeSets : List ChangeSet} (alike : s.GovernsAlike changeSets)
  (textual : ∀ c ∈ changeSets, c.identity.IsTextual) (hc : c ∈ changeSets) (hd : d ∈ changeSets)

include alike textual hc hd

theorem GovernsAlike.checksum_eq {r : Record} (found : s.find? c = some r)
    (drifted : s.drifted? d = some r.identity) : c.checksum = d.checksum :=
  alike c hc d hd r found (find?_of_drifted? (textual c hc) (textual d hd) found drifted)

theorem GovernsAlike.due_eq {v : Identity × String} (due_c : s.due? c = some v)
    (due_d : s.due? d = some w)
    (same : v.1 = w.1) : v = w := by
  obtain ⟨drifted_c, content_c⟩ := due?_eq_some.mp due_c
  obtain ⟨drifted_d, content_d⟩ := due?_eq_some.mp due_d
  obtain ⟨r, found, identity_eq, -⟩ := drifted?_eq_some drifted_c
  have content := alike.checksum_eq textual hc hd found (by rw [drifted_d, identity_eq, same])
  exact Prod.ext same (by rw [← content_c, content, content_d])

end Alike

theorem eraseDups_concat {α : Type} [BEq α] [LawfulBEq α] (xs : List α) (x : α) :
    (xs ++ [x]).eraseDups = xs.eraseDups ++ if x ∈ xs then [] else [x] := by
  rw [List.eraseDups_append]
  by_cases known : x ∈ xs
  · simp [List.removeAll, known]
  · simp [List.removeAll, known, List.eraseDups_cons]

theorem dues_concat : s.dues (front ++ [c]) =
    s.dues front ++ ((s.due? c).filter fun w => w ∉ s.dues front).toList := by
  unfold dues
  rw [List.filterMap_append]
  cases due : s.due? c with
  | none => simp [due]
  | some w =>
    have one : [c].filterMap s.due? = [w] := by simp [due]
    rw [one, eraseDups_concat, Option.filter_some]
    by_cases known : w ∈ front.filterMap s.due?
    · rw [if_pos known, if_neg (by simpa using known), Option.toList_none]
    · rw [if_neg known, if_pos (by simpa using known), Option.toList_some]

theorem nodup_dues (alike : s.GovernsAlike front) (textual : ∀ c ∈ front, c.identity.IsTextual) :
    ((s.dues front).map Prod.fst).Nodup := by
  induction front using List.reverseRecOn with
  | nil => simp [dues]
  | append_singleton front c ih =>
    have first := ih (alike.mono (List.subset_append_left _ _))
      fun d hd => textual d (List.mem_append_left _ hd)
    rw [dues_concat]
    cases due : (s.due? c).filter fun w => w ∉ s.dues front with
    | none => simpa using first
    | some w =>
      obtain ⟨due_c, new⟩ := Option.filter_eq_some_iff.mp due
      rw [Option.toList_some, List.map_append, List.map_singleton, List.nodup_append_comm]
      refine List.nodup_cons.mpr ⟨fun known => ?_, first⟩
      obtain ⟨v, hv, same⟩ := List.mem_map.mp known
      obtain ⟨d, hd, due_d⟩ := mem_dues.mp hv
      have equal := alike.due_eq textual (List.mem_append_left _ hd)
        (List.mem_append_right _ (List.mem_singleton_self c)) due_d due_c same
      rw [equal] at hv
      simp [hv] at new

theorem refreshed_append (r : Record) : s.refreshed (front ++ rest) r =
    if ∃ c ∈ front, s.drifted? c = some r.identity then
      s.refreshed front r else s.refreshed rest r := by
  induction front with
  | nil => simp
  | cons c front ih =>
    by_cases drifted : s.drifted? c = some r.identity
    · rw [List.cons_append, refreshed_cons_of_eq drifted, refreshed_cons_of_eq drifted]
      simp [drifted]
    · rw [List.cons_append, refreshed_cons_of_ne drifted, refreshed_cons_of_ne drifted, ih]
      simp [drifted]

theorem refreshed_concat_of_none (known : ((s.due? c).filter fun w => w ∉ s.dues front) = none)
    (r : Record) : s.refreshed (front ++ [c]) r = s.refreshed front r := by
  rw [refreshed_append]
  split
  · rfl
  next unknown =>
    have other : s.drifted? c ≠ some r.identity := by
      intro drifted
      have due : s.due? c = some (r.identity, c.checksum) := due?_eq_some.mpr ⟨drifted, rfl⟩
      rw [due, Option.filter_eq_none_iff] at known
      have mem : (r.identity, c.checksum) ∈ s.dues front := by simpa using known _ rfl
      obtain ⟨d, hd, due_d⟩ := mem_dues.mp mem
      exact unknown ⟨d, hd, (due?_eq_some.mp due_d).1⟩
    rw [refreshed_cons_of_ne other, refreshed_nil, refreshed_of_ne]
    exact fun d hd drifted => unknown ⟨d, hd, drifted⟩

theorem refreshed_concat_of_some (alike : s.GovernsAlike (front ++ [c]))
    (textual : ∀ d ∈ front ++ [c], d.identity.IsTextual)
    (new : ((s.due? c).filter fun w => w ∉ s.dues front) = some w) (r : Record) :
    s.refreshed (front ++ [c]) r = (s.refreshed front r).rewritten w.1 (.text w.2) := by
  obtain ⟨due, unknown⟩ := Option.filter_eq_some_iff.mp new
  obtain ⟨drifted, content⟩ := due?_eq_some.mp due
  have first : ∀ d ∈ front, s.drifted? d ≠ some w.1 := by
    intro d hd drifted_d
    have due_d : s.due? d = some (w.1, d.checksum) := due?_eq_some.mpr ⟨drifted_d, rfl⟩
    have equal := alike.due_eq textual (List.mem_append_left _ hd)
      (List.mem_append_right _ (List.mem_singleton_self c)) due_d due rfl
    have known : w ∈ s.dues front := mem_dues.mpr ⟨d, hd, by rw [due_d, equal]⟩
    simp [known] at unknown
  unfold Record.rewritten
  rw [refreshed_append, identity_refreshed]
  by_cases own : r.identity = w.1
  · have none_before : ¬ ∃ d ∈ front, s.drifted? d = some r.identity := by
      rintro ⟨d, hd, drifted_d⟩
      rw [own] at drifted_d
      exact first d hd drifted_d
    rw [if_pos own, if_neg none_before, refreshed_cons_of_eq (by rw [own, drifted]), content,
      refreshed_of_ne fun d hd drifted_d => none_before ⟨d, hd, drifted_d⟩]
  · have other : s.drifted? c ≠ some r.identity := by
      rw [drifted]
      exact fun same => own (Option.some.inj same).symm
    rw [if_neg own, refreshed_cons_of_ne other, refreshed_nil]
    split
    · rfl
    next unknown => exact (refreshed_of_ne fun d hd drifted_d => unknown ⟨d, hd, drifted_d⟩).symm

theorem GovernsAlike.refreshed_of_governs {r : Record} {changeSets : List ChangeSet}
    (alike : s.GovernsAlike changeSets) (textual : ∀ c ∈ changeSets, c.identity.IsTextual)
    (hc : c ∈ changeSets) (found : s.find? c = some r) :
    s.refreshed changeSets r = { r with checksum := .text c.checksum } := by
  unfold refreshed
  split
  next d drifted =>
    have hd := List.mem_of_find?_eq_some drifted
    have drifted_d : s.drifted? d = some r.identity := by simpa using List.find?_some drifted
    rw [alike.checksum_eq textual hc hd found drifted_d]
  next none_drifted =>
    have not_drifted := List.find?_eq_none.mp none_drifted c hc
    have current : hasDrifted c r = false := by
      simpa [drifted?, found, Option.filter] using not_drifted
    have same : r.checksum = .text c.checksum := by simpa [hasDrifted] using current
    rw [← same]

end Snapshot

end SchemaMigration
