import Mathlib.Data.List.Forall2
import Mathlib.Data.List.Nodup
import Mathlib.Data.List.Perm.Basic
import SchemaMigration.Proofs.Json.Escape
import SchemaMigration.Proofs.Number.Interval

namespace SchemaMigration

instance (significand : Nat) (exponent : Int) :
    Decidable (Binary64.IsOfFormat significand exponent) :=
  decidable_of_iff (significand < 2 ^ 53 ∧ Binary64.leastExponent ≤ exponent ∧
      exponent ≤ Binary64.greatestExponent ∧
        (significand < 2 ^ 52 → exponent = Binary64.leastExponent))
    ⟨fun ⟨small, least, greatest, subnormal⟩ => ⟨small, least, greatest, subnormal⟩,
      fun h => ⟨h.small, h.least, h.greatest, h.subnormal⟩⟩

def Binary64.isOfFormat : Binary64 → Bool
  | .finite _ significand exponent => decide (IsOfFormat significand exponent)
  | _ => true

namespace WideValue

mutual
/-- Whether the numbers in a value are of the format, its texts are whole, and no object has two
fields of one name. -/
def isWellFormed : WideValue → Bool
  | .float x => x.isOfFormat
  | .text s => isWhole s
  | .list items => areWellFormed items
  | .object fields => decide (fields.map Prod.fst).Nodup && areWellFormedFields fields
  | _ => true

def areWellFormed : List WideValue → Bool
  | [] => true
  | v :: rest => v.isWellFormed && areWellFormed rest

def areWellFormedFields : List (List CodePoint × WideValue) → Bool
  | [] => true
  | (k, v) :: rest => isWhole k && v.isWellFormed && areWellFormedFields rest
end

mutual
/-- Whether values are the same up to the order of fields. Kinds are told apart, and so are an
object without a field and one in which it is null. -/
def Alike : WideValue → WideValue → Prop
  | .list as, .list bs => AlikeItems as bs
  | .object as, .object bs => ∃ cs, cs.Perm bs ∧ AlikeFields as cs
  | a, b => a = b

def AlikeItems : List WideValue → List WideValue → Prop
  | [], [] => True
  | a :: as, b :: bs => Alike a b ∧ AlikeItems as bs
  | _, _ => False

def AlikeFields : List (List CodePoint × WideValue) → List (List CodePoint × WideValue) → Prop
  | [], [] => True
  | (j, a) :: as, (k, b) :: bs => j = k ∧ Alike a b ∧ AlikeFields as bs
  | _, _ => False
end

theorem areWellFormed_iff {items : List WideValue} :
    areWellFormed items = true ↔ ∀ v ∈ items, v.isWellFormed = true := by
  induction items with
  | nil => simp [areWellFormed]
  | cons v rest ih => simp [areWellFormed, ih]

theorem areWellFormedFields_iff {fields : List (List CodePoint × WideValue)} :
    areWellFormedFields fields = true ↔
      ∀ f ∈ fields, isWhole f.1 = true ∧ f.2.isWellFormed = true := by
  induction fields with
  | nil => simp [areWellFormedFields]
  | cons f rest ih => simp [areWellFormedFields, ih]

theorem isWellFormed_object {fields : List (List CodePoint × WideValue)} :
    (WideValue.object fields).isWellFormed = true ↔
      (fields.map Prod.fst).Nodup ∧ ∀ f ∈ fields, isWhole f.1 = true ∧ f.2.isWellFormed = true := by
  rw [isWellFormed, Bool.and_eq_true, decide_eq_true_eq, areWellFormedFields_iff]

end WideValue

namespace Json

variable {fields fields' : List (List CodePoint × WideValue)}

theorem sortedFields_eq : sortedFields fields = fields.map fun f => (f.1, sorted f.2) := by
  induction fields with
  | nil => rfl
  | cons f rest ih => rw [sortedFields, List.map_cons, ih]

theorem names_sortedFields : (sortedFields fields).map Prod.fst = fields.map Prod.fst := by
  rw [sortedFields_eq, List.map_map]
  rfl

theorem sortFields_perm : (sortFields fields).Perm fields := List.mergeSort_perm _ _

theorem precedes_cons_iff {a b : CodePoint} {s t : List CodePoint} :
    precedes (a :: s) (b :: t) = true ↔ a.val < b.val ∨ a.val = b.val ∧ precedes s t = true := by
  simp [precedes]

theorem precedes_trans {s t u : List CodePoint} (h : precedes s t = true)
    (k : precedes t u = true) : precedes s u = true := by
  induction s generalizing t u with
  | nil => rfl
  | cons a s ih =>
    cases t with
    | nil => cases h
    | cons b t =>
      cases u with
      | nil => cases k
      | cons c u =>
        rw [precedes_cons_iff] at h k ⊢
        rcases h with lt | ⟨ab, h⟩
        · exact .inl (by omega)
        · rcases k with lt | ⟨bc, k⟩
          · exact .inl (by omega)
          · exact .inr ⟨ab.trans bc, ih h k⟩

theorem precedes_total (s t : List CodePoint) : (precedes s t || precedes t s) = true := by
  rw [Bool.or_eq_true]
  induction s generalizing t with
  | nil => exact .inl rfl
  | cons a s ih =>
    cases t with
    | nil => exact .inr rfl
    | cons b t =>
      rw [precedes_cons_iff, precedes_cons_iff]
      rcases Nat.lt_trichotomy a.val b.val with lt | same | gt
      · exact .inl (.inl lt)
      · exact (ih t).imp (fun h => .inr ⟨same, h⟩) fun h => .inr ⟨same.symm, h⟩
      · exact .inr (.inl gt)

theorem eq_of_precedes {s t : List CodePoint} (h : precedes s t = true) (k : precedes t s = true) :
    s = t := by
  induction s generalizing t with
  | nil =>
    cases t with
    | nil => rfl
    | cons b t => cases k
  | cons a s ih =>
    cases t with
    | nil => cases h
    | cons b t =>
      rw [precedes_cons_iff] at h k
      obtain ⟨same, h⟩ : a.val = b.val ∧ precedes s t = true := h.resolve_left (by omega)
      obtain ⟨-, k⟩ := k.resolve_left (by omega)
      rw [Fin.ext same, ih h k]

theorem pairwise_sortFields :
    (sortFields fields).Pairwise fun f g => precedes f.1 g.1 = true :=
  List.pairwise_mergeSort (fun f g h => precedes_trans (s := f.1) (t := g.1) (u := h.1))
    (fun f g => precedes_total f.1 g.1) fields

theorem sortFields_eq_iff (distinct : (fields.map Prod.fst).Nodup) :
    sortFields fields = sortFields fields' ↔ fields.Perm fields' := by
  constructor
  · intro same
    have perm : (sortFields fields).Perm fields' := same ▸ sortFields_perm
    exact sortFields_perm.symm.trans perm
  · intro perm
    have perm' : (sortFields fields).Perm (sortFields fields') :=
      (sortFields_perm.trans perm).trans sortFields_perm.symm
    refine perm'.eq_of_pairwise (fun f g hf hg le ge => ?_) pairwise_sortFields pairwise_sortFields
    exact List.inj_on_of_nodup_map distinct (sortFields_perm.mem_iff.mp hf)
      (perm.mem_iff.mpr (sortFields_perm.mem_iff.mp hg)) (eq_of_precedes le ge)

theorem sortFields_eq_of_perm (distinct : (fields.map Prod.fst).Nodup) (perm : fields.Perm fields')
    (ordered : (fields'.map Prod.fst).Pairwise fun j k => precedes j k = true) :
    sortFields fields = fields' := by
  rw [(sortFields_eq_iff distinct).mpr perm]
  exact List.mergeSort_of_pairwise (List.pairwise_map.mp ordered)

mutual
theorem isWellFormed_sorted {v : WideValue} (h : v.isWellFormed = true) :
    (sorted v).isWellFormed = true := by
  match v with
  | .null => exact h
  | .bool _ => exact h
  | .int _ => exact h
  | .float _ => exact h
  | .text _ => exact h
  | .list items => exact areWellFormed_sortedItems h
  | .object fields =>
    obtain ⟨distinct, wellFormed⟩ := WideValue.isWellFormed_object.mp h
    refine WideValue.isWellFormed_object.mpr ⟨?_, fun f hf => ?_⟩
    · rw [(sortFields_perm.map Prod.fst).nodup_iff, names_sortedFields]
      exact distinct
    · have all := isWellFormed_sortedFields (WideValue.areWellFormedFields_iff.mpr wellFormed)
      exact WideValue.areWellFormedFields_iff.mp all f (sortFields_perm.mem_iff.mp hf)

theorem areWellFormed_sortedItems {items : List WideValue}
    (h : WideValue.areWellFormed items = true) :
    WideValue.areWellFormed (sortedItems items) = true := by
  match items with
  | [] => rfl
  | v :: rest =>
    rw [WideValue.areWellFormed, Bool.and_eq_true] at h
    rw [sortedItems, WideValue.areWellFormed, isWellFormed_sorted h.1,
      areWellFormed_sortedItems h.2]
    rfl

theorem isWellFormed_sortedFields {fields : List (List CodePoint × WideValue)}
    (h : WideValue.areWellFormedFields fields = true) :
    WideValue.areWellFormedFields (sortedFields fields) = true := by
  match fields with
  | [] => rfl
  | (k, v) :: rest =>
    rw [WideValue.areWellFormedFields, Bool.and_eq_true, Bool.and_eq_true] at h
    rw [sortedFields, WideValue.areWellFormedFields, h.1.1, isWellFormed_sorted h.1.2,
      isWellFormed_sortedFields h.2]
    rfl
end

end Json

namespace WideValue

open Json (sorted sortedItems sortedFields sortFields)

theorem exists_perm_sortedFields {as bs : List (List CodePoint × WideValue)}
    (perm : (sortedFields as).Perm (sortedFields bs)) :
    ∃ cs : List (List CodePoint × WideValue), cs.Perm bs ∧ sortedFields as = sortedFields cs := by
  have paired : List.Forall₂ (fun f g => f = (g.1, sorted g.2)) (sortedFields bs) bs := by
    rw [Json.sortedFields_eq]
    simp [List.forall₂_map_left_iff, List.forall₂_same]
  obtain ⟨cs, paired', perm'⟩ := List.perm_comp_forall₂ perm paired
  have equal : List.Forall₂ (· = ·) (sortedFields as) (cs.map fun f => (f.1, sorted f.2)) :=
    List.forall₂_map_right_iff.mpr paired'
  rw [List.forall₂_eq_eq_eq] at equal
  exact ⟨cs, perm', equal.trans Json.sortedFields_eq.symm⟩

mutual
theorem alike_iff {a b : WideValue} (ha : a.isWellFormed = true) (hb : b.isWellFormed = true) :
    a.Alike b ↔ sorted a = sorted b := by
  match a, b with
  | .list as, .list bs =>
    rw [Alike, sorted, sorted, WideValue.list.injEq]
    exact alikeItems_iff ha hb
  | .object as, .object bs =>
    obtain ⟨distinct, has⟩ := isWellFormed_object.mp ha
    obtain ⟨-, hbs⟩ := isWellFormed_object.mp hb
    have fields_iff : ∀ cs : List (List CodePoint × WideValue), cs.Perm bs →
        (AlikeFields as cs ↔ sortedFields as = sortedFields cs) := by
      intro cs perm
      exact alikeFields_iff (areWellFormedFields_iff.mpr has)
        (areWellFormedFields_iff.mpr fun f hf => hbs f (perm.mem_iff.mp hf))
    have distinct_sorted : ((sortedFields as).map Prod.fst).Nodup := by
      rw [Json.names_sortedFields]
      exact distinct
    rw [Alike, sorted, sorted, WideValue.object.injEq, Json.sortFields_eq_iff distinct_sorted]
    constructor
    · rintro ⟨cs, perm, alike⟩
      rw [(fields_iff cs perm).mp alike, Json.sortedFields_eq, Json.sortedFields_eq]
      exact perm.map _
    · intro perm
      obtain ⟨cs, perm', same⟩ := exists_perm_sortedFields perm
      exact ⟨cs, perm', (fields_iff cs perm').mpr same⟩
  | .null, b | .bool _, b | .int _, b | .float _, b | .text _, b => cases b <;> simp [Alike, sorted]
  | .list _, .null | .list _, .bool _ | .list _, .int _ | .list _, .float _ | .list _, .text _
  | .list _, .object _ => simp [Alike, sorted]
  | .object _, .null | .object _, .bool _ | .object _, .int _ | .object _,
    .float _ | .object _, .text _
  | .object _, .list _ => simp [Alike, sorted]

theorem alikeItems_iff {as bs : List WideValue} (has : areWellFormed as = true)
    (hbs : areWellFormed bs = true) :
    AlikeItems as bs ↔ sortedItems as = sortedItems bs := by
  match as, bs with
  | [], [] => simp [AlikeItems]
  | [], _ :: _ => simp [AlikeItems, sortedItems]
  | _ :: _, [] => simp [AlikeItems, sortedItems]
  | a :: as, b :: bs =>
    rw [areWellFormed, Bool.and_eq_true] at has hbs
    rw [AlikeItems, sortedItems, sortedItems, List.cons.injEq, alike_iff has.1 hbs.1,
      alikeItems_iff has.2 hbs.2]

theorem alikeFields_iff {as bs : List (List CodePoint × WideValue)}
    (has : areWellFormedFields as = true)
    (hbs : areWellFormedFields bs = true) : AlikeFields as bs ↔
      sortedFields as = sortedFields bs := by
  match as, bs with
  | [], [] => simp [AlikeFields]
  | [], _ :: _ => simp [AlikeFields, sortedFields]
  | _ :: _, [] => simp [AlikeFields, sortedFields]
  | (j, a) :: as, (k, b) :: bs =>
    rw [areWellFormedFields, Bool.and_eq_true, Bool.and_eq_true] at has hbs
    rw [AlikeFields, sortedFields, sortedFields, List.cons.injEq, Prod.mk.injEq,
      alike_iff has.1.2 hbs.1.2, alikeFields_iff has.2 hbs.2, and_assoc]
end

theorem alike_self {v : WideValue} (valid : v.isWellFormed = true) :
    v.Alike v := (alike_iff valid valid).mpr rfl

theorem alikeFields_self {fields : List (List CodePoint × WideValue)}
    (valid : areWellFormedFields fields = true) :
    AlikeFields fields fields := (alikeFields_iff valid valid).mpr rfl

theorem exists_of_alikeFields {as bs : List (List CodePoint × WideValue)}
    (alike : AlikeFields as bs) :
    ∀ f ∈ as, ∃ g ∈ bs, f.1 = g.1 ∧ f.2.Alike g.2 := by
  induction as generalizing bs with
  | nil => simp
  | cons f rest ih =>
    cases bs with
    | nil => simp [AlikeFields] at alike
    | cons g rest' =>
      obtain ⟨name, value, others⟩ := alike
      intro e he
      rcases List.mem_cons.mp he with rfl | later
      · exact ⟨g, List.mem_cons_self, name, value⟩
      · obtain ⟨h, hh, equal⟩ := ih others e later
        exact ⟨h, List.mem_cons_of_mem _ hh, equal⟩

theorem alike_object {as bs : List (List CodePoint × WideValue)} (alike : AlikeFields as bs) :
    (object as).Alike (object bs) :=
  ⟨bs, .refl bs, alike⟩

theorem exists_of_alike_object {as bs : List (List CodePoint × WideValue)}
    (alike : (object as).Alike (object bs)) :
    ∀ f ∈ as, ∃ g ∈ bs, f.1 = g.1 ∧ f.2.Alike g.2 := by
  rw [Alike] at alike
  obtain ⟨cs, perm, alike_fields⟩ := alike
  intro f hf
  obtain ⟨g, hg, equal⟩ := exists_of_alikeFields alike_fields f hf
  exact ⟨g, perm.mem_iff.mp hg, equal⟩

theorem alikeItems_iff_forall₂ {as bs : List WideValue} :
    AlikeItems as bs ↔ List.Forall₂ Alike as bs := by
  induction as generalizing bs with
  | nil => cases bs <;> simp [AlikeItems]
  | cons a rest ih =>
    cases bs with
    | nil => simp [AlikeItems]
    | cons b rest' => simp [AlikeItems, ih]

end WideValue

end SchemaMigration
