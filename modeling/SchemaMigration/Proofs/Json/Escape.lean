import Mathlib.Tactic.IntervalCases
import SchemaMigration.Json.Printer
import SchemaMigration.Json.Reader

/-! Texts in quotes. What is written for a unit of sixteen bits tells the unit, whatever follows; so
a text in quotes tells where it ends and its units, and these tell the text unless two surrogates in
it could be taken for one code point. -/

namespace SchemaMigration

namespace Json

section Unit

variable {n : Nat} {rest : List Char}

theorem hexValue?_hexDigit (small : n < 16) : hexValue? (Text.hexDigit n) = some n := by
  interval_cases n <;> rfl

theorem unit?_hexDigits (small : n < 0x10000) :
    unit? (Text.hexDigits 4 n ++ rest) = some (n, rest) := by
  have digit (m : Nat) : hexValue? (Text.hexDigit (m % 16)) = some (m % 16) :=
    hexValue?_hexDigit (Nat.mod_lt m (by decide))
  have value : ((n / 16 / 16 / 16 % 16 * 16 + n / 16 / 16 % 16) * 16 + n / 16 % 16) * 16 + n % 16 =
      n := by
    omega
  simp only [Text.hexDigits, List.nil_append, List.cons_append, unit?, digit, bind,
    Option.bind, value]

def unitOf? : List Char → Option (Nat × List Char)
  | '\\' :: 'u' :: s => unit? s
  | '\\' :: e :: rest => (simpleEscape? e).map fun c => (c.toNat, rest)
  | c :: rest => some (c.toNat, rest)
  | [] => none

theorem unitOf?_plain {c : Char} (not_escape : c ≠ '\\') :
    unitOf? (c :: rest) = some (c.toNat, rest) := by
  unfold unitOf?
  split
  next same => exact absurd (List.cons.inj same).1 not_escape
  next same => exact absurd (List.cons.inj same).1 not_escape
  next same =>
    obtain ⟨rfl, rfl⟩ := List.cons.inj same
    rfl
  next same => cases same

theorem toNat_ofNat (ascii : n ≤ 0x7E) : (Char.ofNat n).toNat = n := by
  have valid : n.isValidChar := .inl (by omega)
  rw [Char.ofNat, dif_pos valid]
  rfl

theorem unitOf?_unitText (small : n < 0x10000) : unitOf? (unitText n ++ rest) = some (n, rest) := by
  unfold unitText
  split
  next is_n => rw [beq_iff_eq.mp is_n]; rfl
  split
  next is_n => rw [beq_iff_eq.mp is_n]; rfl
  next not_escape =>
  split
  next is_n => rw [beq_iff_eq.mp is_n]; rfl
  split
  next is_n => rw [beq_iff_eq.mp is_n]; rfl
  split
  next is_n => rw [beq_iff_eq.mp is_n]; rfl
  split
  next is_n => rw [beq_iff_eq.mp is_n]; rfl
  split
  next is_n => rw [beq_iff_eq.mp is_n]; rfl
  split
  next printable =>
    rw [Bool.and_eq_true, decide_eq_true_eq, decide_eq_true_eq] at printable
    have code := toNat_ofNat printable.2
    rw [List.singleton_append, unitOf?_plain, code]
    intro is_escape
    rw [is_escape] at code
    exact not_escape (beq_iff_eq.mpr code.symm)
  next => exact unit?_hexDigits small

theorem unitText_append_ne (n : Nat) (rest after : List Char) :
    unitText n ++ rest ≠ '"' :: after := by
  unfold unitText
  split
  next => simp
  next not_quote =>
  split
  next => simp
  split
  next => simp
  split
  next => simp
  split
  next => simp
  split
  next => simp
  split
  next => simp
  split
  next printable =>
    rw [Bool.and_eq_true, decide_eq_true_eq, decide_eq_true_eq] at printable
    intro same
    have code := toNat_ofNat printable.2
    rw [(List.cons.inj same).1] at code
    exact not_quote (beq_iff_eq.mpr code.symm)
  next => simp [unitEscape]

end Unit

theorem unitTexts_append_inj {us vs : List Nat} {rest rest' : List Char}
    (small_us : ∀ u ∈ us, u < 0x10000)
    (small_vs : ∀ v ∈ vs, v < 0x10000)
    (same : us.flatMap unitText ++ '"' :: rest = vs.flatMap unitText ++ '"' :: rest') :
    us = vs ∧ rest = rest' := by
  induction us generalizing vs with
  | nil =>
    cases vs with
    | nil => exact ⟨rfl, (List.cons.inj same).2⟩
    | cons v vs =>
      rw [List.flatMap_cons, List.append_assoc] at same
      exact absurd same.symm (unitText_append_ne v _ _)
  | cons u us ih =>
    cases vs with
    | nil =>
      rw [List.flatMap_cons, List.append_assoc] at same
      exact absurd same (unitText_append_ne u _ _)
    | cons v vs =>
      rw [List.flatMap_cons, List.flatMap_cons, List.append_assoc, List.append_assoc] at same
      have read := congrArg unitOf? same
      rw [unitOf?_unitText (small_us u List.mem_cons_self),
        unitOf?_unitText (small_vs v List.mem_cons_self)] at read
      obtain ⟨rfl, same_rest⟩ := Prod.mk.inj (Option.some.inj read)
      obtain ⟨rfl, ends⟩ := ih (fun u hu => small_us u (List.mem_cons_of_mem _ hu))
        (fun v hv => small_vs v (List.mem_cons_of_mem _ hv)) same_rest
      exact ⟨rfl, ends⟩

theorem units_lt {n : CodePoint} {u : Nat} (hu : u ∈ units n) : u < 0x10000 := by
  unfold units at hu
  split at hu
  next small => rwa [List.mem_singleton.mp hu]
  next =>
    have bound := n.isLt
    rcases List.mem_cons.mp hu with rfl | hu
    · omega
    · rw [List.mem_singleton.mp hu]
      omega

theorem stringText_append_inj {s t : List CodePoint} {rest rest' : List Char}
    (same : stringText s ++ rest = stringText t ++ rest') :
    s.flatMap units = t.flatMap units ∧ rest = rest' := by
  have small (s : List CodePoint) : ∀ u ∈ s.flatMap units, u < 0x10000 := by
    intro u hu
    obtain ⟨n, -, hu⟩ := List.mem_flatMap.mp hu
    exact units_lt hu
  exact unitTexts_append_inj (small s) (small t) (by simpa [stringText] using same)

end Json

open Json (units isHighSurrogate isLowSurrogate)

/-- Whether no two surrogates of a text stand where one code point could. -/
def isWhole : List CodePoint → Bool
  | a :: b :: rest => !(isHighSurrogate a && isLowSurrogate b) && isWhole (b :: rest)
  | _ => true

theorem isWhole_tail {a : CodePoint} {s : List CodePoint} (whole : isWhole (a :: s) = true) :
    isWhole s = true := by
  cases s with
  | nil => rfl
  | cons b s =>
    rw [isWhole, Bool.and_eq_true] at whole
    exact whole.2

theorem isWhole_of_forall {s : List CodePoint} (none_high : ∀ a ∈ s, isHighSurrogate a = false) :
    isWhole s = true := by
  induction s with
  | nil => rfl
  | cons a s ih =>
    have rest := ih fun b hb => none_high b (List.mem_cons_of_mem a hb)
    cases s with
    | nil => rfl
    | cons b s => rw [isWhole, none_high a List.mem_cons_self, rest]; rfl

theorem isWhole_codes (s : String) : isWhole (codes s) = true := by
  apply isWhole_of_forall
  intro a ha
  obtain ⟨c, -, rfl⟩ := List.mem_map.mp ha
  have valid : c.toNat < 0xD800 ∨ 0xDFFF < c.toNat ∧ c.toNat < 0x110000 := c.valid
  change isHighSurrogate c.toNat = false
  simp only [isHighSurrogate, Bool.and_eq_false_iff, decide_eq_false_iff_not]
  omega

namespace Json

theorem units_cases (n : CodePoint) : units n = [n.val] ∨
    ∃ high low, units n = [high, low] ∧ isHighSurrogate high = true ∧ isLowSurrogate low = true ∧
      n.val = 0x10000 + (high - 0xD800) * 0x400 + (low - 0xDC00) := by
  have bound := n.isLt
  unfold units
  split
  next => exact .inl rfl
  next large =>
    refine .inr ⟨_, _, rfl, ?_, ?_, by omega⟩
    · simp only [isHighSurrogate, Bool.and_eq_true, decide_eq_true_eq]
      omega
    · simp only [isLowSurrogate, Bool.and_eq_true, decide_eq_true_eq]
      omega

theorem not_isLowSurrogate {n : Nat} (high : isHighSurrogate n = true) :
    isLowSurrogate n = false := by
  simp only [isHighSurrogate, Bool.and_eq_true, decide_eq_true_eq] at high
  simp only [isLowSurrogate, Bool.and_eq_false_iff, decide_eq_false_iff_not]
  omega

theorem isLowSurrogate_of_units {a : CodePoint} {s : List CodePoint} {low : Nat} {us : List Nat}
    (whole : isWhole (a :: s) = true) (high : isHighSurrogate a = true)
    (units_eq : s.flatMap units = low :: us) : isLowSurrogate low = false := by
  cases s with
  | nil => cases units_eq
  | cons b s =>
    rw [List.flatMap_cons] at units_eq
    rcases units_cases b with one | ⟨high', low', two, is_high, -, -⟩
    · rw [one] at units_eq
      obtain ⟨rfl, -⟩ := List.cons.inj units_eq
      rw [isWhole, high, Bool.true_and, Bool.and_eq_true] at whole
      exact Bool.not_eq_true' _ ▸ whole.1
    · rw [two] at units_eq
      obtain ⟨rfl, -⟩ := List.cons.inj units_eq
      exact not_isLowSurrogate is_high

theorem eq_of_units {s t : List CodePoint} (whole_s : isWhole s = true) (whole_t : isWhole t = true)
    (same : s.flatMap units = t.flatMap units) : s = t := by
  induction s generalizing t with
  | nil =>
    cases t with
    | nil => rfl
    | cons b t => rcases units_cases b with one | ⟨_, _, two, -⟩ <;> simp_all
  | cons a s ih =>
    cases t with
    | nil => rcases units_cases a with one | ⟨_, _, two, -⟩ <;> simp_all
    | cons b t =>
      rw [List.flatMap_cons, List.flatMap_cons] at same
      rcases units_cases a with one | ⟨high, low, two, is_high, is_low, a_eq⟩
      · rcases units_cases b with one' | ⟨high, low, two, is_high, is_low, -⟩
        · rw [one, one'] at same
          obtain ⟨first, rest⟩ := List.cons.inj same
          rw [Fin.ext first, ih (isWhole_tail whole_s) (isWhole_tail whole_t) rest]
        · rw [one, two] at same
          obtain ⟨rfl, rest⟩ := List.cons.inj same
          rw [isLowSurrogate_of_units whole_s is_high rest] at is_low
          cases is_low
      · rcases units_cases b with one' | ⟨high', low', two', -, -, b_eq⟩
        · rw [two, one'] at same
          obtain ⟨rfl, rest⟩ := List.cons.inj same
          rw [isLowSurrogate_of_units whole_t is_high rest.symm] at is_low
          cases is_low
        · rw [two, two'] at same
          obtain ⟨rfl, seconds⟩ := List.cons.inj same
          obtain ⟨rfl, rest⟩ := List.cons.inj seconds
          rw [Fin.ext (a_eq.trans b_eq.symm), ih (isWhole_tail whole_s) (isWhole_tail whole_t) rest]

end Json

end SchemaMigration
