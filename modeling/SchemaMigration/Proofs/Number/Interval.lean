import Mathlib.Algebra.Order.Field.Power
import Mathlib.Algebra.Order.Field.Rat
import Mathlib.Tactic.FieldSimp
import Mathlib.Tactic.Linarith
import Mathlib.Tactic.Positivity
import Mathlib.Tactic.Ring
import SchemaMigration.Number.Shortest

namespace SchemaMigration.Binary64

def powerAbove (base : Nat) (e : Int) : Nat := if 0 ≤ e then base ^ e.toNat else 1

def powerBelow (base : Nat) (e : Int) : Nat := if 0 ≤ e then 1 else base ^ (-e).toNat

variable {base : Nat} {e : Int}

theorem powerBelow_pos (h : 0 < base) : 0 < powerBelow base e := by
  unfold powerBelow
  split
  · exact Nat.one_pos
  · exact Nat.pow_pos h

theorem powerAbove_pos (h : 0 < base) : 0 < powerAbove base e := by
  unfold powerAbove
  split
  · exact Nat.pow_pos h
  · exact Nat.one_pos

theorem cast_powerAbove (h : 0 < base) :
    (powerAbove base e : ℚ) = (base : ℚ) ^ e * powerBelow base e := by
  have base_ne : (base : ℚ) ≠ 0 := by exact_mod_cast h.ne'
  unfold powerAbove powerBelow
  split
  next nonneg =>
    obtain ⟨n, rfl⟩ := Int.eq_ofNat_of_zero_le nonneg
    simp
  next negative =>
    obtain ⟨n, rfl⟩ := Int.eq_negSucc_of_lt_zero (not_le.mp negative)
    have toNat_eq : (-Int.negSucc n).toNat = n + 1 := rfl
    rw [toNat_eq, zpow_negSucc]
    push_cast
    field_simp

theorem roundDiv_cases (num den : Nat) :
    roundDiv num den = num / den ∨ roundDiv num den = num / den + 1 := by
  unfold roundDiv
  dsimp only
  split
  · exact .inr rfl
  · split
    · exact .inr rfl
    · exact .inl rfl

namespace Interval

variable {i : Interval} {count steps : Nat} {grid : Int} {q : ℚ}

def Contains (i : Interval) (q : ℚ) : Prop :=
  if i.closed then i.low ≤ q * i.den ∧ q * i.den ≤ i.high
  else i.low < q * i.den ∧ q * i.den < i.high

theorem holds_eq : i.holds count grid =
    if i.closed then decide (i.low * powerBelow 10 grid ≤ count * powerAbove 10 grid * i.den) &&
      decide (count * powerAbove 10 grid * i.den ≤ i.high * powerBelow 10 grid)
    else decide (i.low * powerBelow 10 grid < count * powerAbove 10 grid * i.den) &&
      decide (count * powerAbove 10 grid * i.den < i.high * powerBelow 10 grid) := by
  unfold holds powerAbove powerBelow
  by_cases nonneg : 0 ≤ grid
  · simp only [nonneg, if_true]
    rfl
  · simp only [nonneg, if_false, Nat.mul_one]
    rfl

theorem holds_iff : i.holds count grid = true ↔ i.Contains (count * (10 : ℚ) ^ grid) := by
  have unit_pos : (0 : ℚ) < powerBelow 10 grid := by exact_mod_cast powerBelow_pos (by decide)
  have point_eq : ((count * powerAbove 10 grid * i.den : Nat) : ℚ) =
      count * (10 : ℚ) ^ grid * i.den * powerBelow 10 grid := by
    push_cast
    rw [cast_powerAbove (by decide)]
    push_cast
    ring
  have le_point (a : Nat) : a * powerBelow 10 grid ≤ count * powerAbove 10 grid * i.den ↔
      (a : ℚ) ≤ count * (10 : ℚ) ^ grid * i.den := by
    rw [← Nat.cast_le (α := ℚ), point_eq, Nat.cast_mul, mul_le_mul_iff_left₀ unit_pos]
  have point_le (a : Nat) : count * powerAbove 10 grid * i.den ≤ a * powerBelow 10 grid ↔
      count * (10 : ℚ) ^ grid * i.den ≤ a := by
    rw [← Nat.cast_le (α := ℚ), point_eq, Nat.cast_mul, mul_le_mul_iff_left₀ unit_pos]
  rw [holds_eq, Contains]
  cases i.closed with
  | true => simp only [if_true, Bool.and_eq_true, decide_eq_true_eq, le_point, point_le]
  | false =>
    simp only [Bool.false_eq_true, if_false, Bool.and_eq_true, decide_eq_true_eq,
      ← not_le, le_point, point_le]

def floorOn (i : Interval) (grid : Int) : Nat :=
  i.value * powerBelow 10 grid / (i.den * powerAbove 10 grid)

theorem onGrid?_eq (i : Interval) (grid : Int) : ∃ near far,
    (near = i.floorOn grid ∧ far = i.floorOn grid + 1 ∨
      near = i.floorOn grid + 1 ∧ far = i.floorOn grid) ∧
    i.onGrid? grid =
      if i.holds near grid then some near else if i.holds far grid then some far else none := by
  have parts : i.onGrid? grid =
      let near := roundDiv (i.value * powerBelow 10 grid) (i.den * powerAbove 10 grid)
      let far := if near == i.floorOn grid then i.floorOn grid + 1 else i.floorOn grid
      if i.holds near grid then some near else if i.holds far grid then some far else none := by
    unfold onGrid? floorOn powerAbove powerBelow
    by_cases nonneg : 0 ≤ grid
    · simp only [nonneg, if_true, Nat.mul_one]
      rfl
    · simp only [nonneg, if_false, Nat.mul_one]
      rfl
  refine ⟨_, _, ?_, parts⟩
  rcases roundDiv_cases (i.value * powerBelow 10 grid) (i.den * powerAbove 10 grid) with down | up
  · exact .inl ⟨down, by simp [floorOn, down]⟩
  · exact .inr ⟨up, by simp [floorOn, up]⟩

theorem holds_of_onGrid? (found : i.onGrid? grid = some count) : i.holds count grid = true := by
  obtain ⟨near, far, -, eq⟩ := onGrid?_eq i grid
  rw [eq] at found
  split at found
  next near_holds =>
    cases found
    exact near_holds
  next =>
    split at found
    next far_holds =>
      cases found
      exact far_holds
    next => cases found

theorem floorOn_bounds (positive : 0 < i.den) (grid : Int) :
    i.floorOn grid * (10 : ℚ) ^ grid * i.den ≤ i.value ∧
      i.value < (i.floorOn grid + 1 : ℕ) * (10 : ℚ) ^ grid * i.den := by
  have unit_pos : (0 : ℚ) < powerBelow 10 grid := by exact_mod_cast powerBelow_pos (by decide)
  have den_pos : 0 < i.den * powerAbove 10 grid := Nat.mul_pos positive (powerAbove_pos (by decide))
  have floor_le : i.floorOn grid * (i.den * powerAbove 10 grid) ≤ i.value * powerBelow 10 grid :=
    Nat.div_mul_le_self _ _
  have lt_succ : i.value * powerBelow 10 grid < (i.floorOn grid + 1) *
      (i.den * powerAbove 10 grid) :=
    Nat.lt_mul_of_div_lt (Nat.lt_succ_self _) den_pos
  have scaled (n : Nat) : ((n * (i.den * powerAbove 10 grid) : Nat) : ℚ) =
      n * (10 : ℚ) ^ grid * i.den * powerBelow 10 grid := by
    push_cast
    rw [cast_powerAbove (by decide)]
    push_cast
    ring
  rw [← Nat.cast_le (α := ℚ), scaled, Nat.cast_mul, mul_le_mul_iff_left₀ unit_pos] at floor_le
  rw [← Nat.cast_lt (α := ℚ), scaled, Nat.cast_mul, mul_lt_mul_iff_left₀ unit_pos] at lt_succ
  exact ⟨floor_le, lt_succ⟩

theorem isSome_onGrid? (positive : 0 < i.den) (ordered : i.low ≤ i.value)
    (fine : (10 : ℚ) ^ grid * i.den < i.high - i.value) : (i.onGrid? grid).isSome = true := by
  obtain ⟨floor_le, lt_succ⟩ := floorOn_bounds positive grid
  have ordered' : (i.low : ℚ) ≤ i.value := by exact_mod_cast ordered
  have below_high : ((i.floorOn grid + 1 : ℕ) : ℚ) * (10 : ℚ) ^ grid * i.den < i.high := by
    push_cast
    linarith
  have next_holds : i.holds (i.floorOn grid + 1) grid = true := by
    rw [holds_iff, Contains]
    split
    · exact ⟨by linarith, below_high.le⟩
    · exact ⟨by linarith, below_high⟩
  obtain ⟨near, far, points, eq⟩ := onGrid?_eq i grid
  rw [eq]
  rcases points with ⟨-, rfl⟩ | ⟨rfl, -⟩
  · rw [if_pos next_holds]
    split
    · rfl
    · rfl
  · rw [if_pos next_holds]
    rfl

theorem not_holds_zero (above : 0 < i.low) : i.holds 0 grid = false := by
  rw [Bool.eq_false_iff]
  intro holds
  have low_pos : (0 : ℚ) < i.low := by exact_mod_cast above
  rw [holds_iff, Contains] at holds
  split at holds
  · have low_le := holds.1
    simp only [Nat.cast_zero, zero_mul] at low_le
    linarith
  · have low_lt := holds.1
    simp only [Nat.cast_zero, zero_mul] at low_lt
    linarith

theorem holds_search (above : 0 < i.low) {offset : Nat} (early : offset < steps)
    (fine : (i.onGrid? (grid - offset)).isSome = true) :
    i.holds (i.search steps grid).1 (i.search steps grid).2 = true := by
  induction steps generalizing grid offset with
  | zero => exact absurd early (Nat.not_lt_zero offset)
  | succ steps ih =>
    unfold search
    cases found : i.onGrid? grid with
    | some count =>
      have holds := holds_of_onGrid? found
      have ne_zero : count ≠ 0 := by
        rintro rfl
        rw [not_holds_zero above] at holds
        cases holds
      simpa [ne_zero] using holds
    | none =>
      cases offset with
      | zero => simp [found] at fine
      | succ offset =>
        apply ih (Nat.lt_of_succ_lt_succ early)
        have same : grid - 1 - (offset : Int) = grid - ((offset + 1 : Nat) : Int) := by omega
        rw [same]
        exact fine

end Interval

theorem lt_pow_digitCount (n : Nat) : n < 10 ^ digitCount n :=
  (Nat.length_toDigits_le_iff (by decide) (List.length_pos_iff.mpr Nat.toDigits_ne_nil)).mp
    (Nat.le_refl _)

theorem pow_le_of_digitCount {n : Nat} (positive : 0 < n) : 10 ^ (digitCount n - 1) ≤ n := by
  rcases Nat.eq_zero_or_pos (digitCount n - 1) with one | more
  · rw [one]
    exact positive
  · rw [← Nat.not_lt, ← Nat.length_toDigits_le_iff (by decide) more]
    unfold digitCount at more ⊢
    omega

theorem pow_decimalBound_le {num den : Nat} (num_pos : 0 < num) (den_pos : 0 < den) :
    (10 : ℚ) ^ (decimalBound num den - 1) * den ≤ num := by
  unfold decimalBound
  split
  next le =>
    have quotient_pos : 0 < num / den := Nat.div_pos le den_pos
    have digits_pos : 0 < digitCount (num / den) := List.length_pos_iff.mpr Nat.toDigits_ne_nil
    have exponent_eq : (digitCount (num / den) : Int) -
        1 = ((digitCount (num / den) - 1 : Nat) : Int) := by
      omega
    rw [exponent_eq, zpow_natCast]
    have bound : 10 ^ (digitCount (num / den) - 1) * den ≤ num :=
      calc 10 ^ (digitCount (num / den) - 1) * den
          ≤ num / den * den := Nat.mul_le_mul_right den (pow_le_of_digitCount quotient_pos)
        _ ≤ num := Nat.div_mul_le_self num den
    exact_mod_cast bound
  next =>
    have exponent_eq : 1 - (digitCount (den / num) : Int) -
      1 = -(digitCount (den / num) : Int) := by omega
    rw [exponent_eq, zpow_neg, zpow_natCast, inv_mul_le_iff₀ (by positivity)]
    have bound : den ≤ 10 ^ digitCount (den / num) * num :=
      (Nat.lt_mul_of_div_lt (lt_pow_digitCount _) num_pos).le
    exact_mod_cast bound

/-- Significands and exponents of finite numbers. Small significands go with the least exponent
only, so that a number has one of each. -/
structure IsOfFormat (significand : Nat) (exponent : Int) : Prop where
  small : significand < 2 ^ 53
  least : leastExponent ≤ exponent
  greatest : exponent ≤ greatestExponent
  subnormal : significand < 2 ^ 52 → exponent = leastExponent

/-- The distance from a number down to the middle of the way to the one below, in quarters of a
step. -/
def reach (significand : Nat) (exponent : Int) : Nat :=
  if significand = 2 ^ 52 ∧ leastExponent < exponent then 1 else 2

theorem interval_eq (significand : Nat) (exponent : Int) : interval significand exponent =
    { low := (4 * significand - reach significand exponent) * powerAbove 2 exponent
      value := 4 * significand * powerAbove 2 exponent
      high := (4 * significand + 2) * powerAbove 2 exponent
      den := 4 * powerBelow 2 exponent
      closed := significand % 2 == 0 } := by
  have reach_eq : (if (significand == pow2 52 && leastExponent < exponent) then 1 else 2) =
      reach significand exponent := by
    simp [reach, pow2]
  unfold interval powerAbove powerBelow
  rw [reach_eq]
  by_cases nonneg : 0 ≤ exponent
  · simp only [nonneg, if_true]
    rfl
  · simp only [nonneg, if_false, Nat.mul_one]
    rfl

section Number

variable {significand significand' : Nat} {exponent exponent' : Int} {q : ℚ}

theorem contains_interval_iff : (interval significand exponent).Contains q ↔
    if significand % 2 = 0 then
      ((4 * significand - reach significand exponent : ℕ) : ℚ) * 2 ^ exponent ≤ q * 4 ∧
        q * 4 ≤ ((4 * significand + 2 : ℕ) : ℚ) * 2 ^ exponent
    else
      ((4 * significand - reach significand exponent : ℕ) : ℚ) * 2 ^ exponent < q * 4 ∧
        q * 4 < ((4 * significand + 2 : ℕ) : ℚ) * 2 ^ exponent := by
  have unit_pos : (0 : ℚ) < powerBelow 2 exponent := by exact_mod_cast powerBelow_pos (by decide)
  have end_eq (n : ℕ) : ((n * powerAbove 2 exponent : ℕ) : ℚ) =
      n * 2 ^ exponent * powerBelow 2 exponent := by
    rw [Nat.cast_mul, cast_powerAbove (by decide)]
    push_cast
    ring
  have point_eq : q * ((4 * powerBelow 2 exponent : ℕ) : ℚ) = q * 4 * powerBelow 2 exponent := by
    push_cast
    ring
  rw [Interval.Contains, interval_eq]
  simp only [end_eq, point_eq, mul_le_mul_iff_left₀ unit_pos,
    mul_lt_mul_iff_left₀ unit_pos, beq_iff_eq]

theorem reach_bounds (significand : Nat) (exponent : Int) :
    1 ≤ reach significand exponent ∧ reach significand exponent ≤ 2 := by
  unfold reach
  split
  · omega
  · omega

theorem den_interval_pos : 0 < (interval significand exponent).den := by
  rw [interval_eq]
  exact Nat.mul_pos (by decide) (powerBelow_pos (by decide))

theorem low_interval_pos (positive : 0 < significand) :
    0 < (interval significand exponent).low := by
  have reach_le := (reach_bounds significand exponent).2
  rw [interval_eq]
  exact Nat.mul_pos (by omega) (powerAbove_pos (by decide))

theorem low_le_value_interval :
    (interval significand exponent).low ≤ (interval significand exponent).value := by
  rw [interval_eq]
  exact Nat.mul_le_mul_right _ (Nat.sub_le _ _)

theorem fine_of_decimalBound (exponent : Int) (positive : 0 < significand)
    (small : significand < 2 ^ 53) :
    (10 : ℚ) ^ (decimalBound (interval significand exponent).value
      (interval significand exponent).den -
        (18 : ℕ)) * (interval significand exponent).den <
      (interval significand exponent).high - (interval significand exponent).value := by
  have den_pos : 0 < (interval significand exponent).den := den_interval_pos
  have value_pos : 0 < (interval significand exponent).value :=
    Nat.lt_of_lt_of_le (low_interval_pos positive) low_le_value_interval
  have start := pow_decimalBound_le value_pos den_pos
  generalize decimalBound (interval significand exponent).value
    (interval significand exponent).den = bound
    at start ⊢
  have coarse : (10 : ℚ) ^ (bound - 1) = 10 ^ 17 * 10 ^ (bound - (18 : ℕ)) := by
    rw [← zpow_natCast, ← zpow_add₀ (by norm_num)]
    congr 1
    push_cast
    ring
  have scale_pos : (0 : ℚ) < powerAbove 2 exponent := by exact_mod_cast powerAbove_pos (by decide)
  have small' : (significand : ℚ) < 2 ^ 53 := by exact_mod_cast small
  have value_lt : ((interval significand exponent).value : ℚ) < 2 ^ 55 * powerAbove 2 exponent := by
    have scaled := mul_lt_mul_of_pos_right small' scale_pos
    rw [interval_eq]
    push_cast
    linarith
  have upper_half : ((interval significand exponent).high : ℚ) -
    (interval significand exponent).value =
      2 * powerAbove 2 exponent := by
    rw [interval_eq]
    push_cast
    ring
  rw [coarse] at start
  rw [upper_half]
  linarith

theorem contains_search (positive : 0 < significand) (small : significand < 2 ^ 53)
    {count : Nat} {grid : Int}
    (found : (interval significand exponent).search 20
      (decimalBound (interval significand exponent).value
      (interval significand exponent).den) = (count, grid)) :
    (interval significand exponent).Contains (count * (10 : ℚ) ^ grid) := by
  have hit := Interval.isSome_onGrid? den_interval_pos low_le_value_interval
    (fine_of_decimalBound exponent positive small)
  have early : 18 < 20 := by decide
  have ended := Interval.holds_search (low_interval_pos positive) early hit
  rw [found] at ended
  exact Interval.holds_iff.mp ended

theorem le_of_contains (inside : (interval significand exponent).Contains q) :
    q * 4 ≤ ((4 * significand + 2 : ℕ) : ℚ) * 2 ^ exponent ∧
      (q * 4 = ((4 * significand + 2 : ℕ) : ℚ) * 2 ^ exponent → significand % 2 = 0) := by
  rw [contains_interval_iff] at inside
  split at inside
  next even => exact ⟨inside.2, fun _ => even⟩
  next => exact ⟨inside.2.le, fun same => absurd same inside.2.ne⟩

theorem ge_of_contains (inside : (interval significand exponent).Contains q) :
    ((4 * significand - reach significand exponent : ℕ) : ℚ) * 2 ^ exponent ≤ q * 4 ∧
      (((4 * significand - reach significand exponent : ℕ) : ℚ) * 2 ^ exponent = q * 4 →
        significand % 2 = 0) := by
  rw [contains_interval_iff] at inside
  split at inside
  next even => exact ⟨inside.1, fun _ => even⟩
  next => exact ⟨inside.1.le, fun same => absurd same inside.1.ne⟩

theorem exists_steps (valid : IsOfFormat significand exponent)
    (valid' : IsOfFormat significand' exponent')
    (below : exponent = exponent' ∧ significand < significand' ∨ exponent < exponent') :
    ∃ steps : ℕ, (2 : ℚ) ^ exponent' = steps * 2 ^ exponent ∧
      4 * significand + 2 ≤ (4 * significand' - reach significand' exponent') * steps ∧
      (4 * significand + 2 = (4 * significand' - reach significand' exponent') * steps →
        significand % 2 = 1 ∨ significand' % 2 = 1) := by
  obtain ⟨small, least, -, -⟩ := valid
  obtain ⟨-, reach_le⟩ := reach_bounds significand' exponent'
  rcases below with ⟨rfl, less⟩ | less
  · exact ⟨1, by simp, by omega, by omega⟩
  · obtain ⟨d, rfl⟩ := Int.le.dest (Int.add_one_le_of_lt less)
    -- the greater number is no subnormal one, so its step is twice that of the other or more
    have full : 2 ^ 52 ≤ significand' := by
      by_contra small'
      have at_least := valid'.subnormal (by omega)
      omega
    have reach_one : significand' = 2 ^ 52 → reach significand' (exponent + 1 + d) = 1 := by
      intro power
      exact if_pos ⟨power, by omega⟩
    have first_steps : 4 * significand + 2 ≤
        (4 * significand' - reach significand' (exponent + 1 + d)) * 2 := by
      omega
    have grown : (4 * significand' - reach significand' (exponent + 1 + d)) * 2 ≤
        (4 * significand' - reach significand' (exponent + 1 + d)) * 2 ^ (d + 1) :=
      Nat.mul_le_mul_left _ (Nat.le_self_pow (Nat.succ_ne_zero d) 2)
    refine ⟨2 ^ (d + 1), ?_, first_steps.trans grown, fun meet => ?_⟩
    · push_cast
      rw [← zpow_natCast, ← zpow_add₀ (by norm_num)]
      congr 1
      push_cast
      ring
    · omega

theorem not_contains_of_lt (valid : IsOfFormat significand exponent)
    (valid' : IsOfFormat significand' exponent')
    (below : exponent = exponent' ∧ significand < significand' ∨ exponent < exponent')
    (inside : (interval significand exponent).Contains q) :
    ¬ (interval significand' exponent').Contains q := by
  intro inside'
  obtain ⟨steps, scale, apart, meet⟩ := exists_steps valid valid' below
  obtain ⟨le, even⟩ := le_of_contains inside
  obtain ⟨ge, even'⟩ := ge_of_contains inside'
  have unit_pos : (0 : ℚ) < 2 ^ exponent := by positivity
  have apart' : ((4 * significand + 2 : ℕ) : ℚ) * 2 ^ exponent ≤
      ((4 * significand' - reach significand' exponent' : ℕ) : ℚ) * 2 ^ exponent' := by
    rw [scale, ← mul_assoc]
    apply mul_le_mul_of_nonneg_right _ unit_pos.le
    exact_mod_cast apart
  have same : ((4 * significand + 2 : ℕ) : ℚ) * 2 ^ exponent =
      ((4 * significand' - reach significand' exponent' : ℕ) : ℚ) * 2 ^ exponent' :=
    le_antisymm apart' (ge.trans le)
  have counted : 4 * significand + 2 = (4 * significand' - reach significand' exponent') *
      steps := by
    rw [scale, ← mul_assoc, mul_left_inj' unit_pos.ne'] at same
    exact_mod_cast same
  have even_of := even (le_antisymm le (same ▸ ge))
  have even_of' := even' (le_antisymm ge (same ▸ le))
  rcases meet counted with odd | odd'
  · omega
  · omega

theorem eq_of_contains (valid : IsOfFormat significand exponent)
    (valid' : IsOfFormat significand' exponent')
    (inside : (interval significand exponent).Contains q)
    (inside' : (interval significand' exponent').Contains q) :
    significand = significand' ∧ exponent = exponent' := by
  rcases Int.lt_trichotomy exponent exponent' with lt | same | gt
  · exact absurd inside' (not_contains_of_lt valid valid' (.inr lt) inside)
  · rcases Nat.lt_trichotomy significand significand' with less | equal | more
    · exact absurd inside' (not_contains_of_lt valid valid' (.inl ⟨same, less⟩) inside)
    · exact ⟨equal, same⟩
    · exact absurd inside (not_contains_of_lt valid' valid (.inl ⟨same.symm, more⟩) inside')
  · exact absurd inside (not_contains_of_lt valid' valid (.inr gt) inside')

end Number

end SchemaMigration.Binary64
