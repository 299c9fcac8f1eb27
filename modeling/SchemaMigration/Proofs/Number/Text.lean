import Mathlib.Data.List.TakeWhile
import SchemaMigration.Proofs.Number.Interval

namespace SchemaMigration.Binary64

def numeral (digits : List Char) : Nat := Nat.ofDigitChars 10 digits 0

def AreDigits (s : List Char) : Prop := ∀ c ∈ s, c.isDigit = true

section Digits

variable {s t : List Char} {n : Nat}

theorem areDigits_append : AreDigits (s ++ t) ↔ AreDigits s ∧ AreDigits t := List.forall_mem_append

theorem areDigits_replicate : AreDigits (List.replicate n '0') := by
  intro c hc
  rw [List.eq_of_mem_replicate hc]
  rfl

theorem areDigits_toDigits : AreDigits (Nat.toDigits 10 n) :=
  fun _ hc => Nat.isDigit_of_mem_toDigits (by decide) (by decide) hc

theorem numeral_toDigits : numeral (Nat.toDigits 10 n) = n := Nat.ofDigitChars_ten_toDigits

theorem numeral_append_zeros : numeral (s ++ List.replicate n '0') = numeral s * 10 ^ n := by
  rw [numeral, Nat.ofDigitChars_append, Nat.ofDigitChars_replicate_zero, Nat.mul_comm, numeral]

theorem numeral_zeros_append : numeral (List.replicate n '0' ++ s) = numeral s := by
  rw [numeral, Nat.ofDigitChars_append, Nat.ofDigitChars_replicate_zero, Nat.mul_zero, numeral]

theorem exists_zeros (s : List Char) :
    ∃ zeros, s = (s.reverse.dropWhile (· == '0')).reverse ++ List.replicate zeros '0' := by
  have all_zero : ∀ c ∈ s.reverse.takeWhile (· == '0'), c = '0' := by
    intro c hc
    simpa using List.mem_takeWhile_imp hc
  have parts : s.reverse.takeWhile (· == '0') ++ s.reverse.dropWhile (· == '0') = s.reverse :=
    List.takeWhile_append_dropWhile
  have zeros_eq := List.eq_replicate_of_mem all_zero
  refine ⟨(s.reverse.takeWhile (· == '0')).length, ?_⟩
  calc s = s.reverse.reverse := s.reverse_reverse.symm
    _ = (s.reverse.takeWhile (· == '0') ++ s.reverse.dropWhile (· == '0')).reverse := by rw [parts]
    _ = (s.reverse.dropWhile (· == '0')).reverse ++ (s.reverse.takeWhile (· == '0')).reverse :=
        List.reverse_append
    _ = _ := by rw [zeros_eq, List.reverse_replicate, List.length_replicate]

end Digits

inductive Writes : List Char → ℚ → Prop
  | pointed {whole fraction : List Char} (nonempty : whole ≠ [])
    (digits : AreDigits (whole ++ fraction)) :
      Writes (whole ++ '.' :: fraction) (numeral (whole ++ fraction) *
        10 ^ (-(fraction.length : Int)))
  | scaled {whole : List Char} (exponent : Int) (nonempty : whole ≠ []) (digits : AreDigits whole) :
      Writes (whole ++ 'e' :: exponentText exponent) (numeral whole * 10 ^ exponent)
  | pointedScaled {whole fraction : List Char} (exponent : Int) (nonempty : whole ≠ [])
      (digits : AreDigits (whole ++ fraction)) :
      Writes (whole ++ '.' :: (fraction ++ 'e' :: exponentText exponent))
        (numeral (whole ++ fraction) * 10 ^ (exponent - fraction.length))

def readExponent : List Char → Int
  | 'e' :: '-' :: digits => -(numeral digits : Int)
  | 'e' :: '+' :: digits => numeral digits
  | _ => 0

def readDecimal (s : List Char) : ℚ :=
  match s.dropWhile Char.isDigit with
  | '.' :: rest =>
    numeral (s.takeWhile Char.isDigit ++ rest.takeWhile Char.isDigit) *
      10 ^ (readExponent (rest.dropWhile Char.isDigit) - (rest.takeWhile Char.isDigit).length)
  | rest => numeral (s.takeWhile Char.isDigit) * 10 ^ readExponent rest

theorem readExponent_exponentText (e : Int) : readExponent ('e' :: exponentText e) = e := by
  have value : numeral (if (Nat.toDigits 10 e.natAbs).length < 2 then '0' ::
    Nat.toDigits 10 e.natAbs
      else Nat.toDigits 10 e.natAbs) = e.natAbs := by
    split
    · exact (numeral_zeros_append (n := 1)).trans numeral_toDigits
    · exact numeral_toDigits
  unfold exponentText
  by_cases negative : e < 0
  · simp only [negative, if_true, readExponent, value]
    omega
  · simp only [negative, if_false, readExponent, value]
    omega

theorem takeWhile_digits {s rest : List Char} {c : Char} (digits : AreDigits s)
    (other : c.isDigit = false) :
    (s ++ c :: rest).takeWhile Char.isDigit = s := by
  rw [List.takeWhile_append_of_pos digits, List.takeWhile_cons_of_neg (by simp [other]),
    List.append_nil]

theorem dropWhile_digits {s rest : List Char} {c : Char} (digits : AreDigits s)
    (other : c.isDigit = false) :
    (s ++ c :: rest).dropWhile Char.isDigit = c :: rest := by
  rw [List.dropWhile_append_of_pos digits, List.dropWhile_cons_of_neg (by simp [other])]

theorem Writes.readDecimal_eq {s : List Char} {q : ℚ} (h : Writes s q) : readDecimal s = q := by
  unfold readDecimal
  cases h with
  | @pointed whole fraction _ digits =>
    obtain ⟨digits, more⟩ := areDigits_append.mp digits
    have all : fraction.takeWhile Char.isDigit = fraction := List.takeWhile_eq_self_iff.mpr more
    have none_left : fraction.dropWhile Char.isDigit = [] := List.dropWhile_eq_nil_iff.mpr more
    rw [dropWhile_digits digits rfl, takeWhile_digits digits rfl]
    simp only [all, none_left, readExponent, zero_sub]
  | scaled exponent _ digits =>
    rw [dropWhile_digits digits rfl, takeWhile_digits digits rfl]
    change (numeral _ : ℚ) * 10 ^ readExponent ('e' :: exponentText exponent) = _
    rw [readExponent_exponentText]
  | pointedScaled exponent _ digits =>
    obtain ⟨digits, more⟩ := areDigits_append.mp digits
    rw [dropWhile_digits digits rfl, takeWhile_digits digits rfl]
    simp only [takeWhile_digits more (rfl : 'e'.isDigit = false),
      dropWhile_digits more (rfl : 'e'.isDigit = false),
      readExponent_exponentText]

namespace Digits

variable {d : Digits}

def toRat (d : Digits) : ℚ := numeral d.digits * 10 ^ (d.exponent + 1 - d.digits.length)

/-- Digits with a point behind the first and the next `n` of them. Zeros stand where there are no
digits. -/
def withPoint (ds : List Char) (n : Nat) : List Char :=
  let padded := ds ++ List.replicate (n + 1 - ds.length) '0'
  let after := padded.drop (n + 1)
  padded.take (n + 1) ++ '.' :: if after.isEmpty then ['0'] else after

theorem writes_split {ds : List Char} (n : Nat) (long : n + 1 < ds.length) (digits : AreDigits ds) :
    Writes (withPoint ds n) (numeral ds * 10 ^ ((n : Int) + 1 - ds.length)) := by
  have unpadded : ds ++ List.replicate (n + 1 - ds.length) '0' = ds := by
    rw [Nat.sub_eq_zero_of_le long.le, List.replicate_zero, List.append_nil]
  have more : (ds.drop (n + 1)).isEmpty = false := by
    rw [List.isEmpty_eq_false_iff, Ne, List.drop_eq_nil_iff]
    omega
  have places : (n : Int) + 1 - ds.length = -((ds.drop (n + 1)).length : Int) := by
    rw [List.length_drop]
    omega
  have front_ne : ds.take (n + 1) ≠ [] := by
    rw [Ne, List.take_eq_nil_iff]
    rintro (zero | rfl)
    · omega
    · simp at long
  have whole : Writes (ds.take (n + 1) ++ '.' :: ds.drop (n + 1))
      (numeral (ds.take (n + 1) ++ ds.drop (n + 1)) * 10 ^ (-((ds.drop (n + 1)).length : Int))) :=
    .pointed front_ne (by rwa [List.take_append_drop])
  rw [List.take_append_drop, ← places] at whole
  dsimp only [withPoint]
  rw [unpadded, more, if_neg Bool.false_ne_true]
  exact whole

theorem writes_padded {ds : List Char} (n : Nat) (short : ds.length ≤ n + 1) (nonempty : ds ≠ [])
    (digits : AreDigits ds) :
    Writes (withPoint ds n) (numeral ds * 10 ^ ((n : Int) + 1 - ds.length)) := by
  have length_eq : (ds ++ List.replicate (n + 1 - ds.length) '0').length = n + 1 := by
    rw [List.length_append, List.length_replicate]
    omega
  have value : (numeral (ds ++ List.replicate (n + 1 - ds.length) '0' ++ ['0']) : ℚ) *
      10 ^ (-(['0'].length : Int)) = numeral ds * 10 ^ ((n : Int) + 1 - ds.length) := by
    have filled : numeral (ds ++ List.replicate (n + 1 - ds.length) '0' ++ ['0']) =
        numeral ds * 10 ^ (n + 1 - ds.length) * 10 := by
      rw [← numeral_append_zeros]
      exact numeral_append_zeros (n := 1)
    have places : (n : Int) + 1 - ds.length = ((n + 1 - ds.length : Nat) : Int) := by omega
    rw [filled, places, zpow_natCast]
    push_cast
    simp
  have all_digits : AreDigits (ds ++ List.replicate (n + 1 - ds.length) '0' ++ ['0']) :=
    areDigits_append.mpr ⟨areDigits_append.mpr ⟨digits, areDigits_replicate⟩,
      areDigits_replicate (n := 1)⟩
  have whole : Writes (ds ++ List.replicate (n + 1 - ds.length) '0' ++ '.' :: ['0'])
      (numeral (ds ++ List.replicate (n + 1 - ds.length) '0' ++ ['0']) *
          10 ^ (-(['0'].length : Int))) :=
    .pointed (by simp [nonempty]) all_digits
  rw [value] at whole
  dsimp only [withPoint]
  rw [List.take_of_length_le length_eq.le, List.drop_of_length_le length_eq.le,
    List.isEmpty_nil, if_pos rfl]
  exact whole

theorem writes_text (nonempty : d.digits ≠ []) (digits : AreDigits d.digits) :
    Writes d.text d.toRat := by
  obtain ⟨ds, e⟩ := d
  dsimp only at nonempty digits
  unfold text toRat
  dsimp only
  split
  next far =>
    match ds with
    | [digit] =>
      have eq : (numeral [digit] : ℚ) * 10 ^ (e + 1 - ([digit].length : Int)) =
          numeral [digit] * 10 ^ e := by
        simp
      rw [eq]
      exact .scaled e nonempty digits
    | digit :: next :: more =>
      have eq : (numeral (digit :: next :: more) : ℚ) *
        10 ^ (e + 1 - ((digit :: next :: more).length : Int)) =
          numeral ([digit] ++ next :: more) * 10 ^ (e - ((next :: more).length : Int)) := by
        have places : e + 1 - ((digit :: next :: more).length : Int) = e -
            ((next :: more).length : Int) := by
          simp only [List.length_cons]
          omega
        rw [places]
        rfl
      rw [eq]
      exact .pointedScaled e (List.cons_ne_nil digit []) digits
  next near =>
    split
    next negative =>
      -- a zero before the point, and behind it the zeros up to the first digit
      have value : numeral (['0'] ++ (List.replicate (-e - 1).toNat '0' ++ ds)) = numeral ds :=
        (numeral_zeros_append (n := 1)).trans numeral_zeros_append
      have places : e + 1 - (ds.length : Int) =
          -((List.replicate (-e - 1).toNat '0' ++ ds).length : Int) := by
        rw [List.length_append, List.length_replicate]
        omega
      rw [← value, places]
      exact .pointed (List.cons_ne_nil '0' [])
        (areDigits_append.mpr ⟨areDigits_replicate (n := 1),
          areDigits_append.mpr ⟨areDigits_replicate, digits⟩⟩)
    next nonneg =>
      obtain ⟨n, rfl⟩ := Int.eq_ofNat_of_zero_le (not_lt.mp nonneg)
      rw [Int.toNat_natCast]
      rcases Nat.lt_or_ge (n + 1) ds.length with long | short
      · exact writes_split n long digits
      · exact writes_padded n short nonempty digits

end Digits

section Shortest

variable {significand : Nat} {exponent : Int}

theorem toRat_shortest {count : Nat} {grid : Int}
    (found : (interval significand exponent).search 20
      (decimalBound (interval significand exponent).value
      (interval significand exponent).den) = (count, grid)) :
    (shortest significand exponent).toRat = count * 10 ^ grid ∧
      AreDigits (shortest significand exponent).digits ∧
      (count ≠ 0 → (shortest significand exponent).digits ≠ []) := by
  obtain ⟨zeros, written_eq⟩ := exists_zeros (Nat.toDigits 10 count)
  have shortest_eq : shortest significand exponent =
      { digits := ((Nat.toDigits 10 count).reverse.dropWhile (· == '0')).reverse
        exponent := grid + (Nat.toDigits 10 count).length - 1 } := by
    unfold shortest
    dsimp only
    rw [found]
  rw [shortest_eq, Digits.toRat]
  dsimp only
  generalize ((Nat.toDigits 10 count).reverse.dropWhile (· == '0')).reverse = digits at written_eq ⊢
  have all_digits : AreDigits (Nat.toDigits 10 count) := areDigits_toDigits
  have value : numeral digits * 10 ^ zeros = count := by
    rw [← numeral_append_zeros, ← written_eq, numeral_toDigits]
  refine ⟨?_, ?_, ?_⟩
  · have places : grid + (Nat.toDigits 10 count).length - 1 + 1 - digits.length = zeros + grid := by
      rw [written_eq, List.length_append, List.length_replicate]
      push_cast
      ring
    rw [places, zpow_add₀ (by norm_num), zpow_natCast, ← mul_assoc]
    congr 1
    exact_mod_cast value
  · rw [written_eq] at all_digits
    exact (areDigits_append.mp all_digits).1
  · rintro positive rfl
    exact positive (by rw [← value]; exact Nat.zero_mul _)

end Shortest

def sizeText (significand : Nat) (exponent : Int) : List Char :=
  if significand == 0 then ['0', '.', '0'] else (shortest significand exponent).text

theorem exists_writes_sizeText {significand : Nat} {exponent : Int}
    (valid : IsOfFormat significand exponent) :
    ∃ q, Writes (sizeText significand exponent) q ∧ (interval significand exponent).Contains q := by
  unfold sizeText
  by_cases zero : significand = 0
  · subst zero
    have zero_digits : AreDigits (['0'] ++ ['0']) := areDigits_replicate (n := 2)
    refine ⟨_, .pointed (List.cons_ne_nil '0' []) zero_digits, ?_⟩
    rw [contains_interval_iff, if_pos rfl]
    have none : numeral (['0'] ++ ['0']) = 0 := rfl
    have no_reach : 4 * 0 - reach 0 exponent = 0 := by omega
    rw [none, no_reach]
    constructor
    · simp
    · simp
      positivity
  · rw [if_neg (by simpa using zero)]
    rcases found : (interval significand exponent).search 20
      (decimalBound (interval significand exponent).value
      (interval significand exponent).den) with ⟨count, grid⟩
    have positive := Nat.pos_of_ne_zero zero
    have inside := contains_search positive valid.small found
    have counted : count ≠ 0 := by
      rintro rfl
      rw [← Interval.holds_iff, Interval.not_holds_zero (low_interval_pos positive)] at inside
      cases inside
    obtain ⟨value, digits, nonempty⟩ := toRat_shortest found
    rw [← value] at inside
    exact ⟨_, Digits.writes_text (nonempty counted) digits, inside⟩

theorem sizeText_injective {significand significand' : Nat} {exponent exponent' : Int}
    (valid : IsOfFormat significand exponent) (valid' : IsOfFormat significand' exponent')
    (same : sizeText significand exponent = sizeText significand' exponent') :
    significand = significand' ∧ exponent = exponent' := by
  obtain ⟨q, writes, inside⟩ := exists_writes_sizeText valid
  obtain ⟨q', writes', inside'⟩ := exists_writes_sizeText valid'
  have equal : q = q' := by rw [← writes.readDecimal_eq, ← writes'.readDecimal_eq, same]
  rw [← equal] at inside'
  exact eq_of_contains valid valid' inside inside'

def signed (negative : Bool) (s : List Char) : List Char := (if negative then ['-'] else []) ++ s

def StartsWithDigit (s : List Char) : Prop := ∃ c rest, s = c :: rest ∧ c.isDigit = true

section Signs

variable {s t : List Char} {negative negative' : Bool} {q : ℚ}

theorem AreDigits.startsWithDigit (digits : AreDigits s) (nonempty : s ≠ []) :
    StartsWithDigit s := by
  obtain ⟨c, rest, rfl⟩ := List.exists_cons_of_ne_nil nonempty
  exact ⟨c, rest, rfl, digits c List.mem_cons_self⟩

theorem StartsWithDigit.append (h : StartsWithDigit s) (t : List Char) :
    StartsWithDigit (s ++ t) := by
  obtain ⟨c, rest, rfl, digit⟩ := h
  exact ⟨c, rest ++ t, rfl, digit⟩

theorem Writes.startsWithDigit (h : Writes s q) : StartsWithDigit s := by
  cases h with
  | pointed nonempty digits =>
    exact ((areDigits_append.mp digits).1.startsWithDigit nonempty).append _
  | scaled exponent nonempty digits => exact (digits.startsWithDigit nonempty).append _
  | pointedScaled exponent nonempty digits =>
    exact ((areDigits_append.mp digits).1.startsWithDigit nonempty).append _

theorem signed_injective (hs : StartsWithDigit s) (ht : StartsWithDigit t)
    (same : signed negative s = signed negative' t) : negative = negative' ∧ s = t := by
  obtain ⟨c, rest, rfl, digit⟩ := hs
  obtain ⟨d, rest', rfl, digit'⟩ := ht
  have no_sign : ('-' : Char).isDigit = false := rfl
  cases negative with
  | true =>
    cases negative' with
    | true => exact ⟨rfl, List.tail_eq_of_cons_eq same⟩
    | false =>
      rw [← List.head_eq_of_cons_eq same, no_sign] at digit'
      cases digit'
  | false =>
    cases negative' with
    | true =>
      rw [List.head_eq_of_cons_eq same, no_sign] at digit
      cases digit
    | false => exact ⟨rfl, same⟩

end Signs

def isNumeric (c : Char) : Bool := c.isDigit || ['.', 'e', '+', '-'].contains c

section Characters

variable {s t : List Char} {negative : Bool} {q : ℚ}

theorem AreDigits.isNumeric (digits : AreDigits s) : ∀ c ∈ s, isNumeric c = true := by
  intro c hc
  rw [Binary64.isNumeric, digits c hc, Bool.true_or]

theorem isNumeric_exponentText (e : Int) : ∀ c ∈ exponentText e, isNumeric c = true := by
  have zero_digit : isNumeric '0' = true := rfl
  have digits : ∀ c ∈ Nat.toDigits 10 e.natAbs, isNumeric c = true := areDigits_toDigits.isNumeric
  unfold exponentText
  intro c hc
  rcases List.mem_cons.mp hc with rfl | hc
  · split
    · rfl
    · rfl
  · split at hc
    · rcases List.mem_cons.mp hc with rfl | hc
      · exact zero_digit
      · exact digits c hc
    · exact digits c hc

theorem isNumeric_append : (∀ c ∈ s ++ t, isNumeric c = true) ↔
    (∀ c ∈ s, isNumeric c = true) ∧ ∀ c ∈ t, isNumeric c = true :=
  List.forall_mem_append

theorem isNumeric_cons {c : Char} (first : isNumeric c = true)
    (rest : ∀ d ∈ s, isNumeric d = true) :
    ∀ d ∈ c :: s, isNumeric d = true :=
  List.forall_mem_cons.mpr ⟨first, rest⟩

theorem Writes.isNumeric (h : Writes s q) : ∀ c ∈ s, isNumeric c = true := by
  cases h with
  | pointed _ digits =>
    obtain ⟨digits, more⟩ := areDigits_append.mp digits
    exact isNumeric_append.mpr ⟨digits.isNumeric, isNumeric_cons rfl more.isNumeric⟩
  | scaled exponent _ digits =>
    exact isNumeric_append.mpr ⟨digits.isNumeric,
      isNumeric_cons rfl (isNumeric_exponentText exponent)⟩
  | pointedScaled exponent _ digits =>
    obtain ⟨digits, more⟩ := areDigits_append.mp digits
    exact isNumeric_append.mpr ⟨digits.isNumeric, isNumeric_cons rfl (isNumeric_append.mpr
      ⟨more.isNumeric, isNumeric_cons rfl (isNumeric_exponentText exponent)⟩)⟩

theorem isNumeric_signed (h : ∀ c ∈ s, isNumeric c = true) :
    ∀ c ∈ signed negative s, isNumeric c = true := by
  cases negative with
  | true => exact isNumeric_cons rfl h
  | false => exact h

theorem Writes.not_areDigits (h : Writes s q) : ¬ AreDigits s := by
  intro digits
  cases h with
  | @pointed whole fraction => exact absurd (digits '.' (by simp)) (by decide)
  | @scaled whole => exact absurd (digits 'e' (by simp)) (by decide)
  | @pointedScaled whole fraction => exact absurd (digits '.' (by simp)) (by decide)

end Characters

end SchemaMigration.Binary64
