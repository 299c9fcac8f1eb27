import SchemaMigration.Number.Reading
import SchemaMigration.Proofs.Text.Trimming

namespace SchemaMigration.Number

open Json (isDigit)

inductive Continues : List Char → Prop
  | nil : Continues []
  | digit {c : Char} {s : List Char} (is_digit : isDigit c = true) (more : Continues s) :
    Continues (c :: s)
  | group {c : Char} {s : List Char} (is_digit : isDigit c = true) (more : Continues s) :
    Continues ('_' :: c :: s)

inductive IsRow : List Char → Prop
  | intro {c : Char} {s : List Char} (is_digit : isDigit c = true) (more : Continues s) :
    IsRow (c :: s)

def ungrouped (s : List Char) : List Char := s.filter (· != '_')

def IsSign (s : List Char) : Prop := s = [] ∨ s = ['-'] ∨ s = ['+']

def IsOptionalRow (s : List Char) : Prop := s = [] ∨ IsRow s

inductive IsWhole : List Char → Prop
  | intro {front row : List Char} (is_sign : IsSign front) (is_row : IsRow row)
      (few : (ungrouped row).length ≤ Json.greatestLength) : IsWhole (front ++ row)

inductive IsExponent : List Char → Prop
  | none : IsExponent []
  | some {letter : Char} {front row : List Char} (is_letter : letter = 'e' ∨ letter = 'E')
    (is_sign : IsSign front)
      (is_row : IsRow row) : IsExponent (letter :: (front ++ row))

inductive IsPointed : List Char → Prop
  | intro {front whole fraction exponent : List Char} (is_sign : IsSign front)
    (is_whole : IsOptionalRow whole)
      (is_fraction : IsOptionalRow fraction) (some_digit : whole ++ fraction ≠ [])
        (is_exponent : IsExponent exponent) :
      IsPointed (front ++ (whole ++ '.' :: (fraction ++ exponent)))

def Frames (s core : List Char) : Prop :=
  ∃ before after, (∀ c ∈ before, isMargin c = true) ∧ (∀ c ∈ after, isMargin c = true) ∧
    s.map plainDigit = before ++ core ++ after

def WritesNumber (s : List Char) : Prop := ∃ core, Frames s core ∧ (IsWhole core ∨ IsPointed core)

variable {c x : Char} {b : Bool} {s t u digits front row rest : List Char}

theorem isMargin_of_isDigit (digit : isDigit c = true) : isMargin c = false := by
  simp only [isDigit, Bool.and_eq_true, decide_eq_true_eq, Char.le_def, UInt32.le_iff_toNat_le,
    Char.toNat_val, Char.reduceToNat] at digit
  simp only [isMargin, Text.isBlank, Bool.and_eq_false_iff, Bool.or_eq_false_iff,
    decide_eq_false_iff_not, beq_eq_false_iff_ne]
  omega

theorem plainDigit_eq_self_or (c : Char) :
    plainDigit c = c ∨ isDigit (plainDigit c) = true ∧ isMargin c = false := by
  unfold plainDigit
  split
  · exact .inl rfl
  · split
    next start found =>
      refine .inr ?_
      obtain ⟨start_le, lt_end⟩ : start ≤ c.toNat ∧ c.toNat < start + 10 := by
        simpa using List.find?_some found
      constructor
      · have digits : ∀ n < 10, isDigit (Char.ofNat (0x30 + n)) = true := by decide
        exact digits _ (by omega)
      · have apart : ∀ first ∈ Text.decimalZeros, 0x20 < first ∧ first + 10 ≤ 0x85 ∨ 0xA0 < first ∧
          first + 10 ≤ 0x1680 ∨
            0x1680 < first ∧ first + 10 ≤ 0x2000 ∨ 0x205F < first ∧ first + 10 ≤ 0x3000 ∨
              0x3000 < first := by decide
        have between := apart start (List.mem_of_find?_eq_some found)
        simp only [isMargin, Text.isBlank, Bool.and_eq_false_iff, Bool.or_eq_false_iff,
          decide_eq_false_iff_not, beq_eq_false_iff_ne]
        omega
    next => exact .inl rfl

theorem isMargin_plainDigit (c : Char) : isMargin (plainDigit c) = isMargin c := by
  rcases plainDigit_eq_self_or c with same | ⟨digit, other⟩
  · rw [same]
  · rw [isMargin_of_isDigit digit, other]

theorem eq_point_of_plainDigit (point : plainDigit c = '.') : c = '.' := by
  rcases plainDigit_eq_self_or c with same | ⟨digit, -⟩
  · rw [← same, point]
  · rw [point] at digit
    cases digit

theorem ungroup?_cons (other : c ≠ '_') :
    ungroup? b (c :: rest) = (ungroup? (isDigit c) rest).map (c :: ·) := by
  rw [ungroup?.eq_def]
  split <;> simp_all

theorem ungroup?_underscore : ungroup? b ('_' :: c :: rest) =
    if b && isDigit c then (ungroup? true rest).map (c :: ·) else none := by
  rw [ungroup?]

theorem ne_underscore_of_isDigit (digit : isDigit c = true) : c ≠ '_' := by
  rintro rfl
  cases digit

theorem ungrouped_cons (other : c ≠ '_') : ungrouped (c :: s) = c :: ungrouped s :=
  List.filter_cons_of_pos (by simpa using other)

@[simp] theorem ungrouped_underscore : ungrouped ('_' :: s) = ungrouped s := rfl

theorem eq_cons_of_ungroup? (found : ungroup? b t = some (x :: u)) :
    (∃ rest, t = x :: rest ∧ x ≠ '_' ∧ ungroup? (isDigit x) rest = some u) ∨
    (∃ rest, t = '_' :: x :: rest ∧ b = true ∧ isDigit x = true ∧ ungroup? true rest = some u) := by
  rw [ungroup?.eq_def] at found
  split at found
  next => cases found
  next c rest =>
    split at found
    next inside =>
      obtain ⟨v, rest_eq, cons_eq⟩ := Option.map_eq_some_iff.mp found
      obtain ⟨rfl, rfl⟩ := List.cons.inj cons_eq
      obtain ⟨after, digit⟩ := Bool.and_eq_true_iff.mp inside
      exact .inr ⟨rest, rfl, after, digit, rest_eq⟩
    next => cases found
  next => cases found
  next c rest no_group no_end =>
    obtain ⟨v, rest_eq, cons_eq⟩ := Option.map_eq_some_iff.mp found
    obtain ⟨rfl, rfl⟩ := List.cons.inj cons_eq
    refine .inl ⟨rest, rfl, fun underscore => ?_, rest_eq⟩
    cases rest with
    | nil => exact no_end underscore rfl
    | cons d rest => exact no_group d rest underscore rfl

theorem eq_nil_of_ungroup? (found : ungroup? b t = some []) : t = [] := by
  rw [ungroup?.eq_def] at found
  split at found
  next => rfl
  next =>
    split at found
    · simp at found
    · cases found
  next => cases found
  next => simp at found

theorem ungrouped_of_ungroup? (found : ungroup? b t = some u) : u = ungrouped t := by
  induction u generalizing t b with
  | nil =>
    rw [eq_nil_of_ungroup? found]
    rfl
  | cons x u ih =>
    obtain ⟨rest, rfl, other, found_rest⟩ | ⟨rest, rfl, -, digit, found_rest⟩ :=
      eq_cons_of_ungroup? found
    · rw [ih found_rest, ungrouped_cons other]
    · rw [ih found_rest, ungrouped_underscore, ungrouped_cons (ne_underscore_of_isDigit digit)]

theorem ungroup?_append_of_continues (continues : Continues s) :
    ungroup? true (s ++ t) = (ungroup? true t).map (ungrouped s ++ ·) := by
  induction continues with
  | nil => simp [ungrouped]
  | @digit c s is_digit more ih =>
    have other := ne_underscore_of_isDigit is_digit
    rw [List.cons_append, ungroup?_cons other, is_digit, ih, Option.map_map]
    simp [ungrouped_cons other, Function.comp_def]
  | @group c s is_digit more ih =>
    have other := ne_underscore_of_isDigit is_digit
    rw [List.cons_append, List.cons_append, ungroup?_underscore, is_digit, Bool.and_self,
      if_pos rfl, ih, Option.map_map]
    simp [ungrouped_cons other, Function.comp_def]

theorem ungroup?_append_of_isRow (is_row : IsRow row) :
    ungroup? b (row ++ t) = (ungroup? true t).map (ungrouped row ++ ·) := by
  obtain @⟨c, s, is_digit, more⟩ := is_row
  have other := ne_underscore_of_isDigit is_digit
  rw [List.cons_append, ungroup?_cons other, is_digit, ungroup?_append_of_continues more,
    Option.map_map]
  simp [ungrouped_cons other, Function.comp_def]

theorem exists_continues (all_digits : ∀ c ∈ digits, isDigit c = true)
    (found : ungroup? true t = some (digits ++ u)) :
    ∃ s rest, t = s ++ rest ∧ Continues s ∧ ungrouped s = digits ∧ ungroup? true rest = some u := by
  induction digits generalizing t with
  | nil => exact ⟨[], t, rfl, .nil, rfl, found⟩
  | cons x digits ih =>
    obtain ⟨digit, more_digits⟩ := List.forall_mem_cons.mp all_digits
    have other := ne_underscore_of_isDigit digit
    obtain ⟨rest, rfl, -, found_rest⟩ | ⟨rest, rfl, -, -, found_rest⟩ := eq_cons_of_ungroup? found
    · rw [digit] at found_rest
      obtain ⟨s, later, rfl, more, rfl, found_later⟩ := ih more_digits found_rest
      exact ⟨x :: s, later, rfl, .digit digit more, by simp [ungrouped_cons other], found_later⟩
    · obtain ⟨s, later, rfl, more, rfl, found_later⟩ := ih more_digits found_rest
      exact ⟨'_' :: x :: s, later, rfl, .group digit more,
        by simp [ungrouped_cons other], found_later⟩

theorem exists_isRow (all_digits : ∀ c ∈ digits, isDigit c = true) (some_digit : digits ≠ [])
    (found : ungroup? false t = some (digits ++ u)) :
    ∃ row rest, t = row ++ rest ∧ IsRow row ∧ ungrouped row = digits ∧
      ungroup? true rest = some u := by
  obtain ⟨x, digits, rfl⟩ := List.exists_cons_of_ne_nil some_digit
  obtain ⟨digit, more_digits⟩ := List.forall_mem_cons.mp all_digits
  obtain ⟨rest, rfl, -, found_rest⟩ | ⟨rest, rfl, after, -⟩ := eq_cons_of_ungroup? found
  · rw [digit] at found_rest
    obtain ⟨s, later, rfl, more, rfl, found_later⟩ := exists_continues more_digits found_rest
    exact ⟨x :: s, later, rfl, .intro digit more,
      by rw [ungrouped_cons (ne_underscore_of_isDigit digit)], found_later⟩
  · cases after

theorem ungroup?_of_head? (starts : t.head? ≠ some '_') : ungroup? b t = ungroup? false t := by
  cases t with
  | nil => rfl
  | cons c rest =>
    have other : c ≠ '_' := fun same => starts (congrArg some same)
    rw [ungroup?_cons other, ungroup?_cons other]

theorem ungroup?_append_of_isOptionalRow (is_row : IsOptionalRow row)
    (starts : t.head? ≠ some '_') :
    ungroup? false (row ++ t) = (ungroup? false t).map (ungrouped row ++ ·) := by
  rcases is_row with rfl | is_row
  · simp [ungrouped]
  · rw [ungroup?_append_of_isRow is_row, ungroup?_of_head? starts]

theorem exists_isOptionalRow (all_digits : ∀ c ∈ digits, isDigit c = true)
    (found : ungroup? false t = some (digits ++ u)) :
    ∃ row rest b, t = row ++ rest ∧ IsOptionalRow row ∧ ungrouped row = digits ∧
      ungroup? b rest = some u := by
  by_cases none : digits = []
  · subst none
    exact ⟨[], t, false, rfl, .inl rfl, rfl, found⟩
  · obtain ⟨row, rest, t_eq, is_row, row_eq, found_rest⟩ := exists_isRow all_digits none found
    exact ⟨row, rest, true, t_eq, .inr is_row, row_eq, found_rest⟩

theorem ungroup?_append_of_isSign (is_sign : IsSign front) :
    ungroup? false (front ++ t) = (ungroup? false t).map (front ++ ·) := by
  rcases is_sign with rfl | rfl | rfl
  · simp
  · exact ungroup?_cons (by decide)
  · exact ungroup?_cons (by decide)

theorem eq_append_of_isSign (is_sign : IsSign front)
    (found : ungroup? false t = some (front ++ u)) :
    ∃ rest, t = front ++ rest ∧ ungroup? false rest = some u := by
  rcases is_sign with rfl | rfl | rfl
  · exact ⟨t, rfl, found⟩
  all_goals
    obtain ⟨rest, rfl, -, found_rest⟩ | ⟨rest, -, after, -⟩ := eq_cons_of_ungroup? found
    · exact ⟨rest, rfl, found_rest⟩
    · cases after

theorem exists_signedRow (is_sign : IsSign front) (all_digits : ∀ c ∈ digits, isDigit c = true)
    (some_digit : digits ≠ []) (found : ungroup? false t = some (front ++ digits)) :
    ∃ row, t = front ++ row ∧ IsRow row ∧ ungrouped row = digits := by
  obtain ⟨rest, rfl, found_rest⟩ := eq_append_of_isSign is_sign found
  rw [← List.append_nil digits] at found_rest
  obtain ⟨row, last, rfl, is_row, row_eq, found_last⟩ :=
    exists_isRow all_digits some_digit found_rest
  obtain rfl := eq_nil_of_ungroup? found_last
  exact ⟨row, by rw [List.append_nil], is_row, row_eq⟩

theorem ungroup?_signedRow (is_sign : IsSign front) (is_row : IsRow row) :
    ungroup? false (front ++ row) = some (front ++ ungrouped row) := by
  have read : ungroup? false (row ++ []) = some (ungrouped row ++ []) :=
    ungroup?_append_of_isRow is_row
  rw [List.append_nil, List.append_nil] at read
  rw [ungroup?_append_of_isSign is_sign, read]
  rfl

theorem exists_sign (u : List Char) : ∃ front, IsSign front ∧ u = front ++ (sign u).2 := by
  unfold sign
  split
  · exact ⟨['-'], .inr (.inl rfl), rfl⟩
  · exact ⟨['+'], .inr (.inr rfl), rfl⟩
  · exact ⟨[], .inl rfl, rfl⟩

theorem sign_append (is_sign : IsSign front) (unsigned : s.head? ≠ some '-' ∧ s.head? ≠ some '+') :
    (sign (front ++ s)).2 = s := by
  rcases is_sign with rfl | rfl | rfl
  · rw [List.nil_append, sign.eq_def]
    split <;> simp_all
  · rfl
  · rfl

theorem unsigned_of_digits (all_digits : ∀ c ∈ digits, isDigit c = true) :
    digits.head? ≠ some '-' ∧ digits.head? ≠ some '+' := by
  constructor
  all_goals
    intro first
    have digit := all_digits _ (List.mem_of_mem_head? first)
    cases digit

theorem Continues.isDigit_of_mem (continues : Continues s) :
    ∀ c ∈ ungrouped s, isDigit c = true := by
  induction continues with
  | nil => exact nofun
  | digit is_digit more ih =>
    rw [ungrouped_cons (ne_underscore_of_isDigit is_digit)]
    exact List.forall_mem_cons.mpr ⟨is_digit, ih⟩
  | group is_digit more ih =>
    rw [ungrouped_underscore, ungrouped_cons (ne_underscore_of_isDigit is_digit)]
    exact List.forall_mem_cons.mpr ⟨is_digit, ih⟩

theorem IsRow.ungrouped_eq (is_row : IsRow row) :
    ungrouped row ≠ [] ∧ ∀ c ∈ ungrouped row, isDigit c = true := by
  obtain @⟨c, s, is_digit, more⟩ := is_row
  rw [ungrouped_cons (ne_underscore_of_isDigit is_digit)]
  exact ⟨List.cons_ne_nil _ _, List.forall_mem_cons.mpr ⟨is_digit, more.isDigit_of_mem⟩⟩

theorem IsOptionalRow.isDigit_of_mem (is_row : IsOptionalRow row) :
    ∀ c ∈ ungrouped row, isDigit c = true := by
  rcases is_row with rfl | is_row
  · exact nofun
  · exact is_row.ungrouped_eq.2

theorem IsOptionalRow.ungrouped_eq_nil_iff (is_row : IsOptionalRow row) :
    ungrouped row = [] ↔ row = [] := by
  rcases is_row with rfl | is_row
  · exact iff_of_true rfl rfl
  · refine iff_of_false is_row.ungrouped_eq.1 ?_
    rintro rfl
    cases is_row

theorem wholeOf?_isSome_iff : (wholeOf? u).isSome = true ↔ ∃ front digits, IsSign front ∧
    u = front ++ digits ∧
    digits ≠ [] ∧ (∀ c ∈ digits, isDigit c = true) ∧ digits.length ≤ Json.greatestLength := by
  have accepted : (wholeOf? u).isSome = true ↔ (sign u).2 ≠ [] ∧
    (∀ c ∈ (sign u).2, isDigit c = true) ∧
      (sign u).2.length ≤ Json.greatestLength := by
    unfold wholeOf?
    split
    simp_all [and_assoc]
  rw [accepted]
  constructor
  · intro conditions
    obtain ⟨front, is_sign, u_eq⟩ := exists_sign u
    exact ⟨front, _, is_sign, u_eq, conditions⟩
  · rintro ⟨front, digits, is_sign, rfl, some_digit, all_digits, few⟩
    rw [sign_append is_sign (unsigned_of_digits all_digits)]
    exact ⟨some_digit, all_digits, few⟩

theorem isWhole_iff : (∃ u, ungroup? false t = some u ∧ (wholeOf? u).isSome = true) ↔
    IsWhole t := by
  constructor
  · rintro ⟨u, found, whole⟩
    obtain ⟨front, digits, is_sign, rfl, some_digit, all_digits, few⟩ :=
      wholeOf?_isSome_iff.mp whole
    obtain ⟨row, rfl, is_row, rfl⟩ := exists_signedRow is_sign all_digits some_digit found
    exact .intro is_sign is_row few
  · rintro @⟨front, row, is_sign, is_row, few⟩
    exact ⟨_, ungroup?_signedRow is_sign is_row, wholeOf?_isSome_iff.mpr
      ⟨front, ungrouped row, is_sign, rfl, is_row.ungrouped_eq.1, is_row.ungrouped_eq.2, few⟩⟩

theorem exponentOf?_isSome_iff : (exponentOf? u).isSome = true ↔ u = [] ∨ ∃ letter front digits,
    (letter = 'e' ∨ letter = 'E') ∧ IsSign front ∧ u = letter :: (front ++ digits) ∧ digits ≠ [] ∧
    ∀ c ∈ digits, isDigit c = true := by
  cases u with
  | nil => simp [exponentOf?]
  | cons letter rest =>
    have accepted : (exponentOf? (letter :: rest)).isSome = true ↔
        (letter = 'e' ∨ letter = 'E') ∧ (sign rest).2 ≠ [] ∧ ∀ c ∈ (sign rest).2,
            isDigit c = true := by
      unfold exponentOf?
      by_cases is_letter : letter = 'e' ∨ letter = 'E'
      · split <;> simp_all
      · split <;> simp_all
    rw [accepted]
    constructor
    · rintro ⟨is_letter, conditions⟩
      obtain ⟨front, is_sign, rest_eq⟩ := exists_sign rest
      exact .inr ⟨letter, front, _, is_letter, is_sign, congrArg (letter :: ·) rest_eq, conditions⟩
    · rintro (none | ⟨letter, front, digits, is_letter, is_sign, u_eq, some_digit, all_digits⟩)
      · cases none
      · obtain ⟨rfl, rfl⟩ := List.cons.inj u_eq
        rw [sign_append is_sign (unsigned_of_digits all_digits)]
        exact ⟨is_letter, some_digit, all_digits⟩

theorem head?_of_exponentOf? (is_exponent : (exponentOf? u).isSome = true) :
    ∀ c ∈ u.head?, c = 'e' ∨ c = 'E' := by
  obtain rfl | ⟨letter, front, digits, is_letter, -, rfl, -⟩ :=
    exponentOf?_isSome_iff.mp is_exponent
  · exact nofun
  · rintro c ⟨⟩
    exact is_letter

theorem pointedOf?_of_point {more : List Char}
    (behind : (sign u).2.dropWhile isDigit = '.' :: more) :
    (pointedOf? u).isSome = true ↔ (sign u).2.takeWhile isDigit ++ more.takeWhile isDigit ≠ [] ∧
      (exponentOf? (more.dropWhile isDigit)).isSome = true := by
  unfold pointedOf?
  by_cases none : (sign u).2.takeWhile isDigit ++ more.takeWhile isDigit = []
  · simp_all
  · cases exponent : exponentOf? (more.dropWhile isDigit) <;> simp_all

theorem exponentOf?_of_pointedOf? (no_point : ∀ more, (sign u).2.dropWhile isDigit ≠ '.' :: more)
    (pointed : (pointedOf? u).isSome = true) :
    (exponentOf? ((sign u).2.dropWhile isDigit)).isSome = true := by
  unfold pointedOf? at pointed
  cases behind : (sign u).2.dropWhile isDigit with
  | nil => rfl
  | cons c rest =>
    have other : c ≠ '.' := fun same => no_point rest (same ▸ behind)
    cases exponent : exponentOf? (c :: rest) <;> simp_all

theorem no_point_of_isSign (is_sign : IsSign front) : '.' ∉ front := by
  rcases is_sign with rfl | rfl | rfl <;> decide

theorem no_point_of_digits (all_digits : ∀ c ∈ digits, isDigit c = true) :
    '.' ∉ digits := fun point => by
  have digit := all_digits _ point
  cases digit

theorem no_point_of_exponentOf? (is_exponent : (exponentOf? u).isSome = true) : '.' ∉ u := by
  obtain rfl | ⟨letter, front, digits, is_letter, is_sign, rfl, -, all_digits⟩ :=
    exponentOf?_isSome_iff.mp is_exponent
  · exact List.not_mem_nil
  · have other : '.' ≠ letter := by rcases is_letter with rfl | rfl <;> decide
    simp [other, no_point_of_isSign is_sign, no_point_of_digits all_digits]

theorem takeWhile_append (all_digits : ∀ c ∈ digits, isDigit c = true)
    (ends : ∀ c ∈ rest.head?, isDigit c = false) :
    (digits ++ rest).takeWhile isDigit = digits ∧ (digits ++ rest).dropWhile isDigit = rest := by
  rw [List.takeWhile_append_of_pos all_digits, List.dropWhile_append_of_pos all_digits]
  cases rest with
  | nil => simp
  | cons c rest => simp [ends c rfl]

theorem sign_append_point (is_sign : IsSign front) (all_digits : ∀ c ∈ digits, isDigit c = true) :
    (sign (front ++ (digits ++ '.' :: rest))).2 = digits ++ '.' :: rest := by
  refine sign_append is_sign ?_
  cases digits with
  | nil => exact ⟨by simp, by simp⟩
  | cons c digits => simpa using unsigned_of_digits all_digits

theorem pointedOf?_isSome_iff (point : '.' ∈ u) : (pointedOf? u).isSome = true ↔
    ∃ front whole fraction exponent, IsSign front ∧ u = front ++
      (whole ++ '.' :: (fraction ++ exponent)) ∧
      (∀ c ∈ whole, isDigit c = true) ∧ (∀ c ∈ fraction, isDigit c = true) ∧
        whole ++ fraction ≠ [] ∧
      (exponentOf? exponent).isSome = true := by
  constructor
  · intro pointed
    obtain ⟨front, is_sign, u_eq⟩ := exists_sign u
    by_cases has_point : ∃ more, (sign u).2.dropWhile isDigit = '.' :: more
    · obtain ⟨more, behind⟩ := has_point
      obtain ⟨some_digit, is_exponent⟩ := (pointedOf?_of_point behind).mp pointed
      refine ⟨front, _, _, _, is_sign, ?_, fun c => List.mem_takeWhile_imp,
        fun c => List.mem_takeWhile_imp, some_digit, is_exponent⟩
      rw [List.takeWhile_append_dropWhile, ← behind, List.takeWhile_append_dropWhile]
      exact u_eq
    · have is_exponent := exponentOf?_of_pointedOf? (not_exists.mp has_point) pointed
      rw [u_eq, ← List.takeWhile_append_dropWhile (p := isDigit) (l := (sign u).2), List.mem_append,
        List.mem_append]
        at point
      rcases point with in_sign | in_whole | in_exponent
      · exact absurd in_sign (no_point_of_isSign is_sign)
      · exact absurd in_whole (no_point_of_digits fun c => List.mem_takeWhile_imp)
      · exact absurd in_exponent (no_point_of_exponentOf? is_exponent)
  · rintro ⟨front, whole, fraction, exponent, is_sign, rfl, whole_digits, fraction_digits,
      some_digit, is_exponent⟩
    have unsigned : (sign (front ++ (whole ++ '.' :: (fraction ++ exponent)))).2 =
        whole ++ '.' :: (fraction ++ exponent) := sign_append_point is_sign whole_digits
    have ends : ∀ c ∈ ('.' :: (fraction ++ exponent)).head?, isDigit c = false := by
      rintro c ⟨⟩
      rfl
    obtain ⟨whole_eq, behind⟩ := takeWhile_append whole_digits ends
    obtain ⟨fraction_eq, last⟩ := takeWhile_append fraction_digits fun c first => by
      rcases head?_of_exponentOf? is_exponent c first with rfl | rfl <;> rfl
    rw [← unsigned] at behind
    rw [pointedOf?_of_point behind, unsigned, whole_eq, fraction_eq, last]
    exact ⟨some_digit, is_exponent⟩

theorem isExponent_iff : (∃ u, ungroup? b t = some u ∧ (exponentOf? u).isSome = true) ↔
    IsExponent t := by
  constructor
  · rintro ⟨u, found, is_exponent⟩
    obtain rfl | ⟨letter, front, digits, is_letter, is_sign, rfl, some_digit, all_digits⟩ :=
      exponentOf?_isSome_iff.mp is_exponent
    · rw [eq_nil_of_ungroup? found]
      exact .none
    · have no_digit : isDigit letter = false := by rcases is_letter with rfl | rfl <;> rfl
      obtain ⟨rest, rfl, -, found_rest⟩ | ⟨rest, -, -, digit, -⟩ := eq_cons_of_ungroup? found
      · rw [no_digit] at found_rest
        obtain ⟨row, rfl, is_row, -⟩ := exists_signedRow is_sign all_digits some_digit found_rest
        exact .some is_letter is_sign is_row
      · exact absurd (no_digit.symm.trans digit) Bool.false_ne_true
  · rintro (_ | @⟨letter, front, row, is_letter, is_sign, is_row⟩)
    · exact ⟨[], rfl, rfl⟩
    · have no_digit : isDigit letter = false := by rcases is_letter with rfl | rfl <;> rfl
      have other : letter ≠ '_' := by rcases is_letter with rfl | rfl <;> decide
      refine ⟨letter :: (front ++ ungrouped row), ?_, exponentOf?_isSome_iff.mpr
        (.inr ⟨letter, front, _, is_letter, is_sign, rfl, is_row.ungrouped_eq⟩)⟩
      rw [ungroup?_cons other, no_digit, ungroup?_signedRow is_sign is_row]
      rfl

theorem isPointed_iff : (∃ u, ungroup? false t = some u ∧ '.' ∈ u ∧ (pointedOf? u).isSome = true) ↔
    IsPointed t := by
  constructor
  · rintro ⟨u, found, point, pointed⟩
    obtain ⟨front, whole, fraction, exponent, is_sign, rfl, whole_digits, fraction_digits,
        some_digit, is_exponent⟩ :=
      (pointedOf?_isSome_iff point).mp pointed
    obtain ⟨body, rfl, found_body⟩ := eq_append_of_isSign is_sign found
    obtain ⟨whole_row, behind, b, rfl, is_whole, rfl, found_behind⟩ :=
      exists_isOptionalRow whole_digits found_body
    obtain ⟨more, rfl, -, found_more⟩ | ⟨more, -, -, digit, -⟩ := eq_cons_of_ungroup? found_behind
    · obtain ⟨fraction_row, last, b, rfl, is_fraction, rfl, found_last⟩ :=
        exists_isOptionalRow fraction_digits found_more
      refine .intro is_sign is_whole is_fraction (fun none => some_digit ?_)
        (isExponent_iff.mp ⟨_, found_last, is_exponent⟩)
      obtain ⟨rfl, rfl⟩ := List.append_eq_nil_iff.mp none
      rfl
    · cases digit
  · rintro @⟨front, whole, fraction, exponent, is_sign, is_whole, is_fraction,
      some_digit, is_exponent⟩
    obtain ⟨read, found, exponent_read⟩ := (isExponent_iff (b := false)).mpr is_exponent
    have starts : exponent.head? ≠ some '_' := by
      rcases is_exponent with _ | ⟨is_letter, -, -⟩
      · exact nofun
      · rcases is_letter with rfl | rfl <;> exact nofun
    have point : '.' ∈ front ++ (ungrouped whole ++ '.' :: (ungrouped fraction ++ read)) := by simp
    refine ⟨_, ?_, point, (pointedOf?_isSome_iff point).mpr
      ⟨front, ungrouped whole, ungrouped fraction, read, is_sign, rfl,
      is_whole.isDigit_of_mem, is_fraction.isDigit_of_mem, fun none =>
        some_digit ?_, exponent_read⟩⟩
    · rw [ungroup?_append_of_isSign is_sign, ungroup?_append_of_isOptionalRow is_whole (by simp),
        ungroup?_cons (by decide), show isDigit '.' = false from rfl,
        ungroup?_append_of_isOptionalRow is_fraction starts, found]
      rfl
    · obtain ⟨no_whole, no_fraction⟩ := List.append_eq_nil_iff.mp none
      rw [is_whole.ungrouped_eq_nil_iff.mp no_whole,
        is_fraction.ungrouped_eq_nil_iff.mp no_fraction]
      rfl

def isNumberChar (c : Char) : Bool := isDigit c || ['_', '.', '-', '+', 'e', 'E'].contains c

theorem isNumberChar_of_isDigit (digit : isDigit c = true) : isNumberChar c = true := by
  rw [isNumberChar, digit, Bool.true_or]

theorem isMargin_of_isNumberChar (inner : isNumberChar c = true) : isMargin c = false := by
  rcases Bool.or_eq_true_iff.mp inner with digit | other
  · exact isMargin_of_isDigit digit
  · simp only [List.contains_iff_mem, List.mem_cons, List.not_mem_nil, or_false] at other
    rcases other with rfl | rfl | rfl | rfl | rfl | rfl <;> rfl

theorem Continues.isNumberChar_of_mem (continues : Continues s) :
    ∀ c ∈ s, isNumberChar c = true := by
  induction continues with
  | nil => exact nofun
  | digit is_digit more ih => exact List.forall_mem_cons.mpr ⟨isNumberChar_of_isDigit is_digit, ih⟩
  | group is_digit more ih =>
    exact List.forall_mem_cons.mpr ⟨rfl,
      List.forall_mem_cons.mpr ⟨isNumberChar_of_isDigit is_digit, ih⟩⟩

theorem IsRow.isNumberChar_of_mem (is_row : IsRow row) : ∀ c ∈ row, isNumberChar c = true := by
  obtain @⟨c, s, is_digit, more⟩ := is_row
  exact List.forall_mem_cons.mpr ⟨isNumberChar_of_isDigit is_digit, more.isNumberChar_of_mem⟩

theorem IsOptionalRow.isNumberChar_of_mem (is_row : IsOptionalRow row) :
    ∀ c ∈ row, isNumberChar c = true := by
  rcases is_row with rfl | is_row
  · exact nofun
  · exact is_row.isNumberChar_of_mem

theorem isNumberChar_of_isSign (is_sign : IsSign front) : ∀ c ∈ front, isNumberChar c = true := by
  rcases is_sign with rfl | rfl | rfl
  · exact nofun
  · exact List.forall_mem_singleton.mpr rfl
  · exact List.forall_mem_singleton.mpr rfl

theorem isNumberChar_of_isExponent (is_exponent : IsExponent s) :
    ∀ c ∈ s, isNumberChar c = true := by
  rcases is_exponent with _ | ⟨is_letter, is_sign, is_row⟩
  · exact nofun
  · refine List.forall_mem_cons.mpr
      ⟨?_, List.forall_mem_append.mpr ⟨isNumberChar_of_isSign is_sign, is_row.isNumberChar_of_mem⟩⟩
    rcases is_letter with rfl | rfl <;> rfl

theorem IsWhole.isNumberChar_of_mem (is_whole : IsWhole s) :
    s ≠ [] ∧ ∀ c ∈ s, isNumberChar c = true := by
  obtain @⟨front, row, is_sign, is_row, few⟩ := is_whole
  refine ⟨fun none => ?_, List.forall_mem_append.mpr
    ⟨isNumberChar_of_isSign is_sign, is_row.isNumberChar_of_mem⟩⟩
  obtain ⟨rfl, rfl⟩ := List.append_eq_nil_iff.mp none
  cases is_row

theorem IsPointed.isNumberChar_of_mem (is_pointed : IsPointed s) :
    s ≠ [] ∧ ∀ c ∈ s, isNumberChar c = true := by
  obtain ⟨is_sign, is_whole, is_fraction, some_digit, is_exponent⟩ := is_pointed
  refine ⟨by simp, List.forall_mem_append.mpr ⟨isNumberChar_of_isSign is_sign,
    List.forall_mem_append.mpr
    ⟨is_whole.isNumberChar_of_mem, List.forall_mem_cons.mpr ⟨rfl, List.forall_mem_append.mpr
      ⟨is_fraction.isNumberChar_of_mem, isNumberChar_of_isExponent is_exponent⟩⟩⟩⟩⟩

theorem map_trimMargins (s : List Char) :
    (trimMargins s).map plainDigit = trimMargins (s.map plainDigit) := by
  have margins : isMargin ∘ plainDigit = isMargin := funext isMargin_plainDigit
  simp only [trimMargins, ← List.map_reverse, List.dropWhile_map, margins]

theorem frames_trimMargins (s : List Char) : Frames s ((trimMargins s).map plainDigit) := by
  rw [map_trimMargins]
  exact Text.exists_ends isMargin (s.map plainDigit)

theorem Frames.map_trimMargins_eq {core : List Char} (frames : Frames s core)
    (inner : core ≠ [] ∧ ∀ c ∈ core, isNumberChar c = true) :
    (trimMargins s).map plainDigit = core := by
  obtain ⟨before, after, margin_before, margin_after, whole⟩ := frames
  obtain ⟨c, rest, rfl⟩ := List.exists_cons_of_ne_nil inner.1
  rw [map_trimMargins, whole, trimMargins]
  exact Text.dropWhile_ends margin_before margin_after
    ⟨c, rfl, isMargin_of_isNumberChar (inner.2 c List.mem_cons_self)⟩ fun d last =>
      isMargin_of_isNumberChar (inner.2 d (List.mem_of_mem_getLast? last))

theorem ofWhole?_isSome_iff (s : String) :
    (ofWhole? s).isSome = true ↔ ∃ core, Frames s.toList core ∧ IsWhole core := by
  have read : (ofWhole? s).isSome = true ↔ IsWhole ((trimMargins s.toList).map plainDigit) := by
    rw [← isWhole_iff, ofWhole?, plain?]
    cases ungroup? false ((trimMargins s.toList).map plainDigit) <;> simp
  rw [read]
  refine ⟨fun whole => ⟨_, frames_trimMargins _, whole⟩, ?_⟩
  rintro ⟨core, frames, whole⟩
  rwa [frames.map_trimMargins_eq whole.isNumberChar_of_mem]

theorem point_mem_iff {core : List Char} (frames : Frames s core) : '.' ∈ s ↔ '.' ∈ core := by
  obtain ⟨before, after, margin_before, margin_after, whole⟩ := frames
  have same : '.' ∈ s ↔ '.' ∈ s.map plainDigit := by
    refine ⟨fun point => List.mem_map.mpr ⟨'.', point, rfl⟩, fun point => ?_⟩
    obtain ⟨c, hc, plain⟩ := List.mem_map.mp point
    rwa [← eq_point_of_plainDigit plain]
  have outside {t : List Char} (margins : ∀ c ∈ t, isMargin c = true) : '.' ∉ t := fun point =>
    absurd (margins _ point) (by decide)
  simp [same, whole, outside margin_before, outside margin_after]

theorem ofPointed?_isSome_iff (s : String) (point : '.' ∈ s.toList) :
    (ofPointed? s).isSome = true ↔ ∃ core, Frames s.toList core ∧ IsPointed core := by
  have inner : '.' ∈ (trimMargins s.toList).map plainDigit :=
    (point_mem_iff (frames_trimMargins _)).mp point
  have read : (ofPointed? s).isSome = true ↔ IsPointed ((trimMargins s.toList).map plainDigit) := by
    rw [← isPointed_iff, ofPointed?, plain?]
    cases found : ungroup? false ((trimMargins s.toList).map plainDigit) with
    | none => simp
    | some u =>
      have kept : '.' ∈ u := by
        rw [ungrouped_of_ungroup? found]
        exact List.mem_filter.mpr ⟨inner, rfl⟩
      simp [kept]
  rw [read]
  refine ⟨fun pointed => ⟨_, frames_trimMargins _, pointed⟩, ?_⟩
  rintro ⟨core, frames, pointed⟩
  rwa [frames.map_trimMargins_eq pointed.isNumberChar_of_mem]

theorem IsWhole.no_point (is_whole : IsWhole s) : '.' ∉ s := by
  obtain @⟨front, row, is_sign, is_row, few⟩ := is_whole
  refine List.not_mem_append (no_point_of_isSign is_sign) fun point => ?_
  exact no_point_of_digits is_row.ungrouped_eq.2 (List.mem_filter.mpr ⟨point, rfl⟩)

theorem writesNumber_iff (s : String) : WritesNumber s.toList ↔
    if '.' ∈ s.toList then (ofPointed? s).isSome = true else (ofWhole? s).isSome = true := by
  split
  next point =>
    rw [ofPointed?_isSome_iff s point]
    refine exists_congr fun core => and_congr_right fun frames => or_iff_right fun is_whole => ?_
    exact is_whole.no_point ((point_mem_iff frames).mp point)
  next no_point =>
    rw [ofWhole?_isSome_iff]
    refine exists_congr fun core => and_congr_right fun frames =>
      or_iff_left fun is_pointed => no_point ?_
    obtain ⟨is_sign, is_whole, is_fraction, some_digit, is_exponent⟩ := is_pointed
    exact (point_mem_iff frames).mpr (by simp)

theorem WritesNumber.of_mem (writes : WritesNumber s) :
    ∀ c ∈ s, isMargin c = true ∨ isNumberChar (plainDigit c) = true := by
  obtain ⟨core, ⟨before, after, margin_before, margin_after, whole⟩, number⟩ := writes
  have inner : ∀ c ∈ core, isNumberChar c = true :=
    number.elim (fun is_whole => is_whole.isNumberChar_of_mem.2) fun is_pointed =>
      is_pointed.isNumberChar_of_mem.2
  intro c hc
  have image : plainDigit c ∈ before ++ core ++ after := whole ▸ List.mem_map_of_mem hc
  rw [List.mem_append, List.mem_append, or_assoc] at image
  rw [← isMargin_plainDigit c]
  rcases image with in_before | in_core | in_after
  · exact .inl (margin_before _ in_before)
  · exact .inr (inner _ in_core)
  · exact .inl (margin_after _ in_after)

end SchemaMigration.Number
