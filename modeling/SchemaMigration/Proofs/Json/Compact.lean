import SchemaMigration.Proofs.Json.Escape
import SchemaMigration.Proofs.Number.Text
import SchemaMigration.Proofs.Value.Alike

namespace SchemaMigration.Json

open Binary64 (IsOfFormat StartsWithDigit isNumeric signed sizeText)

def delimiters : List Char := [',', ':', '"', '[', ']', '{', '}']

def isBareChar (c : Char) : Bool := !delimiters.contains c

def IsEnded (s : List Char) : Prop := ∀ c ∈ s.head?, isBareChar c = false

def isBare : WideValue → Bool
  | .text _ | .list _ | .object _ => false
  | _ => true

theorem isBareChar_of_isNumeric {c : Char} (h : isNumeric c = true) : isBareChar c = true := by
  by_contra not_bare
  have listed : c ∈ delimiters := by simpa [isBareChar] using not_bare
  have none_numeric : ∀ d ∈ delimiters, isNumeric d = false := by simp [delimiters, isNumeric]
  rw [none_numeric c listed] at h
  cases h

theorem intText_eq (n : Int) :
    (toString n).toList = signed (decide (n < 0)) (Nat.toDigits 10 n.natAbs) := by
  rw [Int.toString_eq_repr, Int.repr_eq_if]
  by_cases nonneg : 0 ≤ n
  · have size : n.natAbs = n.toNat := by omega
    rw [if_pos nonneg, decide_eq_false (Int.not_lt.mpr nonneg), size, Nat.repr_eq_ofList_toDigits,
      String.toList_ofList]
    rfl
  · have size : n.natAbs = (-n).toNat := by omega
    rw [if_neg nonneg, decide_eq_true (Int.not_le.mp nonneg), size, Nat.repr_eq_ofList_toDigits,
      String.toList_append, String.toList_ofList, String.toList_ofList]
    rfl

inductive IsNumber : WideValue → Prop
  | int (n : Int) : IsNumber (.int n)
  | float (negative : Bool) {significand : Nat} {exponent : Int}
    (format : IsOfFormat significand exponent) :
      IsNumber (.float (.finite negative significand exponent))

def wordValues : List (String × WideValue) := [
  ("null", .null), ("true", .bool true), ("false", .bool false), ("NaN", .float .nan),
  ("Infinity", .float (.infinite false)), ("-Infinity", .float (.infinite true))]

theorem bare_cases {v : WideValue} (bare : isBare v = true) (valid : v.isWellFormed = true) :
    (∃ word, (word, v) ∈ wordValues ∧ compactChars v = word.toList) ∨ IsNumber v := by
  match v with
  | .null => exact .inl ⟨"null", by simp [wordValues], rfl⟩
  | .bool true => exact .inl ⟨"true", by simp [wordValues], rfl⟩
  | .bool false => exact .inl ⟨"false", by simp [wordValues], rfl⟩
  | .float .nan => exact .inl ⟨"NaN", by simp [wordValues], rfl⟩
  | .float (.infinite false) => exact .inl ⟨"Infinity", by simp [wordValues], rfl⟩
  | .float (.infinite true) => exact .inl ⟨"-Infinity", by simp [wordValues], rfl⟩
  | .int n => exact .inr (.int n)
  | .float (.finite negative significand exponent) =>
    exact .inr (.float negative (of_decide_eq_true valid))
  | .text _ => cases bare
  | .list _ => cases bare
  | .object _ => cases bare

theorem startsWithDigit_toDigits (n : Nat) : StartsWithDigit (Nat.toDigits 10 n) :=
  Binary64.areDigits_toDigits.startsWithDigit Nat.toDigits_ne_nil

theorem startsWithDigit_sizeText {significand : Nat} {exponent : Int}
    (format : IsOfFormat significand exponent) : StartsWithDigit
    (sizeText significand exponent) := by
  obtain ⟨q, writes, -⟩ := Binary64.exists_writes_sizeText format
  exact writes.startsWithDigit

theorem IsNumber.exists_signed {v : WideValue} (number : IsNumber v) : ∃ negative s,
    compactChars v = signed negative s ∧ StartsWithDigit s ∧ ∀ c ∈ s, isNumeric c = true := by
  cases number with
  | int n =>
    exact ⟨_, _, intText_eq n, startsWithDigit_toDigits _, Binary64.areDigits_toDigits.isNumeric⟩
  | @float negative significand exponent format =>
    obtain ⟨q, writes, -⟩ := Binary64.exists_writes_sizeText format
    exact ⟨negative, _, rfl, writes.startsWithDigit, writes.isNumeric⟩

theorem IsNumber.isNumeric {v : WideValue} (number : IsNumber v) :
    ∀ c ∈ compactChars v, isNumeric c = true := by
  obtain ⟨negative, s, eq, -, numeric⟩ := number.exists_signed
  rw [eq]
  exact Binary64.isNumeric_signed numeric

theorem IsNumber.eq_of_compactChars {v w : WideValue} (number_v : IsNumber v)
    (number_w : IsNumber w)
    (same : compactChars v = compactChars w) : v = w := by
  cases number_v with
  | int m =>
    cases number_w with
    | int n =>
      have signs : signed _ _ = signed _ _ := (intText_eq m).symm.trans (same.trans (intText_eq n))
      obtain ⟨sign_eq, digits_eq⟩ :=
        Binary64.signed_injective (startsWithDigit_toDigits _) (startsWithDigit_toDigits _) signs
      have size_eq : m.natAbs = n.natAbs := by
        rw [← Binary64.numeral_toDigits (n := m.natAbs), digits_eq, Binary64.numeral_toDigits]
      have sign_iff : m < 0 ↔ n < 0 := decide_eq_decide.mp sign_eq
      exact congrArg WideValue.int (by omega)
    | @float negative significand exponent format =>
      obtain ⟨q, writes, -⟩ := Binary64.exists_writes_sizeText format
      have signs : signed _ _ = signed negative (sizeText significand exponent) :=
        (intText_eq m).symm.trans same
      obtain ⟨-, digits_eq⟩ :=
        Binary64.signed_injective (startsWithDigit_toDigits _) writes.startsWithDigit signs
      exact absurd (digits_eq ▸ Binary64.areDigits_toDigits) writes.not_areDigits
  | @float negative significand exponent format =>
    cases number_w with
    | int n =>
      obtain ⟨q, writes, -⟩ := Binary64.exists_writes_sizeText format
      have signs : signed negative (sizeText significand exponent) = signed _ _ :=
        same.trans (intText_eq n)
      obtain ⟨-, digits_eq⟩ :=
        Binary64.signed_injective writes.startsWithDigit (startsWithDigit_toDigits _) signs
      exact absurd (digits_eq ▸ Binary64.areDigits_toDigits) writes.not_areDigits
    | @float negative' significand' exponent' format' =>
      have signs : signed negative (sizeText significand exponent) =
          signed negative' (sizeText significand' exponent') := same
      obtain ⟨rfl, sizes⟩ := Binary64.signed_injective (startsWithDigit_sizeText format)
        (startsWithDigit_sizeText format') signs
      obtain ⟨rfl, rfl⟩ := Binary64.sizeText_injective format format' sizes
      rfl

theorem not_isNumber_of_word {word : String} {v w : WideValue}
    (listed : (word, v) ∈ wordValues) (number : IsNumber w) :
    compactChars w ≠ word.toList := by
  intro eq
  have lettered : ∀ entry ∈ wordValues, ∃ c ∈ entry.1.toList, isNumeric c = false := by
    simp [wordValues, isNumeric]
  obtain ⟨c, hc, letter⟩ := lettered _ listed
  have numeric := number.isNumeric c (eq ▸ hc)
  rw [letter] at numeric
  cases numeric

theorem eq_of_bare {v w : WideValue} (bare_v : isBare v = true) (bare_w : isBare w = true)
    (valid_v : v.isWellFormed = true) (valid_w : w.isWellFormed = true)
    (same : compactChars v = compactChars w) : v = w := by
  rcases bare_cases bare_v valid_v with ⟨word, listed, eq⟩ | number
  · rcases bare_cases bare_w valid_w with ⟨word', listed', eq'⟩ | number'
    · have distinct : (wordValues.map Prod.fst).Nodup := by decide
      have same_word : word = word' := String.toList_inj.mp (by rw [← eq, ← eq', same])
      exact congrArg Prod.snd (List.inj_on_of_nodup_map distinct listed listed' same_word)
    · exact absurd (same.symm.trans eq) (not_isNumber_of_word listed number')
  · rcases bare_cases bare_w valid_w with ⟨word', listed', eq'⟩ | number'
    · exact absurd (same.trans eq') (not_isNumber_of_word listed' number)
    · exact number.eq_of_compactChars number' same

theorem isBareChar_of_bare {v : WideValue} (bare : isBare v = true)
    (valid : v.isWellFormed = true) :
    compactChars v ≠ [] ∧ ∀ c ∈ compactChars v, isBareChar c = true := by
  rcases bare_cases bare valid with ⟨word, listed, eq⟩ | number
  · have words_bare : ∀ w ∈ wordValues, w.1.toList ≠ [] ∧ ∀ c ∈ w.1.toList,
        isBareChar c = true := by
      simp [wordValues, isBareChar, delimiters]
    rw [eq]
    exact words_bare _ listed
  · refine ⟨?_, fun c hc => isBareChar_of_isNumeric (number.isNumeric c hc)⟩
    obtain ⟨negative, s, eq, ⟨c, rest, rfl, -⟩, -⟩ := number.exists_signed
    rw [eq]
    simp [signed]

section Ends

variable {v w : WideValue} {s t : List Char}

theorem isEnded_cons {c : Char} (delimiter : isBareChar c = false) : IsEnded (c :: s) := by
  intro d hd
  cases hd
  exact delimiter

theorem isEnded_nil : IsEnded [] := by
  intro c hc
  cases hc

theorem parts_of_bare (bare : isBare v = true) (valid : v.isWellFormed = true) (ended : IsEnded s) :
    (compactChars v ++ s).takeWhile isBareChar = compactChars v ∧
      (compactChars v ++ s).dropWhile isBareChar = s := by
  have chars := (isBareChar_of_bare bare valid).2
  rw [List.takeWhile_append_of_pos chars, List.dropWhile_append_of_pos chars]
  cases s with
  | nil => simp
  | cons c rest =>
    have delimiter := ended c rfl
    simp [delimiter]

theorem bare_append_inj (bare_v : isBare v = true) (bare_w : isBare w = true)
    (valid_v : v.isWellFormed = true) (valid_w : w.isWellFormed = true) (ended : IsEnded s)
    (ended' : IsEnded t)
    (same : compactChars v ++ s = compactChars w ++ t) : v = w ∧ s = t := by
  obtain ⟨front, rest⟩ := parts_of_bare bare_v valid_v ended
  obtain ⟨front', rest'⟩ := parts_of_bare bare_w valid_w ended'
  refine ⟨eq_of_bare bare_v bare_w valid_v valid_w ?_, ?_⟩
  · rw [← front, same, front']
  · rw [← rest, same, rest']

end Ends

def opening? : WideValue → Option Char
  | .text _ => some '"'
  | .list _ => some '['
  | .object _ => some '{'
  | _ => none

section Openings

variable {v w : WideValue} {s t : List Char} {c : Char}

theorem opening?_eq (valid : v.isWellFormed = true) :
    (compactChars v ++ s).head?.filter (fun c => !isBareChar c) = opening? v := by
  cases bare : isBare v with
  | true =>
    obtain ⟨nonempty, chars⟩ := isBareChar_of_bare bare valid
    obtain ⟨c, rest, eq⟩ := List.exists_cons_of_ne_nil nonempty
    have first : isBareChar c = true := chars c (eq ▸ List.mem_cons_self)
    have none : opening? v = none := by
      cases v <;> first | rfl | cases bare
    rw [eq, none]
    simp [Option.filter, first]
  | false =>
    cases v with
    | text _ => rfl
    | list _ => rfl
    | object _ => rfl
    | _ => cases bare

theorem opening?_eq_of_append (valid_v : v.isWellFormed = true) (valid_w : w.isWellFormed = true)
    (same : compactChars v ++ s = compactChars w ++ t) : opening? v = opening? w := by
  rw [← opening?_eq (s := s) valid_v, same, opening?_eq valid_w]

theorem isBare_iff : isBare v = true ↔ opening? v = none := by
  cases v <;> simp [isBare, opening?]

theorem append_ne_cons (valid : v.isWellFormed = true) (closing : isBareChar c = false)
    (other : c ∉ ['"', '[', '{']) : compactChars v ++ s ≠ c :: t := by
  intro same
  have opening := opening?_eq (s := s) valid
  rw [same, List.head?_cons, Option.filter_some, closing, Bool.not_false, if_pos rfl] at opening
  apply other
  cases v <;> simp_all [opening?]

end Openings

def restItems : List WideValue → List Char
  | [] => []
  | items => ',' :: compactItems items

def restFields : List (List CodePoint × WideValue) → List Char
  | [] => []
  | fields => ',' :: compactFields fields

theorem compactItems_cons (v : WideValue) (items : List WideValue) :
    compactItems (v :: items) = compactChars v ++ restItems items := by
  cases items with
  | nil => exact (List.append_nil _).symm
  | cons w rest => rfl

theorem compactFields_cons (k : List CodePoint) (v : WideValue)
    (fields : List (List CodePoint × WideValue)) :
    compactFields ((k, v) :: fields) = stringText k ++ ':' ::
      (compactChars v ++ restFields fields) := by
  cases fields with
  | nil => simp [compactFields, restFields]
  | cons f rest => simp [compactFields, restFields]

theorem isEnded_restItems (items : List WideValue) (s : List Char) :
    IsEnded (restItems items ++ ']' :: s) := by
  cases items with
  | nil => exact isEnded_cons (by decide)
  | cons v rest => exact isEnded_cons (by decide)

theorem isEnded_restFields (fields : List (List CodePoint × WideValue)) (s : List Char) :
    IsEnded (restFields fields ++ '}' :: s) := by
  cases fields with
  | nil => exact isEnded_cons (by decide)
  | cons f rest => exact isEnded_cons (by decide)

mutual
theorem compactChars_append_inj {v w : WideValue} {s t : List Char}
    (valid_v : v.isWellFormed = true)
    (valid_w : w.isWellFormed = true) (ended : IsEnded s) (ended' : IsEnded t)
    (same : compactChars v ++ s = compactChars w ++ t) : v = w ∧ s = t := by
  have opening := opening?_eq_of_append valid_v valid_w same
  by_cases bare_v : isBare v = true
  · have bare_w : isBare w = true := isBare_iff.mpr (opening.symm.trans (isBare_iff.mp bare_v))
    exact bare_append_inj bare_v bare_w valid_v valid_w ended ended' same
  · match v, w with
    | .text a, .text b =>
      obtain ⟨same_units, rest⟩ := stringText_append_inj same
      exact ⟨congrArg WideValue.text (eq_of_units valid_v valid_w same_units), rest⟩
    | .list as, .list bs =>
      rw [WideValue.isWellFormed] at valid_v valid_w
      have same_items : compactItems as ++ ']' :: s = compactItems bs ++ ']' :: t := by
        simpa [compactChars] using same
      obtain ⟨rfl, rest⟩ := compactItems_append_inj valid_v valid_w same_items
      exact ⟨rfl, rest⟩
    | .object as, .object bs =>
      rw [WideValue.isWellFormed, Bool.and_eq_true] at valid_v valid_w
      have same_fields : compactFields as ++ '}' :: s = compactFields bs ++ '}' :: t := by
        simpa [compactChars] using same
      obtain ⟨rfl, rest⟩ := compactFields_append_inj valid_v.2 valid_w.2 same_fields
      exact ⟨rfl, rest⟩
    -- the first characters differ
    | .text _, .null | .text _, .bool _ | .text _, .int _ | .text _, .float _ | .text _, .list _
    | .text _, .object _ => simp [opening?] at opening
    | .list _, .null | .list _, .bool _ | .list _, .int _ | .list _, .float _ | .list _, .text _
    | .list _, .object _ => simp [opening?] at opening
    | .object _, .null | .object _, .bool _ | .object _, .int _ | .object _,
      .float _ | .object _, .text _
    | .object _, .list _ => simp [opening?] at opening
    | .null, _ | .bool _, _ | .int _, _ | .float _, _ => exact absurd rfl bare_v

theorem compactItems_append_inj {as bs : List WideValue} {s t : List Char}
    (valid_as : WideValue.areWellFormed as = true) (valid_bs : WideValue.areWellFormed bs = true)
    (same : compactItems as ++ ']' :: s = compactItems bs ++ ']' :: t) : as = bs ∧ s = t := by
  match as, bs with
  | [], [] => exact ⟨rfl, (List.cons.inj same).2⟩
  | [], b :: bs =>
    rw [WideValue.areWellFormed, Bool.and_eq_true] at valid_bs
    rw [compactItems_cons, List.append_assoc] at same
    exact absurd same.symm (append_ne_cons valid_bs.1 (by decide) (by decide))
  | a :: as, [] =>
    rw [WideValue.areWellFormed, Bool.and_eq_true] at valid_as
    rw [compactItems_cons, List.append_assoc] at same
    exact absurd same (append_ne_cons valid_as.1 (by decide) (by decide))
  | a :: as, b :: bs =>
    rw [WideValue.areWellFormed, Bool.and_eq_true] at valid_as valid_bs
    rw [compactItems_cons, compactItems_cons, List.append_assoc, List.append_assoc] at same
    obtain ⟨rfl, rests⟩ := compactChars_append_inj valid_as.1 valid_bs.1
      (isEnded_restItems as s) (isEnded_restItems bs t) same
    -- a comma or the bracket is next, so that both lists go on or both end
    match as, bs with
    | [], [] => exact ⟨rfl, (List.cons.inj rests).2⟩
    | [], _ :: _ => simp [restItems] at rests
    | _ :: _, [] => simp [restItems] at rests
    | a' :: as', b' :: bs' =>
      obtain ⟨equal, rest⟩ := compactItems_append_inj valid_as.2 valid_bs.2 (List.cons.inj rests).2
      exact ⟨congrArg (a :: ·) equal, rest⟩

theorem compactFields_append_inj {as bs : List (List CodePoint × WideValue)} {s t : List Char}
    (valid_as : WideValue.areWellFormedFields as = true)
    (valid_bs : WideValue.areWellFormedFields bs = true)
    (same : compactFields as ++ '}' :: s = compactFields bs ++ '}' :: t) : as = bs ∧ s = t := by
  match as, bs with
  | [], [] => exact ⟨rfl, (List.cons.inj same).2⟩
  | [], (k, b) :: bs =>
    rw [compactFields_cons] at same
    simp [compactFields, stringText] at same
  | (j, a) :: as, [] =>
    rw [compactFields_cons] at same
    simp [compactFields, stringText] at same
  | (j, a) :: as, (k, b) :: bs =>
    rw [WideValue.areWellFormedFields, Bool.and_eq_true, Bool.and_eq_true] at valid_as valid_bs
    rw [compactFields_cons, compactFields_cons, List.append_assoc, List.append_assoc] at same
    obtain ⟨same_units, values⟩ := stringText_append_inj same
    obtain rfl : j = k := eq_of_units valid_as.1.1 valid_bs.1.1 same_units
    have values_eq : compactChars a ++ (restFields as ++ '}' :: s) =
        compactChars b ++ (restFields bs ++ '}' :: t) := by
      simpa [List.append_assoc] using values
    obtain ⟨rfl, rests⟩ := compactChars_append_inj valid_as.1.2 valid_bs.1.2
      (isEnded_restFields as s) (isEnded_restFields bs t) values_eq
    match as, bs with
    | [], [] => exact ⟨rfl, (List.cons.inj rests).2⟩
    | [], _ :: _ => simp [restFields] at rests
    | _ :: _, [] => simp [restFields] at rests
    | a' :: as', b' :: bs' =>
      obtain ⟨equal, rest⟩ := compactFields_append_inj valid_as.2 valid_bs.2 (List.cons.inj rests).2
      exact ⟨congrArg ((j, a) :: ·) equal, rest⟩
end

theorem compactChars_inj {v w : WideValue} (valid_v : v.isWellFormed = true)
    (valid_w : w.isWellFormed = true)
    (same : compactChars v = compactChars w) : v = w :=
  (compactChars_append_inj valid_v valid_w isEnded_nil isEnded_nil (congrArg (· ++ []) same)).1

theorem canonical_eq_iff {v w : WideValue} (valid_v : v.isWellFormed = true)
    (valid_w : w.isWellFormed = true) :
    canonical v = canonical w ↔ v.Alike w := by
  rw [WideValue.alike_iff valid_v valid_w, canonical, canonical, String.ofList_inj]
  exact ⟨compactChars_inj (isWellFormed_sorted valid_v) (isWellFormed_sorted valid_w),
    congrArg compactChars⟩

/-- Values that could be taken for one another have different texts. -/
example :
    [.bool true, .int 1, .float (.finite false (2 ^ 52) (-52)), .text "1", .null,
      .text ""].map compact =
      ["true", "1", "1.0", "\"1\"", "null", "\"\""] := by decide

end SchemaMigration.Json
