import SchemaMigration.Proofs.Number.Numeral
import SchemaMigration.Proofs.Settings.Layers

/-! Settings of text, and what texts of variables stand for. A word of truth, a number, a list and
an object do not stand for themselves, and exactly these do not reach a setting of text as they
are. -/

namespace SchemaMigration.Settings

def IsTruthWord (t : String) : Prop := Text.lower t ∈ trueTexts ∨ Text.lower t ∈ falseTexts

def IsNullWord (t : String) : Prop := Text.lower t ∈ nullTexts

def Opens (t : String) : Prop := t.toList.head? = some '[' ∨ t.toList.head? = some '{'

structure StandsForItself (t : String) : Prop where
  no_truth_word : ¬IsTruthWord t
  no_null_word : ¬IsNullWord t
  no_number : ¬Number.WritesNumber t.toList
  no_compound : Opens t → ∀ v, Json.read t ≠ .ok v

def IsForeign : Value → Prop
  | .text _ | .null => False
  | _ => True

variable {t : String} {v : Value} {c : Char}

theorem numberOf?_isSome_iff : (numberOf? t).isSome = true ↔ Number.WritesNumber t.toList := by
  rw [Number.writesNumber_iff, numberOf?]
  simp only [List.contains_iff_mem]
  split <;> rw [Option.isSome_map]

theorem isForeign_of_numberOf? (found : numberOf? t = some v) : IsForeign v := by
  unfold numberOf? at found
  split at found
  all_goals
    obtain ⟨_, -, rfl⟩ := Option.map_eq_some_iff.mp found
    trivial

theorem isForeign_of_value {fuel depth : Nat} {s rest : List Char}
    (opens : s.head? = some '[' ∨ s.head? = some '{')
    (read : Json.value fuel depth s = .ok (v, rest)) : IsForeign v := by
  obtain ⟨c, more, rfl⟩ : ∃ c more, s = c :: more :=
    List.exists_cons_of_ne_nil (by rintro rfl; simp at opens)
  cases fuel with
  | zero => cases read
  | succ fuel =>
    simp only [List.head?_cons, Option.some.injEq] at opens
    rcases opens with rfl | rfl
    all_goals
      cases depth with
      | zero => cases read
      | succ depth =>
        rw [Json.value] at read
        split at read
        next =>
          cases read
          trivial
        next =>
          obtain ⟨_, -, done⟩ := exists_of_bind_eq_ok read
          cases done
          trivial

theorem isForeign_of_read (opens : Opens t) (read : Json.read t = .ok v) : IsForeign v := by
  obtain ⟨⟨w, rest⟩, read, whole⟩ := exists_of_bind_eq_ok read
  have from_start : Json.skipSpace t.toList = t.toList := by
    cases letters : t.toList with
    | nil => rfl
    | cons c more =>
      have opens : c = '[' ∨ c = '{' := by simpa [Opens, letters] using opens
      rcases opens with rfl | rfl <;> rfl
  rw [from_start] at read
  have foreign := isForeign_of_value opens read
  dsimp only at whole
  split at whole
  · exact Except.ok.inj whole ▸ foreign
  · cases whole

theorem compoundOf_cases (read : compoundOf t = .ok v) :
    (Opens t ∧ Json.read t = .ok v) ∨ ((Opens t → ∀ w, Json.read t ≠ .ok w) ∧ v = .text t) := by
  unfold compoundOf at read
  simp only [Bool.or_eq_true, beq_iff_eq] at read
  split at read
  next opens =>
    split at read
    next w found =>
      cases read
      exact .inl ⟨opens, found⟩
    next malformed =>
      cases read
      exact .inr ⟨fun _ w found => (nomatch malformed.symm.trans found), rfl⟩
    next => cases read
  next closed =>
    cases read
    exact .inr ⟨fun opens => absurd opens closed, rfl⟩

theorem IsTruthWord.not_isNullWord (truth : IsTruthWord t) : ¬IsNullWord t := by
  have distinct : ∀ word ∈ trueTexts ++ falseTexts, word ∉ nullTexts := by decide
  exact distinct _ (List.mem_append.mpr truth)

theorem valueOf_cases (read : valueOf t = .ok v) :
    (StandsForItself t ∧ v = .text t) ∨ (IsNullWord t ∧ v = .null) ∨
    (¬StandsForItself t ∧ ¬IsNullWord t ∧ IsForeign v) := by
  unfold valueOf at read
  simp only [List.contains_iff_mem] at read
  split at read
  next true_word =>
    cases read
    have truth : IsTruthWord t := .inl true_word
    exact .inr (.inr ⟨fun self => self.no_truth_word truth, truth.not_isNullWord, trivial⟩)
  split at read
  next false_word =>
    cases read
    have truth : IsTruthWord t := .inr false_word
    exact .inr (.inr ⟨fun self => self.no_truth_word truth, truth.not_isNullWord, trivial⟩)
  split at read
  next null_word =>
    cases read
    exact .inr (.inl ⟨null_word, rfl⟩)
  split at read
  next no_null_word _ number found =>
    cases read
    have writes : Number.WritesNumber t.toList :=
      numberOf?_isSome_iff.mp (Option.isSome_of_eq_some found)
    exact .inr (.inr ⟨fun self => self.no_number writes, no_null_word,
      isForeign_of_numberOf? found⟩)
  next no_true_word no_false_word no_null_word _ no_number =>
    rcases compoundOf_cases read with ⟨opens, found⟩ | ⟨no_compound, rfl⟩
    · exact .inr (.inr ⟨fun self => self.no_compound opens v found, no_null_word,
        isForeign_of_read opens found⟩)
    · have writes_none : ¬Number.WritesNumber t.toList := fun writes => by
        simpa [no_number] using numberOf?_isSome_iff.mpr writes
      exact .inl ⟨⟨not_or.mpr ⟨no_true_word, no_false_word⟩, no_null_word, writes_none,
        no_compound⟩, rfl⟩

theorem mem_lowerFrom {before s : List Char} (small : Text.lowerChar c = [c]) (no_sigma : c ≠ 'Σ')
    (there : c ∈ s) :
    c ∈ Text.lowerFrom before s := by
  induction s generalizing before with
  | nil => cases there
  | cons d rest ih =>
    rw [Text.lowerFrom, List.mem_append]
    rcases List.mem_cons.mp there with rfl | in_rest
    · refine .inl ?_
      rw [if_neg (by simpa using no_sigma), small]
      exact List.mem_singleton_self c
    · exact .inr (ih in_rest)

theorem standsForItself_of_colon (colon : ':' ∈ t.toList) (closed : ¬Opens t) :
    StandsForItself t := by
  have kept : ':' ∈ (Text.lower t).toList := by
    rw [Text.lower, String.toList_ofList]
    exact mem_lowerFrom rfl (by decide) colon
  have no_colon : ∀ word ∈ trueTexts ++ falseTexts ++ nullTexts, ':' ∉ word.toList := by decide
  refine ⟨?_, ?_, ?_, fun opens => absurd opens closed⟩
  · rintro (truth | falsehood)
    · exact no_colon _ (by simp [truth]) kept
    · exact no_colon _ (by simp [falsehood]) kept
  · exact fun null_word => no_colon _ (List.mem_append_right _ null_word) kept
  · exact fun writes => absurd (writes.of_mem _ colon) (by decide)

namespace TextSetting

/-- Whether a datum is what a setting of text is to be: a text, or nothing where nothing need be
given. -/
def Fits : TextSetting → Datum → Prop
  | .historyTable, d => ∃ t, d = .text t
  | _, d => d = .null ∨ ∃ t, d = .text t

variable {k : TextSetting}

theorem fits_text : k.Fits (.text t) := by
  cases k
  case historyTable => exact ⟨t, rfl⟩
  all_goals exact .inr ⟨t, rfl⟩

theorem fits_unset : k.Fits k.unset := by
  cases k
  case historyTable => exact ⟨_, rfl⟩
  all_goals exact .inl rfl

theorem fits_null_iff : k.Fits .null ↔ k ≠ .historyTable := by
  cases k
  case historyTable => exact iff_of_false (fun ⟨_, same⟩ => by cases same) (absurd rfl)
  all_goals exact iff_of_true (.inl rfl) nofun

theorem ofValue_of_isForeign (foreign : IsForeign v) :
    Datum.ofValue v ≠ .null ∧ ∀ t, Datum.ofValue v ≠ .text t := by
  cases v
  case null | text => exact foreign.elim
  all_goals
    rw [Datum.ofValue.eq_def]
    exact ⟨nofun, nofun⟩

theorem not_fits_of_isForeign (foreign : IsForeign v) : ¬k.Fits (.ofValue v) := by
  obtain ⟨some_value, no_text⟩ := ofValue_of_isForeign foreign
  cases k
  case historyTable => exact fun ⟨t, same⟩ => no_text t same
  all_goals exact fun fits => fits.elim some_value fun ⟨t, same⟩ => no_text t same

variable {file? : Option (String × FileState)} {entries : GivenSettings}
  {environment : List (String × String)}
  {start : String} {s : Settings}

/-- Where a file gives settings of text as texts, such a setting of a run is a text, or nothing,
exactly if its variable is missing, stands for itself, or stands for nothing where nothing need be
given. A variable that does not stand for nothing is taken as it is exactly if it stands for
itself. -/
theorem fits_iff_of_load (in_file : ofFile? file? = .ok entries)
    (texts_in_file : ∀ (k : TextSetting) d, (Datum.text k.name, d) ∈ entries → ∃ t, d = .text t)
    (loaded : load file? start environment = .ok s) (k : TextSetting) :
    (k.Fits (k.value s) ↔
      ∀ t, assigned? start environment k.name = some t → StandsForItself t ∨ IsNullWord t ∧
        k ≠ .historyTable) ∧
    ∀ t, assigned? start environment k.name = some t → ¬IsNullWord t →
      (k.value s = .text t ↔ StandsForItself t) := by
  rcases k.value_of_load in_file loaded with ⟨missing, value_eq⟩ | ⟨t, v, last, read, value_eq⟩
  · refine ⟨iff_of_true ?_ (by simp [missing]), by simp [missing]⟩
    rw [value_eq]
    cases found : lookup? entries k.name with
    | none => exact fits_unset
    | some d =>
      obtain ⟨t, rfl⟩ := texts_in_file k d (mem_of_lookup? found)
      exact fits_text
  · simp only [last, Option.some.injEq, forall_eq']
    rw [value_eq]
    rcases valueOf_cases read with ⟨self, rfl⟩ | ⟨null_word, rfl⟩ | ⟨no_self, no_null_word, foreign⟩
    · exact ⟨iff_of_true fits_text (.inl self), fun _ => iff_of_true rfl self⟩
    · refine ⟨fits_null_iff.trans ?_, absurd null_word⟩
      rw [or_iff_right fun self : StandsForItself t => self.no_null_word null_word,
        and_iff_right null_word]
    · have no_text := (ofValue_of_isForeign foreign).2 t
      refine ⟨iff_of_false (not_fits_of_isForeign foreign) ?_,
        fun _ => iff_of_false no_text no_self⟩
      exact not_or.mpr ⟨no_self, fun null_word => no_null_word null_word.1⟩

theorem fits_iff_of_load_sqlite :
    ∃ entries s, ofFile? (some ("app.json", .content "\x7b\"default_schema\": \"sales\"\x7d")) =
      .ok entries ∧
      (∀ (k : TextSetting) d, (Datum.text k.name, d) ∈ entries → ∃ t, d = .text t) ∧
      load (some ("app.json", .content "\x7b\"default_schema\": \"sales\"\x7d")) variableStart
        [("SCHEMASHIFT_URL", "sqlite:///app.db")] = .ok s ∧
      (∀ k : TextSetting, k.Fits (k.value s)) ∧ s.url = .text "sqlite:///app.db" := by
  have readable :
      (match ofFile? (some ("app.json", .content "\x7b\"default_schema\": \"sales\"\x7d")) with
      | .ok entries => entries.all fun e => e.2.text?.isSome
      | .error _ => false) = true := by decide +kernel
  obtain ⟨s, loaded⟩ := exists_eq_ok_of_isSome (x := load (some ("app.json",
    .content "\x7b\"default_schema\": \"sales\"\x7d")) variableStart
      [("SCHEMASHIFT_URL", "sqlite:///app.db")])
    (by decide +kernel)
  have self : StandsForItself "sqlite:///app.db" :=
    standsForItself_of_colon (by decide) (by unfold Opens; decide)
  split at readable
  next entries in_file =>
    have texts_in_file : ∀ (k : TextSetting) d, (Datum.text k.name, d) ∈ entries →
        ∃ t, d = .text t := by
      intro k d there
      obtain ⟨t, found⟩ := Option.isSome_iff_exists.mp (List.all_eq_true.mp readable _ there)
      exact ⟨t, Datum.eq_text_iff.mp found⟩
    have url := fits_iff_of_load in_file texts_in_file loaded .url
    refine ⟨entries, s, in_file, texts_in_file, loaded, fun k => ?_,
      (url.2 _ rfl self.no_null_word).mpr self⟩
    refine (fits_iff_of_load in_file texts_in_file loaded k).1.mpr fun t last => ?_
    cases k <;> cases last
    exact .inl self
  next => cases readable

/-- A schema that is called by a year arrives as a number. -/
theorem defaultSchema_of_year :
    ∃ s, load none variableStart [("SCHEMASHIFT_DEFAULT_SCHEMA", "2024")] = .ok s ∧
      ¬IsNullWord "2024" ∧
      s.defaultSchema = .plain (.int 2024) ∧ s.defaultSchema ≠ .text "2024" ∧
      ¬TextSetting.defaultSchema.Fits s.defaultSchema := by
  refine ⟨_, rfl, by unfold IsNullWord; decide, rfl, nofun, ?_⟩
  rintro (nothing | ⟨t, same⟩)
  · cases nothing
  · cases same

end TextSetting

end SchemaMigration.Settings
