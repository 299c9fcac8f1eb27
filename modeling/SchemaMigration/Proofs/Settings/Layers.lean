import Mathlib.Data.List.Induction
import SchemaMigration.Proofs.Change.Confirmation
import SchemaMigration.Settings.File

namespace SchemaMigration

theorem Datum.text?_of_sameKey {a b : Datum} (same : sameKey a b = true) : a.text? = b.text? := by
  unfold sameKey at same
  split at same
  next v w =>
    split at same
    next m n first second =>
      -- of two numbers neither is a text
      have no_text {v : Value} {n : Int} (number : (plain v).whole? = some n) :
          (plain v).text? = none := by
        cases v <;> first | rfl | cases number
      rw [no_text first, no_text second]
    next => rw [eq_of_beq same]
    next => cases same
  all_goals first | rfl | cases same

theorem Datum.sameKey_text (s : String) : sameKey (text s) (text s) = true :=
  beq_self_eq_true (Value.text s)

theorem Datum.eq_text_iff {d : Datum} {s : String} : d.text? = some s ↔ d = text s := by
  unfold text? text
  split <;> simp_all

namespace Settings

section Entries

variable {entries later : GivenSettings} {name : String} {d : Datum}

def lookup? (entries : GivenSettings) (name : String) : Option Datum :=
  (entries.find? fun (k, _) => k.text? == some name).map (·.2)

theorem lookup?_cons {k v : Datum} :
    lookup? ((k, v) :: entries) name = if k.text? = some name then
      some v else lookup? entries name := by
  rw [lookup?, List.find?_cons]
  split
  next found => rw [if_pos (eq_of_beq found)]; rfl
  next other => rw [if_neg (ne_of_beq_false other)]; rfl

theorem mem_of_lookup? (found : lookup? entries name = some d) :
    (Datum.text name, d) ∈ entries := by
  obtain ⟨⟨k, v⟩, first, rfl⟩ := Option.map_eq_some_iff.mp found
  have named : k.text? = some name := by simpa using List.find?_some first
  exact Datum.eq_text_iff.mp named ▸ List.mem_of_find?_eq_some first

def nameTexts (entries : GivenSettings) : List (Option String) := entries.map (·.1.text?)

theorem lookup?_eq_none (missing : some name ∉ nameTexts entries) :
    lookup? entries name = none := by
  cases found : lookup? entries name with
  | none => rfl
  | some d => exact absurd (List.mem_map.mpr ⟨_, mem_of_lookup? found, rfl⟩) missing

theorem lookup?_putEntry {k v : Datum} :
    lookup? (Datum.putEntry k v entries) name = if k.text? = some name then
      some v else lookup? entries name := by
  induction entries with
  | nil => exact lookup?_cons
  | cons entry rest ih =>
    obtain ⟨k', v'⟩ := entry
    rw [Datum.putEntry]
    split
    next same =>
      rw [lookup?_cons, lookup?_cons, Datum.text?_of_sameKey same]
      split <;> rfl
    next other =>
      rw [lookup?_cons, ih, lookup?_cons]
      by_cases named : k'.text? = some name
      · have different : k.text? ≠ some name := fun also => by
          rw [Datum.eq_text_iff.mp named, Datum.eq_text_iff.mp also] at other
          exact other (Datum.sameKey_text name)
        rw [if_pos named, if_neg different, if_pos named]
      · rw [if_neg named, if_neg named]

theorem mem_nameTexts_putEntry {k : Option String}
    (there : k ∈ nameTexts (Datum.putEntry (.text name) d entries)) :
    k = some name ∨ k ∈ nameTexts entries := by
  induction entries with
  | nil => exact .inl (List.mem_singleton.mp there)
  | cons entry rest ih =>
    rw [Datum.putEntry] at there
    split at there
    next => exact .inr there
    next =>
      rcases List.mem_cons.mp there with rfl | in_rest
      · exact .inr List.mem_cons_self
      · exact (ih in_rest).imp_right (List.mem_cons_of_mem _)

theorem nodup_putEntry (nodup : (nameTexts entries).Nodup) :
    (nameTexts (Datum.putEntry (.text name) d entries)).Nodup := by
  induction entries with
  | nil => exact List.pairwise_singleton _ _
  | cons entry rest ih =>
    obtain ⟨missing, nodup_rest⟩ := List.nodup_cons.mp nodup
    rw [Datum.putEntry]
    split
    next => exact nodup
    next other =>
      refine List.nodup_cons.mpr ⟨fun again => ?_, ih nodup_rest⟩
      rcases mem_nameTexts_putEntry again with named | in_rest
      · exact other (Datum.eq_text_iff.mp named ▸ Datum.sameKey_text name)
      · exact missing in_rest

theorem lookup?_override (nodup : (nameTexts later).Nodup) :
    lookup? (override entries later) name = (lookup? later name).or (lookup? entries name) := by
  unfold override
  induction later generalizing entries with
  | nil => rfl
  | cons entry rest ih =>
    obtain ⟨k, v⟩ := entry
    rw [nameTexts, List.map_cons, List.nodup_cons] at nodup
    rw [List.foldl_cons, ih nodup.2, lookup?_putEntry, lookup?_cons]
    split
    next named =>
      have missing : lookup? rest name = none := lookup?_eq_none (named ▸ nodup.1)
      rw [missing]
      rfl
    next => rfl

end Entries

section Variables

variable {environment : List (String × String)} {entries : GivenSettings} {start name : String}

/-- The text of the last variable that is named for a setting. -/
def assigned? (start : String) (environment : List (String × String)) (name : String) :
    Option String :=
  ((environment.filter fun v => settingOf? start v.1 == some name).getLast?).map (·.2)

theorem assigned?_snoc (v : String × String) : assigned? start (environment ++ [v]) name =
    if settingOf? start v.1 = some name then some v.2 else assigned? start environment name := by
  unfold assigned?
  rw [List.filter_append, List.filter_cons, List.filter_nil]
  by_cases named : settingOf? start v.1 = some name
  · rw [if_pos named, if_pos (beq_iff_eq.mpr named), List.getLast?_concat]
    rfl
  · rw [if_neg named, if_neg (named ∘ eq_of_beq), List.append_nil]

structure Holds (start : String) (environment : List (String × String)) (entries : GivenSettings) :
    Prop where
  nodup : (nameTexts entries).Nodup
  unset (name : String) (no_variable : assigned? start environment name = none) :
    lookup? entries name = none
  set (name t : String) (last : assigned? start environment name = some t) :
    ∃ v, valueOf t = .ok v ∧ lookup? entries name = some (.ofValue v)

theorem holds_nil : Holds start [] [] := ⟨List.nodup_nil, fun _ _ => rfl, nofun⟩

theorem Holds.pass (holds : Holds start environment entries) {v : String × String}
    (other : settingOf? start v.1 = none) : Holds start (environment ++ [v]) entries := by
  have same (name : String) : assigned? start (environment ++ [v]) name =
      assigned? start environment name := by
    rw [assigned?_snoc, if_neg (by simp [other])]
  exact ⟨holds.nodup, fun name missing => holds.unset name (same name ▸ missing),
    fun name t last => holds.set name t (same name ▸ last)⟩

theorem Holds.put (holds : Holds start environment entries) {v : String × String} {value : Value}
    (named : settingOf? start v.1 = some name) (read : valueOf v.2 = .ok value) :
    Holds start (environment ++ [v]) (Datum.putEntry (.text name) (.ofValue value) entries) := by
  refine ⟨nodup_putEntry holds.nodup, fun other missing => ?_, fun other t last => ?_⟩
  all_goals
    simp only [assigned?_snoc, named, Option.some.injEq] at *
    rw [lookup?_putEntry]
    simp only [Datum.text, Datum.text?, Option.some.injEq]
  · split at missing
    next => cases missing
    next different => rw [if_neg different, holds.unset other missing]
  · split at last
    next same =>
      cases last
      exact ⟨value, read, if_pos same⟩
    next different =>
      rw [if_neg different]
      exact holds.set other t last

theorem holds_ofVariables (read : ofVariables start environment = .ok entries) :
    Holds start environment entries := by
  unfold ofVariables at read
  induction environment using List.reverseRecOn generalizing entries with
  | nil =>
    cases read
    exact holds_nil
  | append_singleton environment v ih =>
    rw [List.foldlM_append] at read
    obtain ⟨before, read_before, read⟩ := exists_of_bind_eq_ok read
    rw [List.foldlM_cons] at read
    obtain ⟨after, read_last, done⟩ := exists_of_bind_eq_ok read
    cases done
    have holds := ih read_before
    dsimp only at read_last
    split at read_last
    next name named =>
      obtain ⟨value, read_value, put⟩ := exists_of_bind_eq_ok read_last
      cases put
      exact holds.put named read_value
    next other =>
      cases read_last
      exact holds.pass other

end Variables

inductive TextSetting
  | url
  | changelog
  | defaultSchema
  | historyTable
  deriving DecidableEq

namespace TextSetting

variable {entries : GivenSettings} {environment : List (String × String)} {start : String}

def name : TextSetting → String
  | .url => "url"
  | .changelog => "changelog"
  | .defaultSchema => "default_schema"
  | .historyTable => "changelog_table"

def unset : TextSetting → Datum
  | .historyTable => .text defaultHistoryTable
  | _ => .null

def value : TextSetting → Settings → Datum
  | .url, s => s.url
  | .changelog, s => s.changelog
  | .defaultSchema, s => s.defaultSchema
  | .historyTable, s => s.historyTable

theorem value_ofGiven {s : Settings} (k : TextSetting) (done : ofGiven entries = .ok s) :
    k.value s = (lookup? entries k.name).getD k.unset := by
  unfold ofGiven at done
  dsimp only at done
  split at done
  next => cases done
  next =>
    split at done
    next => cases done
    next =>
      cases done
      cases k <;> rfl

theorem value_of_load {file? : Option (String × FileState)} {s : Settings} (k : TextSetting)
    (in_file : ofFile? file? = .ok entries) (loaded : load file? start environment = .ok s) :
    (assigned? start environment k.name = none ∧ k.value s =
      (lookup? entries k.name).getD k.unset) ∨
    ∃ t v, assigned? start environment k.name = some t ∧ valueOf t = .ok v ∧
      k.value s = .ofValue v := by
  unfold load at loaded
  rw [in_file] at loaded
  obtain ⟨later, read, done⟩ :=
    exists_of_bind_eq_ok (show ofVariables start environment >>= _ = .ok s from loaded)
  have holds := holds_ofVariables read
  have value_eq := k.value_ofGiven done
  rw [lookup?_override holds.nodup] at value_eq
  cases last : assigned? start environment k.name with
  | none =>
    rw [holds.unset _ last] at value_eq
    exact .inl ⟨rfl, value_eq⟩
  | some t =>
    obtain ⟨v, read_value, found⟩ := holds.set _ t last
    rw [found] at value_eq
    exact .inr ⟨t, v, rfl, read_value, value_eq⟩

end TextSetting

end Settings

end SchemaMigration
