import SchemaMigration.ChangeLog
import SchemaMigration.Proofs.Path.Segments

/-! Paths and their normal forms. What is normal is its own normal form, so that a changeset is at
the path of the changelog that it is declared in, and spellings of one path have one normal form. -/

namespace SchemaMigration

namespace Path

open Text (splitOn)

variable {a s t segment : List Char} {x : Char} {v w : Value} {before p q : String}

def Agrees (s t : List Char) : Prop :=
  ∀ rooted kept, (splitOn '/' s).foldl (pushSegment rooted) kept =
    (splitOn '/' t).foldl (pushSegment rooted) kept

theorem agrees_idle (idle : segment = [] ∨ segment = ['.']) : Agrees (segment ++ '/' :: s) s :=
  fun rooted kept => by
  have no_slash : '/' ∉ segment := by rcases idle with rfl | rfl <;> decide
  rw [Text.splitOn_append, Text.splitOn_of_notMem no_slash, List.foldl_append, List.foldl_cons,
    pushSegment_of_idle idle, List.foldl_nil]

theorem normalSlashed_behind (other : x ≠ '/') (agrees : Agrees s t) :
    normalSlashed (a ++ [x] ++ '/' :: s) = normalSlashed (a ++ [x] ++ '/' :: t) := by
  have root : rootSlashes (a ++ [x] ++ '/' :: s) = rootSlashes (a ++ [x] ++ '/' :: t) := by
    rw [← List.append_cons, ← List.append_cons, rootSlashes_append other,
      ← rootSlashes_append other]
  have kept : keptOf (a ++ [x] ++ '/' :: s) = keptOf (a ++ [x] ++ '/' :: t) := by
    rw [keptOf, keptOf, root, Text.splitOn_append, Text.splitOn_append, List.foldl_append,
      List.foldl_append, agrees]
  rw [normalSlashed_eq, normalSlashed_eq, written, written, root, kept]

/-- Whether a text ends in a segment that is not empty. -/
def EndsInSegment (p : String) : Prop := ∃ a x, p.toList = a ++ [x] ∧ x ≠ '/' ∧ x ≠ '\\'

theorem normalize_of_ne_empty (some_char : p ≠ "") :
    normalize p = String.ofList (normalSlashed (slashed p.toList)) := by
  rw [normalize, normalChars_of_ne_nil (mt String.toList_eq_nil_iff.mp some_char)]

theorem normalize_behind (ends : EndsInSegment before)
    (agrees : Agrees (slashed p.toList) (slashed q.toList)) :
    normalize (before ++ "/" ++ p) = normalize (before ++ "/" ++ q) := by
  obtain ⟨a, x, letters, no_slash, no_backslash⟩ := ends
  have some_char (r : String) : before ++ "/" ++ r ≠ "" := fun empty => by
    simpa [letters] using congrArg String.toList empty
  have segment (r : String) :
      slashed (before ++ "/" ++ r).toList = slashed a ++ [x] ++ '/' :: slashed r.toList := by
    have last : slashed [x] = [x] := slashed_eq_self (by simpa using no_backslash.symm)
    rw [String.toList_append, String.toList_append, letters, slashed_append, slashed_append,
      slashed_append, last, List.append_assoc _ (slashed _)]
    rfl
  rw [normalize_of_ne_empty (some_char p), normalize_of_ne_empty (some_char q), segment, segment,
    normalSlashed_behind no_slash agrees]

theorem normalize_doubled (ends : EndsInSegment before) (after : String) :
    normalize (before ++ "//" ++ after) = normalize (before ++ "/" ++ after) := by
  have spelled : before ++ "//" ++ after = before ++ "/" ++ ("/" ++ after) :=
    String.toList_inj.mp (by simp)
  rw [spelled]
  refine normalize_behind ends ?_
  rw [String.toList_append, slashed_append]
  exact agrees_idle (.inl rfl)

theorem normalize_dotted (ends : EndsInSegment before) (after : String) :
    normalize (before ++ "/./" ++ after) = normalize (before ++ "/" ++ after) := by
  have spelled : before ++ "/./" ++ after = before ++ "/" ++ ("./" ++ after) :=
    String.toList_inj.mp (by simp)
  rw [spelled]
  refine normalize_behind ends ?_
  rw [String.toList_append, slashed_append]
  exact agrees_idle (.inr rfl)

theorem normalize_dot_last (ends : EndsInSegment before) :
    normalize (before ++ "/.") = normalize (before ++ "/") := by
  have behind := normalize_behind (p := ".") (q := "") ends fun _ _ => rfl
  rwa [String.append_assoc, String.append_empty] at behind

theorem normalize_backslash (before after : String) :
    normalize (before ++ "\\" ++ after) = normalize (before ++ "/" ++ after) := by
  have some_char (separator : String) (some_separator : separator ≠ "") :
      before ++ separator ++ after ≠ "" := by
    simp [some_separator]
  have slashed_eq : slashed (before ++ "\\" ++ after).toList =
      slashed (before ++ "/" ++ after).toList := by
    rw [String.toList_append, String.toList_append, String.toList_append, String.toList_append,
      slashed_append, slashed_append, slashed_append, slashed_append]
    rfl
  rw [normalize_of_ne_empty (some_char "\\" (by decide)),
    normalize_of_ne_empty (some_char "/" (by decide)), slashed_eq]

theorem normalize_normalize (p : String) : normalize (normalize p) = normalize p := by
  rw [normalize, normalize, String.toList_ofList,
    normalChars_eq_self_iff.mpr (isNormal_normalChars p.toList)]

theorem normalize_eq_empty_iff : normalize p = "" ↔ p = "" := by
  rw [← String.toList_eq_nil_iff, normalize, String.toList_ofList, normalChars_eq_nil_iff,
    String.toList_eq_nil_iff]

theorem ofDeclared_text (p : String) : ofDeclared (.text p) = .ok (.text (normalize p)) := by
  unfold ofDeclared
  split
  next => rfl
  next none_given =>
    have empty : p = "" := by simpa [Value.isTrue] using none_given
    rw [empty]
    rfl

theorem ofDeclared_ofDeclared (made : ofDeclared v = .ok w) : ofDeclared w = .ok w := by
  unfold ofDeclared at made
  split at made
  next =>
    cases v <;> cases made
    rw [ofDeclared_text, normalize_normalize]
  next none_given =>
    cases made
    rw [ofDeclared, if_neg none_given]

end Path

namespace ChangeLog

variable {start log : ChangeLog}

/-- What becomes of a changelog when changesets are added to it and declared in it. -/
inductive Grows (start : ChangeLog) : ChangeLog → Prop
  | here : Grows start start
  | add {log : ChangeLog} (c : ChangeSet) (grows : Grows start log) : Grows start (log.add c)
  | declare {log after : ChangeLog} {c declared : ChangeSet} (grows : Grows start log)
      (done : log.declare c = .ok (declared, after)) : Grows start after

theorem declare_of_normal (normal : Path.ofDeclared log.path = .ok log.path) (c : ChangeSet) :
    log.declare c = .ok ({ c with path := log.path }, log.add { c with path := log.path }) := by
  rw [declare, ChangeSet.normalized, normal]
  rfl

theorem Grows.path_eq (normal : Path.ofDeclared start.path = .ok start.path)
    (grows : Grows start log) :
    log.path = start.path := by
  induction grows with
  | here => rfl
  | add c grows ih => exact ih
  | @declare log after c declared grows done ih =>
    rw [declare_of_normal (ih ▸ normal) c] at done
    cases done
    exact ih

theorem normal_of_made {made : ChangeLog} (done : log.normalized = .ok made) :
    Path.ofDeclared made.path = .ok made.path := by
  unfold normalized at done
  cases at_path : Path.ofDeclared log.path with
  | error f =>
    rw [at_path] at done
    cases done
  | ok path =>
    rw [at_path] at done
    cases done
    exact Path.ofDeclared_ofDeclared at_path

theorem Grows.declare_eq (done : log.normalized = .ok start) {grown : ChangeLog}
    (grows : Grows start grown)
    (c : ChangeSet) :
    grown.path = start.path ∧
      grown.declare c = .ok ({ c with path := grown.path },
        grown.add { c with path := grown.path }) := by
  have normal := normal_of_made done
  have same_path := grows.path_eq normal
  exact ⟨same_path, declare_of_normal (same_path ▸ normal) c⟩

theorem normalized_of_text {p : String} (at_path : log.path = .text p) :
    log.normalized = .ok { log with path := .text (Path.normalize p) } := by
  rw [normalized, at_path, Path.ofDeclared_text]
  rfl

end ChangeLog

namespace Path

/-- The normal form of a path is normal, and its own normal form. A slash behind a segment that is
doubled, or has a segment `.` behind it, and a slash that is a backslash make no difference.
Whatever is added to a changelog or declared in it, a changeset can be declared in it, and has its
path. -/
theorem normalize_canonical (p : String) :
    normalize (normalize p) = normalize p ∧ IsNormal (normalize p).toList ∧
    '\\' ∉ (normalize p).toList ∧
    (normalize p = "" ↔ p = "") ∧
    (∀ before after, p = before ++ "/" ++ after → EndsInSegment before →
      normalize (before ++ "//" ++ after) = normalize p ∧
      normalize (before ++ "/./" ++ after) = normalize p ∧
      (after = "" → normalize (before ++ "/.") = normalize p)) ∧
    (∀ before after, p = before ++ "/" ++ after → normalize (before ++ "\\" ++ after) =
      normalize p) ∧
    ∀ log : ChangeLog, log.path = .text p → ∃ made, log.normalized = .ok made ∧
      made.path = .text (normalize p) ∧
      ∀ grown c, made.Grows grown → ∃ declared, grown.declare c =
        .ok (declared, grown.add declared) ∧
        declared.path = grown.path ∧ grown.path = made.path := by
  have normal : IsNormal (normalize p).toList := by
    rw [normalize, String.toList_ofList]
    exact isNormal_normalChars p.toList
  refine ⟨normalize_normalize p, normal, normal.no_backslash, normalize_eq_empty_iff, ?_, ?_, ?_⟩
  · rintro before after rfl ends
    refine ⟨normalize_doubled ends after, normalize_dotted ends after, ?_⟩
    rintro rfl
    rw [normalize_dot_last ends, String.append_empty]
  · rintro before after rfl
    exact normalize_backslash before after
  · intro log at_path
    have done := ChangeLog.normalized_of_text at_path
    refine ⟨_, done, rfl, fun grown c grows => ?_⟩
    obtain ⟨same_path, declared⟩ := grows.declare_eq done c
    exact ⟨_, declared, rfl, same_path⟩

theorem normalize_canonical_main :
    EndsInSegment "db" ∧ normalize "db/main.xml" = "db/main.xml" ∧
    normalize "db//main.xml" = "db/main.xml" ∧
    normalize "db/./main.xml" = "db/main.xml" ∧ normalize "db\\main.xml" = "db/main.xml" ∧
    ∃ made declared, ChangeLog.normalized { path := .text "db/main.xml" } = .ok made ∧
      made.declare { id := .text "1", author := .text "alice", path := .null } =
        .ok (declared, made.add declared) ∧
      declared.path = .text "db/main.xml" := by
  have ends : EndsInSegment "db" := ⟨['d'], 'b', rfl, by decide, by decide⟩
  have itself : normalize "db/main.xml" = "db/main.xml" := by decide +kernel
  obtain ⟨-, -, -, -, same, backslash, declares⟩ := normalize_canonical "db/main.xml"
  obtain ⟨doubled, dotted, -⟩ := same "db" "main.xml" rfl ends
  obtain ⟨made, made_eq, path_eq, declares⟩ := declares { path := .text "db/main.xml" } rfl
  obtain ⟨declared, done, at_log, -⟩ :=
    declares made { id := .text "1", author := .text "alice", path := .null } .here
  refine ⟨ends, itself, ?_, ?_, ?_, made, declared, made_eq, done, ?_⟩
  · exact doubled.trans itself
  · exact dotted.trans itself
  · exact (backslash "db" "main.xml" rfl).trans itself
  · rw [at_log, path_eq, itself]

end Path

end SchemaMigration
