import SchemaMigration.Path

namespace SchemaMigration.Path

open Text (splitOn joinOn)

abbrev up : List Char := ['.', '.']

structure IsPlain (segment : List Char) : Prop where
  no_slash : '/' ∉ segment
  no_backslash : '\\' ∉ segment

structure IsName (segment : List Char) : Prop extends IsPlain segment where
  some_char : segment ≠ []
  no_dot : segment ≠ ['.']
  no_dots : segment ≠ up

/-- Paths in normal form: the empty one, the place where one is, names behind one slash or two, and
names behind ups. -/
inductive IsNormal : List Char → Prop
  | nothing : IsNormal []
  | here : IsNormal ['.']
  | rooted {root : Nat} {names : List (List Char)} (one_or_two : root = 1 ∨ root = 2)
      (all_names : ∀ name ∈ names, IsName name) :
        IsNormal (List.replicate root '/' ++ joinOn '/' names)
  | relative {ups : Nat} {names : List (List Char)}
    (some_segment : List.replicate ups up ++ names ≠ [])
      (all_names : ∀ name ∈ names, IsName name) :
        IsNormal (joinOn '/' (List.replicate ups up ++ names))

variable {rooted : Bool} {kept segments names : List (List Char)} {segment p s a : List Char}
  {x : Char} {n m : Nat}

theorem isPlain_up : IsPlain up := ⟨by decide, by decide⟩

theorem IsPlain.cases (plain : IsPlain segment) :
    (segment = [] ∨ segment = ['.']) ∨ IsName segment ∨ segment = up := by
  by_cases idle : segment = [] ∨ segment = ['.']
  · exact .inl idle
  · by_cases leads_up : segment = up
    · exact .inr (.inr leads_up)
    · obtain ⟨some_char, no_dot⟩ := not_or.mp idle
      exact .inr (.inl ⟨plain, some_char, no_dot, leads_up⟩)

theorem pushSegment_of_idle (idle : segment = [] ∨ segment = ['.']) :
    pushSegment rooted kept segment = kept := by
  rcases idle with rfl | rfl <;> rfl

theorem pushSegment_name (name : IsName segment) :
    pushSegment rooted kept segment = segment :: kept := by
  simp [pushSegment, name.some_char, name.no_dot, name.no_dots]

theorem pushSegment_up_nil : pushSegment rooted [] up = if rooted then [] else [up] := rfl

theorem pushSegment_up_cons : pushSegment rooted (segment :: kept) up =
    if segment = up then up :: segment :: kept else kept := by
  rw [pushSegment, if_neg (by decide), if_neg (by decide)]
  simp only [beq_iff_eq]

theorem pushSegment_ups :
    pushSegment false (List.replicate n up) up = List.replicate (n + 1) up := by
  cases n with
  | zero => rfl
  | succ n =>
    rw [List.replicate_succ, pushSegment_up_cons, if_pos rfl, ← List.replicate_succ,
      ← List.replicate_succ]

inductive IsStack (rooted : Bool) : List (List Char) → Prop
  | intro {names : List (List Char)} {ups : Nat} (all_names : ∀ name ∈ names, IsName name)
      (under_root : rooted = true → ups = 0) : IsStack rooted (names ++ List.replicate ups up)

theorem isStack_ups (under_root : rooted = true → n = 0) : IsStack rooted (List.replicate n up) :=
  @IsStack.intro rooted [] n (List.forall_mem_nil _) under_root

theorem isStack_nil : IsStack rooted [] := @isStack_ups rooted 0 fun _ => rfl

theorem IsStack.push (stack : IsStack rooted kept) (plain : IsPlain segment) :
    IsStack rooted (pushSegment rooted kept segment) := by
  obtain @⟨names, ups, all_names, under_root⟩ := stack
  rcases plain.cases with idle | name | rfl
  · rw [pushSegment_of_idle idle]
    exact .intro all_names under_root
  · rw [pushSegment_name name, ← List.cons_append]
    exact .intro (List.forall_mem_cons.mpr ⟨name, all_names⟩) under_root
  · cases names with
    | cons last names =>
      -- a name is left again
      obtain ⟨last_name, all_names⟩ := List.forall_mem_cons.mp all_names
      rw [List.cons_append, pushSegment_up_cons, if_neg last_name.no_dots]
      exact .intro all_names under_root
    | nil =>
      rw [List.nil_append]
      cases rooted with
      | true =>
        rw [under_root rfl, List.replicate_zero, pushSegment_up_nil]
        exact isStack_nil
      | false =>
        rw [pushSegment_ups]
        exact isStack_ups nofun

theorem IsStack.run (stack : IsStack rooted kept)
    (all_plain : ∀ segment ∈ segments, IsPlain segment) :
    IsStack rooted (segments.foldl (pushSegment rooted) kept) := by
  induction segments generalizing kept with
  | nil => exact stack
  | cons segment rest ih =>
    obtain ⟨plain, rest_plain⟩ := List.forall_mem_cons.mp all_plain
    exact ih (stack.push plain) rest_plain

theorem run_names (all_names : ∀ name ∈ names, IsName name) :
    names.foldl (pushSegment rooted) kept = names.reverse ++ kept := by
  induction names generalizing kept with
  | nil => rfl
  | cons name rest ih =>
    obtain ⟨first_name, rest_names⟩ := List.forall_mem_cons.mp all_names
    rw [List.foldl_cons, pushSegment_name first_name, ih rest_names, List.reverse_cons,
      List.append_assoc, List.singleton_append]

theorem run_ups :
    (List.replicate n up).foldl (pushSegment false) (List.replicate m up) = List.replicate
    (n + m) up := by
  induction n generalizing m with
  | zero => rw [Nat.zero_add]; rfl
  | succ n ih =>
    rw [List.replicate_succ, List.foldl_cons, pushSegment_ups, ih, Nat.add_assoc, Nat.add_comm 1 m]

theorem run_nothing : (List.replicate n []).foldl (pushSegment rooted) kept = kept := by
  induction n with
  | zero => rfl
  | succ n ih => exact ih

theorem rootSlashes_cases (p : List Char) :
    rootSlashes p = 0 ∨ rootSlashes p = 1 ∨ rootSlashes p = 2 := by
  unfold rootSlashes
  split <;> simp

theorem rootSlashes_replicate (unrooted : s.head? ≠ some '/') :
    rootSlashes (List.replicate n '/' ++ s) = if n ≤ 2 then n else 1 := by
  match n with
  | 0 | 1 | 2 => cases s <;> simp_all [rootSlashes, List.replicate]
  | n + 3 => rfl

theorem exists_replicate (p : List Char) :
    ∃ n s, p = List.replicate n '/' ++ s ∧ s.head? ≠ some '/' := by
  induction p with
  | nil => exact ⟨0, [], rfl, nofun⟩
  | cons c rest ih =>
    by_cases slash : c = '/'
    · obtain ⟨n, s, rfl, unrooted⟩ := ih
      exact ⟨n + 1, s, by rw [slash, List.replicate_succ, List.cons_append], unrooted⟩
    · exact ⟨0, c :: rest, rfl, by simpa using slash⟩

theorem rootSlashes_append (other : x ≠ '/') :
    rootSlashes (a ++ x :: s) = rootSlashes (a ++ [x]) := by
  obtain ⟨n, b, rfl, unrooted⟩ := exists_replicate a
  have still_unrooted (t : List Char) : (b ++ x :: t).head? ≠ some '/' := by
    cases b with
    | nil => simpa using other
    | cons c b => exact unrooted
  rw [List.append_assoc, List.append_assoc, rootSlashes_replicate (still_unrooted s),
    rootSlashes_replicate (still_unrooted [])]

theorem head?_joinOn {parts : List (List Char)} (some_char : segment ≠ []) :
    (joinOn '/' (segment :: parts)).head? = segment.head? := by
  obtain ⟨c, rest, rfl⟩ := List.exists_cons_of_ne_nil some_char
  cases parts <;> rfl

theorem unrooted_joinOn {parts : List (List Char)} (some_char : ∀ part ∈ parts, part ≠ [])
    (no_slash : ∀ part ∈ parts, '/' ∉ part) : (joinOn '/' parts).head? ≠ some '/' := by
  cases parts with
  | nil => nofun
  | cons part rest =>
    rw [head?_joinOn (some_char part List.mem_cons_self)]
    exact fun first => no_slash part List.mem_cons_self (List.mem_of_mem_head? first)

theorem splitOn_replicate :
    splitOn '/' (List.replicate n '/' ++ s) = List.replicate n [] ++ splitOn '/' s := by
  induction n with
  | zero => rfl
  | succ n ih => rw [List.replicate_succ, List.cons_append, Text.splitOn_separator, ih]; rfl

def keptOf (p : List Char) : List (List Char) :=
  (splitOn '/' p).foldl (pushSegment (rootSlashes p != 0)) []

def written (p : List Char) : List Char :=
  List.replicate (rootSlashes p) '/' ++ joinOn '/' (keptOf p).reverse

theorem normalSlashed_eq : normalSlashed p = if written p = [] then ['.'] else written p := by
  unfold normalSlashed
  simp only [beq_iff_eq]
  rfl

theorem isStack_keptOf (no_backslash : '\\' ∉ p) : IsStack (rootSlashes p != 0) (keptOf p) :=
  isStack_nil.run fun _ found =>
    ⟨Text.notMem_of_mem_splitOn found, fun there =>
      no_backslash (Text.mem_of_mem_splitOn found there)⟩

theorem isNormal_normalSlashed (no_backslash : '\\' ∉ p) : IsNormal (normalSlashed p) := by
  rw [normalSlashed_eq]
  split
  next => exact .here
  next some_char =>
    unfold written at some_char ⊢
    have stack := isStack_keptOf no_backslash
    generalize keptOf p = kept at *
    obtain @⟨names, ups, all_names, under_root⟩ := stack
    rw [List.reverse_append, List.reverse_replicate] at some_char ⊢
    have all_names : ∀ name ∈ names.reverse, IsName name :=
      fun name there => all_names name (List.mem_reverse.mp there)
    by_cases rooted : rootSlashes p = 0
    · rw [rooted, List.replicate_zero, List.nil_append] at some_char ⊢
      exact .relative (fun none_left => some_char (by rw [none_left]; rfl)) all_names
    · rw [under_root (bne_iff_ne.mpr rooted), List.replicate_zero, List.nil_append]
      exact .rooted ((rootSlashes_cases p).resolve_left rooted) all_names

theorem run_joinOn (no_slash : ∀ segment ∈ segments, '/' ∉ segment) :
    (splitOn '/' (joinOn '/' segments)).foldl (pushSegment rooted) kept = segments.foldl
    (pushSegment rooted) kept := by
  cases segments with
  | nil => rfl
  | cons segment rest => rw [Text.splitOn_joinOn (List.cons_ne_nil _ _) no_slash]

theorem normalSlashed_of_kept (some_char : List.replicate n '/' ++ joinOn '/' segments ≠ [])
    (plain : ∀ segment ∈ segments, segment ≠ [] ∧ '/' ∉ segment) (few : n ≤ 2)
    (run : segments.foldl (pushSegment (n != 0)) [] = segments.reverse) :
    normalSlashed (List.replicate n '/' ++ joinOn '/' segments) = List.replicate n '/' ++
      joinOn '/' segments := by
  have no_slash : ∀ segment ∈ segments, '/' ∉ segment := fun segment there =>
    (plain segment there).2
  have root : rootSlashes (List.replicate n '/' ++ joinOn '/' segments) = n := by
    rw [rootSlashes_replicate (unrooted_joinOn (fun segment there => (plain segment there).1)
      no_slash), if_pos few]
  have kept : keptOf (List.replicate n '/' ++ joinOn '/' segments) = segments.reverse := by
    rw [keptOf, root, splitOn_replicate, List.foldl_append, run_nothing, run_joinOn no_slash, run]
  rw [normalSlashed_eq, written, root, kept, List.reverse_reverse, if_neg some_char]

theorem normalSlashed_eq_self (normal : IsNormal p) (some_char : p ≠ []) : normalSlashed p = p := by
  cases normal with
  | nothing => exact absurd rfl some_char
  | here => rfl
  | @rooted root names one_or_two all_names =>
    refine normalSlashed_of_kept some_char (fun name there => ?_) (by omega) ?_
    · exact ⟨(all_names name there).some_char, (all_names name there).no_slash⟩
    · rw [run_names all_names, List.append_nil]
  | @relative ups names some_segment all_names =>
    have run : (List.replicate ups up ++ names).foldl (pushSegment false) [] =
        (List.replicate ups up ++ names).reverse := by
      rw [List.foldl_append, ← List.replicate_zero, run_ups, run_names all_names,
        List.reverse_append, List.reverse_replicate, Nat.add_zero]
    refine @normalSlashed_of_kept _ 0 some_char (fun segment there => ?_) (Nat.zero_le 2) run
    rcases List.mem_append.mp there with is_up | is_name
    · rw [List.eq_of_mem_replicate is_up]
      exact ⟨by decide, isPlain_up.no_slash⟩
    · exact ⟨(all_names segment is_name).some_char, (all_names segment is_name).no_slash⟩

theorem IsNormal.no_backslash (normal : IsNormal p) : '\\' ∉ p := by
  intro there
  cases normal with
  | nothing => cases there
  | here => exact absurd there (by decide)
  | rooted one_or_two all_names =>
    rcases List.mem_append.mp there with in_root | in_names
    · exact absurd (List.eq_of_mem_replicate in_root) (by decide)
    · obtain same | ⟨name, is_name, in_name⟩ := Text.mem_joinOn in_names
      · exact absurd same (by decide)
      · exact (all_names name is_name).no_backslash in_name
  | relative some_segment all_names =>
    obtain same | ⟨segment, is_segment, in_segment⟩ := Text.mem_joinOn there
    · exact absurd same (by decide)
    · rcases List.mem_append.mp is_segment with is_up | is_name
      · exact isPlain_up.no_backslash (List.eq_of_mem_replicate is_up ▸ in_segment)
      · exact (all_names segment is_name).no_backslash in_segment

def slashed (p : List Char) : List Char := Text.replaceChar '\\' ['/'] p

theorem slashed_append (p q : List Char) : slashed (p ++ q) = slashed p ++ slashed q :=
  List.flatMap_append

theorem no_backslash_slashed : '\\' ∉ slashed p := by
  intro there
  obtain ⟨c, -, image⟩ := List.mem_flatMap.mp there
  split at image
  next => exact absurd image (by decide)
  next other => exact other (beq_iff_eq.mpr (List.mem_singleton.mp image).symm)

theorem slashed_eq_self (no_backslash : '\\' ∉ p) : slashed p = p := by
  induction p with
  | nil => rfl
  | cons c rest ih =>
    obtain ⟨other, no_backslash⟩ := List.ne_and_not_mem_of_not_mem_cons no_backslash
    rw [← List.singleton_append, slashed_append, ih no_backslash]
    simp [slashed, Text.replaceChar, Ne.symm other]

theorem normalChars_of_ne_nil (some_char : p ≠ []) : normalChars p = normalSlashed (slashed p) := by
  rw [normalChars, if_neg (by simpa using some_char), slashed]

theorem isNormal_normalChars (p : List Char) : IsNormal (normalChars p) := by
  by_cases empty : p = []
  · rw [empty]
    exact .nothing
  · rw [normalChars_of_ne_nil empty]
    exact isNormal_normalSlashed no_backslash_slashed

theorem normalChars_eq_self_iff : normalChars p = p ↔ IsNormal p := by
  refine ⟨fun same => same ▸ isNormal_normalChars p, fun normal => ?_⟩
  by_cases empty : p = []
  · rw [empty]
    rfl
  · rw [normalChars_of_ne_nil empty, slashed_eq_self normal.no_backslash,
      normalSlashed_eq_self normal empty]

theorem normalChars_eq_nil_iff : normalChars p = [] ↔ p = [] := by
  refine ⟨fun none_left => ?_, fun empty => by rw [empty]; rfl⟩
  cases p with
  | nil => rfl
  | cons c rest =>
    rw [normalChars_of_ne_nil (List.cons_ne_nil c rest), normalSlashed_eq] at none_left
    split at none_left
    next => cases none_left
    next some_char => exact absurd none_left some_char

end SchemaMigration.Path
