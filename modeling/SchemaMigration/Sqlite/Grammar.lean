import SchemaMigration.Sqlite.Term
import SchemaMigration.Sqlite.Token

namespace SchemaMigration.Sqlite.Grammar

def words? : List String → List Token → Option (List Token)
  | [], s => some s
  | w :: ws, t :: s => if t.isWord w then words? ws s else none
  | _ :: _, [] => none

def optional (ws : List String) (s : List Token) : Bool × List Token :=
  match words? ws s with
  | some rest => (true, rest)
  | none => (false, s)

def mark? (m : String) : List Token → Option (List Token)
  | .mark n :: s => if m == n then some s else none
  | _ => none

def name? : List Token → Option (String × List Token)
  | t :: s => t.nameOrText?.map fun n => (n, s)
  | [] => none

def plainName? : List Token → Option (String × List Token)
  | t :: s => t.plainName?.map fun n => (n, s)
  | [] => none

def qualifiedName? (s : List Token) : Option ((Option String × String) × List Token) := do
  let (first, rest) ← name? s
  match mark? "." rest with
  | some more => do
    let (second, more) ← name? more
    some ((some first, second), more)
  | none => some ((none, first), rest)

def names? : Nat → List Token → Option (List String × List Token)
  | 0, _ => none
  | fuel + 1, s => do
    let (n, rest) ← name? s
    match mark? "," rest with
    | some more => do
      let (ns, more) ← names? fuel more
      some (n :: ns, more)
    | none => some ([n], rest)

def signed? (s : List Token) : Option (String × List Token) :=
  let (sign, rest) :=
    match s with
    | .mark "+" :: rest => ("", rest)
    | .mark "-" :: rest => ("-", rest)
    | _ => ("", s)
  match rest with
  | .whole n :: rest => some (sign ++ toString n, rest)
  | .hex n :: rest => some (sign ++ toString n, rest)
  | .pointed n _ :: rest => some (sign ++ toString n, rest)
  | _ => none

def typeWords (stops : List String) : List Token → List String × List Token
  | [] => ([], [])
  | t :: s =>
    match t.keyword?.any stops.contains, t.plainName? with
    | false, some n =>
      let (ns, rest) := typeWords stops s
      (n :: ns, rest)
    | _, _ => ([], t :: s)

def type? (stops : List String) (s : List Token) : Option (String × List Token) :=
  let (ns, rest) := typeWords stops s
  let written := Text.join " " ns
  match mark? "(" rest with
  | some more =>
    if ns.isEmpty then some (written, rest)
    else do
      let (first, more) ← signed? more
      match mark? "," more with
      | some more => do
        let (second, more) ← signed? more
        let more ← mark? ")" more
        some (written ++ "(" ++ first ++ "," ++ second ++ ")", more)
      | none => do
        let more ← mark? ")" more
        some (written ++ "(" ++ first ++ ")", more)
  | none => some (written, rest)

def hexCell (n : Nat) : Option Cell :=
  if n < pow2 63 then some (.int n)
  else if n < pow2 64 then some (.int ((n : Int) - pow2 64))
  else none

def literal? : Token → Option Cell
  | .text s => some (.text s)
  | .bytes content => some (.bytes content)
  | .hex n => hexCell n
  | .whole n => some (.ofInt n)
  | .pointed n e => some (.ofReal (Binary64.ofDecimal false n e))
  | .word w => if w.toUpper == "NULL" then some .null else none
  | _ => none

def isLeast (t : Term) (s : List Token) : Bool :=
  match t, s with
  | .literal _, .whole n :: _ => n == pow2 63
  | _, _ => false

def clockWords : List String := ["CURRENT_DATE", "CURRENT_TIME", "CURRENT_TIMESTAMP"]

def clock? (t : Token) : Option String := t.keyword?.filter clockWords.contains

def markedOperators : List (String × Nat × Operator) := [
  ("=", 4, .equal), ("==", 4, .equal), ("<>", 4, .unequal), ("!=", 4, .unequal),
  ("<", 5, .less), ("<=", 5, .atMost), (">", 5, .greater), (">=", 5, .atLeast),
  ("&", 7, .bitAnd), ("|", 7, .bitOr), ("<<", 7, .shiftLeft), (">>", 7, .shiftRight),
  ("+", 8, .add), ("-", 8, .subtract), ("*", 9, .multiply), ("/", 9, .divide), ("%", 9, .remainder),
  ("||", 10, .join), ("->", 10, .part), ("->>", 10, .partCell)]

def comparing : Nat := 4

def leading : Nat := 12

def leads : List (String × Lead) := [("-", .minus), ("+", .plus), ("~", .complement)]

def patternWords : List String := ["LIKE", "GLOB", "REGEXP", "MATCH"]

def operator? : List Token → Option (Nat × Operator × List Token)
  | .mark m :: s => (markedOperators.lookup m).map fun (level, o) => (level, o, s)
  | t :: s =>
    match t.keyword? with
    | some "OR" => some (1, .or, s)
    | some "AND" => some (2, .and, s)
    | some "IS" =>
      match words? ["NOT", "DISTINCT", "FROM"] s, words? ["DISTINCT", "FROM"] s,
          words? ["NOT"] s with
      | some s, _, _ => some (comparing, .same, s)
      | _, some s, _ => some (comparing, .notSame, s)
      | _, _, some s => some (comparing, .notSame, s)
      | _, _, _ => some (comparing, .same, s)
    | _ => none
  | [] => none

def joinKind? (ws : List String) : Option JoinKind :=
  let outer := ws.contains "OUTER"
  let left := ws.contains "LEFT" || ws.contains "FULL"
  let right := ws.contains "RIGHT" || ws.contains "FULL"
  let inner := ws.contains "INNER" || ws.contains "CROSS"
  if (outer && !left && !right) || (inner && (left || right || outer)) then none
  else some ⟨ws.contains "NATURAL", left, right⟩

def joinOf? (s : List Token) : Option (JoinKind × List Token) :=
  let ws := (s.take 3).takeWhile fun t => (t.keyword?.map Token.joinWords.contains).getD false
  let rest := s.drop ws.length
  match words? ["JOIN"] rest with
  | some rest => (joinKind? (ws.filterMap Token.keyword?)).map fun k => (k, rest)
  | none => none

def connection? (s : List Token) : Option (JoinKind × List Token) :=
  match mark? "," s with
  | some rest => some ({}, rest)
  | none => joinOf? s

def startsWindows (s : List Token) : Bool :=
  ((words? ["WINDOW"] s).bind name?).any fun (_, rest) => (words? ["AS"] rest).isSome

def alias? (s : List Token) : Option (Option String × List Token) :=
  match words? ["AS"] s with
  | some rest => (name? rest).map fun (n, rest) => (some n, rest)
  | none =>
    match plainName? s with
    | some (n, rest) => if startsWindows s then some (none, s) else some (some n, rest)
    | none => some (none, s)

def direction? (s : List Token) : Option (Direction × List Token) :=
  let (descends, s) :=
    match words? ["DESC"] s with
    | some rest => (true, rest)
    | none => (false, (optional ["ASC"] s).2)
  match words? ["NULLS", "FIRST"] s, words? ["NULLS", "LAST"] s with
  | some s, _ => some (⟨descends, some true⟩, s)
  | _, some s => some (⟨descends, some false⟩, s)
  | _, _ => some (⟨descends, none⟩, s)

def combination? (s : List Token) : Option (Combination × List Token) :=
  match words? ["UNION", "ALL"] s, words? ["UNION"] s, words? ["INTERSECT"] s,
      words? ["EXCEPT"] s with
  | some s, _, _, _ => some (.unionAll, s)
  | _, some s, _, _ => some (.union, s)
  | _, _, some s, _ => some (.intersect, s)
  | _, _, _, some s => some (.except, s)
  | _, _, _, _ => none

def startsQuery (s : List Token) : Bool :=
  (s.head?.map fun t => t.isWord "SELECT" || t.isWord "VALUES" || t.isWord "WITH").getD false

def frameUnit? (t : Token) : Option FrameUnit :=
  t.keyword?.bind fun w => [("ROWS", FrameUnit.rows), ("RANGE", .range),
    ("GROUPS", .groups)].lookup w

def excluded (s : List Token) : Exclusion × List Token :=
  let forms := [
    (["EXCLUDE", "NO", "OTHERS"], Exclusion.nothing), (["EXCLUDE", "CURRENT", "ROW"], .current),
    (["EXCLUDE", "GROUP"], .group), (["EXCLUDE", "TIES"], .ties)]
  (forms.findSome? fun (ws, e) => (words? ws s).map fun rest => (e, rest)).getD (.nothing, s)

def startsWindow (s : List Token) : Bool :=
  (mark? ")" s).isSome || (words? ["PARTITION", "BY"] s).isSome ||
    (words? ["ORDER", "BY"] s).isSome ||
    (s.head?.bind frameUnit?).isSome

mutual
def term (fuel level : Nat) (s : List Token) : Option (Term × List Token) :=
  match fuel with
  | 0 => none
  | fuel + 1 => do
    let (t, s) ← led fuel s
    continued fuel level t s

def led (fuel : Nat) (s : List Token) : Option (Term × List Token) :=
  match fuel with
  | 0 => none
  | fuel + 1 =>
    match s with
    | .mark m :: rest =>
      match leads.lookup m with
      | some o => do
        let (t, after) ← term fuel leading rest
        if o == .minus && isLeast t rest then some (.literal (.int (-Cell.intLimit)), after)
        else some (.lead o t, after)
      | none => operand fuel s
    | t :: rest =>
      if t.isWord "NOT" then do
        let (t, rest) ← term fuel 3 rest
        some (.lead .not t, rest)
      else operand fuel s
    | [] => none

def continued (fuel level : Nat) (left : Term) (s : List Token) : Option (Term × List Token) :=
  match fuel with
  | 0 => none
  | fuel + 1 =>
    match operator? s with
    | some (at_, o, rest) =>
      if at_ < level then some (left, s)
      else do
        let (right, rest) ← term fuel (at_ + 1) rest
        continued fuel level (.binary o left right) rest
    | none =>
      match words? ["COLLATE"] s with
      | some rest =>
        if 11 < level then some (left, s)
        else do
          let (n, rest) ← name? rest
          continued fuel level (.collate left n) rest
      | none =>
        if comparing < level then some (left, s)
        else
          let (negated, rest) := optional ["NOT"] s
          match compared fuel negated left rest with
          | some (t, rest) => continued fuel level t rest
          | none =>
            match s with
            | t :: rest =>
              match t.keyword? with
              | some "ISNULL" => continued fuel level (.isNull false left) rest
              | some "NOTNULL" => continued fuel level (.isNull true left) rest
              | some w =>
                if w == "IN" || w == "BETWEEN" || patternWords.contains w then none
                else if w == "NOT" then do
                  let rest ← words? ["NULL"] rest
                  continued fuel level (.isNull true left) rest
                else some (left, s)
              | none => some (left, s)
            | [] => some (left, s)

def compared (fuel : Nat) (negated : Bool) (left : Term) (s : List Token) :
    Option (Term × List Token) :=
  match fuel, s with
  | fuel + 1, t :: rest =>
    match t.keyword? with
    | some "BETWEEN" => do
      let (low, rest) ← term fuel comparing rest
      let rest ← words? ["AND"] rest
      let (high, rest) ← term fuel (comparing + 1) rest
      some (.between negated left low high, rest)
    | some "IN" => members fuel negated left rest
    | some w =>
      if !patternWords.contains w then none
      else do
        let (pattern, rest) ← term fuel (comparing + 1) rest
        match words? ["ESCAPE"] rest with
        | some rest => do
          let (e, rest) ← term fuel (comparing + 1) rest
          some (.like negated w left pattern (some e), rest)
        | none => some (.like negated w left pattern none, rest)
    | none => none
  | _, _ => none

def members (fuel : Nat) (negated : Bool) (left : Term) (s : List Token) :
    Option (Term × List Token) :=
  match fuel with
  | 0 => none
  | fuel + 1 =>
    match mark? "(" s with
    | none => do
      let ((schema, n), rest) ← qualifiedName? s
      if (mark? "(" rest).isSome then none
      else
        let all := Query.select false [.all] (some (.table schema n none)) none [] none []
        some (.inQuery negated left all, rest)
    | some rest =>
      if startsQuery rest then do
        let (q, rest) ← query fuel rest
        let rest ← mark? ")" rest
        some (.inQuery negated left q, rest)
      else
        match mark? ")" rest with
        | some rest => some (.inList negated left [], rest)
        | none => do
          let (ts, rest) ← terms fuel rest
          let rest ← mark? ")" rest
          some (.inList negated left ts, rest)

def terms (fuel : Nat) (s : List Token) : Option (List Term × List Token) :=
  match fuel with
  | 0 => none
  | fuel + 1 => do
    let (t, s) ← term fuel 0 s
    match mark? "," s with
    | some rest => do
      let (ts, rest) ← terms fuel rest
      some (t :: ts, rest)
    | none => some ([t], s)

def operand (fuel : Nat) (s : List Token) : Option (Term × List Token) :=
  match fuel, s with
  | _, [] => none
  | 0, _ => none
  | fuel + 1, t :: rest =>
    if t == .mark "(" then parenthesised fuel rest
    else if t == .parameter then some (.parameter, rest)
    else
      match t, literal? t, clock? t with
      | .text n, _, _ => if (mark? "." rest).isSome then named fuel [n] false rest
        else some (.literal (.text n), rest)
      | _, some c, _ => some (.literal c, rest)
      | _, _, some w => some (.clock w, rest)
      | _, _, _ =>
        match t.keyword? with
        | some "CASE" => chosen fuel rest
        | some "EXISTS" => do
          let rest ← mark? "(" rest
          let (q, rest) ← query fuel rest
          let rest ← mark? ")" rest
          some (.isAny q, rest)
        | some "CAST" =>
          match mark? "(" rest with
          | some rest => do
            let (t, rest) ← term fuel 0 rest
            let rest ← words? ["AS"] rest
            let (type, rest) ← type? [] rest
            let rest ← mark? ")" rest
            some (.cast t type, rest)
          | none => t.identifier?.bind fun n => named fuel [n] false rest
        | _ =>
          let inQuotes := match t with
            | .name _ quote => quote == '"'
            | _ => false
          t.identifier?.bind fun n => named fuel [n] inQuotes rest

def named (fuel : Nat) (path : List String) (inQuotes : Bool) (s : List Token) :
    Option (Term × List Token) :=
  match fuel with
  | 0 => none
  | fuel + 1 =>
    match mark? "." s with
    | some rest =>
      if 3 ≤ path.length || (mark? "*" rest).isSome then none
      else do
        let (n, rest) ← name? rest
        named fuel (path ++ [n]) false rest
    | none =>
      match path, mark? "(" s with
      | [n], some rest => called fuel n rest
      | _, _ => some (.name path inQuotes, s)

def called (fuel : Nat) (n : String) (s : List Token) : Option (Term × List Token) :=
  match fuel with
  | 0 => none
  | fuel + 1 =>
    match mark? "*" s with
    | some rest => do
      let rest ← mark? ")" rest
      let (filter, rest) ← filtered fuel rest
      windowed fuel (.callAll n filter) rest
    | none => do
      let (isDistinct, s) := optional ["DISTINCT"] s
      let s := if isDistinct then s else (optional ["ALL"] s).2
      let (args, rest) ← if (mark? ")" s).isSome then some ([], s) else terms fuel s
      let (order, rest) ←
        match words? ["ORDER", "BY"] rest with
        | some rest => orderTerms fuel rest
        | none => some ([], rest)
      let rest ← mark? ")" rest
      let (filter, rest) ← filtered fuel rest
      windowed fuel (.call n isDistinct args order filter) rest

def filtered (fuel : Nat) (s : List Token) : Option (Option Term × List Token) :=
  match fuel with
  | 0 => none
  | fuel + 1 =>
    match (words? ["FILTER"] s).bind (mark? "(") with
    | some rest => do
      let rest ← words? ["WHERE"] rest
      let (t, rest) ← term fuel 0 rest
      let rest ← mark? ")" rest
      some (some t, rest)
    | none => some (none, s)

def windowed (fuel : Nat) (t : Term) (s : List Token) : Option (Term × List Token) :=
  match fuel with
  | 0 => none
  | fuel + 1 =>
    match words? ["OVER"] s with
    | none => some (t, s)
    | some rest =>
      match mark? "(" rest, plainName? rest with
      | some rest, _ => do
        let (w, rest) ← window fuel rest
        some (.over t w s.length, rest)
      | none, some (n, rest) => some (.over t (.mk (some n) [] [] none) s.length, rest)
      | none, none => some (t, s)

def window (fuel : Nat) (s : List Token) : Option (Window × List Token) :=
  match fuel with
  | 0 => none
  | fuel + 1 => do
    let isOwn := startsWindow s
    let (base, s) ←
      if isOwn then some (none, s) else (name? s).map fun (n, rest) => (some n, rest)
    let (parts, s) ←
      match words? ["PARTITION", "BY"] s with
      | some rest => terms fuel rest
      | none => some ([], s)
    let (order, s) ←
      match words? ["ORDER", "BY"] s with
      | some rest => orderTerms fuel rest
      | none => some ([], s)
    let (frame, s) ← framed fuel s
    let s ← mark? ")" s
    some (.mk base parts order frame, s)

def framed (fuel : Nat) (s : List Token) : Option (Option Frame × List Token) :=
  match fuel with
  | 0 => none
  | fuel + 1 =>
    match s.head?.bind frameUnit? with
    | none => some (none, s)
    | some unit => do
      let s := s.drop 1
      let (opening, closing, s) ←
        match words? ["BETWEEN"] s with
        | some rest => do
          let (opening, rest) ← bound fuel rest
          let rest ← words? ["AND"] rest
          let (closing, rest) ← bound fuel rest
          some (opening, closing, rest)
        | none => (bound fuel s).map fun (b, rest) => (b, .current, rest)
      let (exclusion, s) := excluded s
      some (some (.mk unit opening closing exclusion), s)

def bound (fuel : Nat) (s : List Token) : Option (Bound × List Token) :=
  match fuel with
  | 0 => none
  | fuel + 1 =>
    match words? ["UNBOUNDED", "PRECEDING"] s, words? ["UNBOUNDED", "FOLLOWING"] s,
        words? ["CURRENT", "ROW"] s with
    | some rest, _, _ => some (.first, rest)
    | _, some rest, _ => some (.last, rest)
    | _, _, some rest => some (.current, rest)
    | _, _, _ => do
      let (t, s) ← term fuel 0 s
      match words? ["PRECEDING"] s, words? ["FOLLOWING"] s with
      | some rest, _ => some (.before t, rest)
      | _, some rest => some (.behind t, rest)
      | _, _ => none

def windowList (fuel : Nat) (s : List Token) : Option (List (String × Window) × List Token) :=
  match fuel with
  | 0 => none
  | fuel + 1 => do
    let (n, s) ← name? s
    let s ← words? ["AS"] s
    let s ← mark? "(" s
    let (w, s) ← window fuel s
    match mark? "," s with
    | some rest => do
      let (more, rest) ← windowList fuel rest
      some ((n, w) :: more, rest)
    | none => some ([(n, w)], s)

def chosen (fuel : Nat) (s : List Token) : Option (Term × List Token) :=
  match fuel with
  | 0 => none
  | fuel + 1 => do
    let (base, s) ←
      match words? ["WHEN"] s with
      | some _ => some (none, s)
      | none => (term fuel 0 s).map fun (t, s) => (some t, s)
    let (cases, s) ← caseList fuel s
    let (otherwise, s) ←
      match words? ["ELSE"] s with
      | some rest => (term fuel 0 rest).map fun (t, s) => (some t, s)
      | none => some (none, s)
    let s ← words? ["END"] s
    some (.choice base cases otherwise, s)

def caseList (fuel : Nat) (s : List Token) : Option ((List (Term × Term)) × List Token) :=
  match fuel with
  | 0 => none
  | fuel + 1 => do
    let s ← words? ["WHEN"] s
    let (t, s) ← term fuel 0 s
    let s ← words? ["THEN"] s
    let (u, s) ← term fuel 0 s
    if (words? ["WHEN"] s).isSome then do
      let (more, s) ← caseList fuel s
      some ((t, u) :: more, s)
    else some ([(t, u)], s)

def parenthesised (fuel : Nat) (s : List Token) : Option (Term × List Token) :=
  match fuel with
  | 0 => none
  | fuel + 1 =>
    if startsQuery s then do
      let (q, s) ← query fuel s
      let s ← mark? ")" s
      some (.query q, s)
    else do
      let (ts, s) ← terms fuel s
      let s ← mark? ")" s
      match ts with
      | [t] => some (t, s)
      | ts => some (.row ts, s)

def query (fuel : Nat) (s : List Token) : Option (Query × List Token) :=
  match fuel with
  | 0 => none
  | fuel + 1 =>
    match words? ["WITH"] s with
    | some rest => do
      let (tables, rest) ← namings fuel (optional ["RECURSIVE"] rest).2
      let (q, rest) ← combined fuel rest
      some (.naming tables q, rest)
    | none => combined fuel s

def namings (fuel : Nat) (s : List Token) :
    Option ((List (String × List String × Query)) × List Token) :=
  match fuel with
  | 0 => none
  | fuel + 1 => do
    let (n, s) ← name? s
    let (columns, s) ←
      match mark? "(" s with
      | some rest => do
        let (ns, rest) ← names? fuel rest
        let rest ← mark? ")" rest
        some (ns, rest)
      | none => some ([], s)
    let s ← words? ["AS"] s
    let (isKept, rest) := optional ["MATERIALIZED"] s
    let s := if isKept then rest else (optional ["NOT", "MATERIALIZED"] s).2
    let s ← mark? "(" s
    let (q, s) ← query fuel s
    let s ← mark? ")" s
    match mark? "," s with
    | some rest => do
      let (more, rest) ← namings fuel rest
      some ((n, columns, q) :: more, rest)
    | none => some ([(n, columns, q)], s)

def combined (fuel : Nat) (s : List Token) : Option (Query × List Token) :=
  match fuel with
  | 0 => none
  | fuel + 1 => do
    let (q, canArrange, s) ← single fuel s
    extended fuel q canArrange s

def extended (fuel : Nat) (q : Query) (canArrange : Bool) (s : List Token) :
    Option (Query × List Token) :=
  match fuel with
  | 0 => none
  | fuel + 1 =>
    match combination? s with
    | some (c, rest) => do
      let (r, canArrange, rest) ← single fuel rest
      extended fuel (.combine c q r) canArrange rest
    | none => if canArrange then arranged fuel q s else some (q, s)

def single (fuel : Nat) (s : List Token) : Option (Query × Bool × List Token) :=
  match fuel with
  | 0 => none
  | fuel + 1 =>
    match words? ["VALUES"] s with
    | some rest => do
      let (rows, rest) ← rowList fuel rest
      some (.values rows, false, rest)
    | none => do
      let s ← words? ["SELECT"] s
      let (isDistinct, rest) := optional ["DISTINCT"] s
      let s := if isDistinct then rest else (optional ["ALL"] s).2
      let (columns, s) ← resultColumns fuel s
      let (source, s) ←
        match words? ["FROM"] s with
        | some rest => (sources fuel rest).map fun (f, s) => (some f, s)
        | none => some (none, s)
      let (filter, s) ←
        match words? ["WHERE"] s with
        | some rest => (term fuel 0 rest).map fun (t, s) => (some t, s)
        | none => some (none, s)
      let (groups, s) ←
        match words? ["GROUP", "BY"] s with
        | some rest => terms fuel rest
        | none => some ([], s)
      let (having, s) ←
        match words? ["HAVING"] s with
        | some rest => (term fuel 0 rest).map fun (t, s) => (some t, s)
        | none => some (none, s)
      let (windows, s) ←
        match words? ["WINDOW"] s with
        | some rest => windowList fuel rest
        | none => some ([], s)
      some (.select isDistinct columns source filter groups having windows, true, s)

def rowList (fuel : Nat) (s : List Token) : Option (List (List Term) × List Token) :=
  match fuel with
  | 0 => none
  | fuel + 1 => do
    let s ← mark? "(" s
    let (ts, s) ← terms fuel s
    let s ← mark? ")" s
    match mark? "," s with
    | some rest => do
      let (rows, rest) ← rowList fuel rest
      some (ts :: rows, rest)
    | none => some ([ts], s)

def arranged (fuel : Nat) (q : Query) (s : List Token) : Option (Query × List Token) :=
  match fuel with
  | 0 => none
  | fuel + 1 => do
    let (order, s) ←
      match words? ["ORDER", "BY"] s with
      | some rest => orderTerms fuel rest
      | none => some ([], s)
    match words? ["LIMIT"] s with
    | none => some (if order.isEmpty then q else .arrange q order none none, s)
    | some rest => do
      let (limit, rest) ← term fuel 0 rest
      match words? ["OFFSET"] rest, mark? "," rest with
      | some rest, _ => do
        let (offset, rest) ← term fuel 0 rest
        some (.arrange q order (some limit) (some offset), rest)
      | _, some rest => do
        let (count, rest) ← term fuel 0 rest
        some (.arrange q order (some count) (some limit), rest)
      | none, none => some (.arrange q order (some limit) none, rest)

def orderTerms (fuel : Nat) (s : List Token) : Option ((List (Term × Direction)) × List Token) :=
  match fuel with
  | 0 => none
  | fuel + 1 => do
    let (t, s) ← term fuel 0 s
    let (d, s) ← direction? s
    match mark? "," s with
    | some rest => do
      let (more, rest) ← orderTerms fuel rest
      some ((t, d) :: more, rest)
    | none => some ([(t, d)], s)

def resultColumns (fuel : Nat) (s : List Token) : Option (List ResultColumn × List Token) :=
  match fuel with
  | 0 => none
  | fuel + 1 => do
    let (c, s) ← resultColumn fuel s
    match mark? "," s with
    | some rest => do
      let (cs, rest) ← resultColumns fuel rest
      some (c :: cs, rest)
    | none => some ([c], s)

def resultColumn (fuel : Nat) (s : List Token) : Option (ResultColumn × List Token) :=
  match fuel, s with
  | 0, _ => none
  | fuel + 1, s =>
    match mark? "*" s, s with
    | some rest, _ => some (.all, rest)
    | none, n :: .mark "." :: .mark "*" :: rest =>
      n.nameOrText?.map fun n => (.allOf n, rest)
    | none, _ => do
      let (t, s) ← term fuel 0 s
      let (a, s) ← alias? s
      some (.term t a, s)

def sources (fuel : Nat) (s : List Token) : Option (Source × List Token) :=
  match fuel with
  | 0 => none
  | fuel + 1 => do
    let (f, s) ← source fuel s
    joined fuel f s

def joined (fuel : Nat) (left : Source) (s : List Token) : Option (Source × List Token) :=
  match fuel with
  | 0 => none
  | fuel + 1 =>
    match connection? s with
    | none => some (left, s)
    | some (kind, rest) => do
      let (right, rest) ← source fuel rest
      match words? ["ON"] rest, (words? ["USING"] rest).bind (mark? "(") with
      | some rest, _ => do
        let (t, rest) ← term fuel 0 rest
        joined fuel (.join kind left right (some t) []) rest
      | _, some rest => do
        let (ns, rest) ← names? fuel rest
        let rest ← mark? ")" rest
        joined fuel (.join kind left right none ns) rest
      | _, _ => joined fuel (.join kind left right none []) rest

def source (fuel : Nat) (s : List Token) : Option (Source × List Token) :=
  match fuel with
  | 0 => none
  | fuel + 1 =>
    match mark? "(" s with
    | some rest =>
      if startsQuery rest then do
        let (q, rest) ← query fuel rest
        let rest ← mark? ")" rest
        let (a, rest) ← alias? rest
        some (.query q a, rest)
      else do
        let (f, rest) ← sources fuel rest
        let rest ← mark? ")" rest
        some (f, rest)
    | none => do
      let ((schema, n), rest) ← qualifiedName? s
      match mark? "(" rest with
      | some rest => do
        let (args, rest) ←
          if (mark? ")" rest).isSome then some ([], rest) else terms fuel rest
        let rest ← mark? ")" rest
        let (a, rest) ← alias? rest
        some (.call n args a, rest)
      | none => do
        let (a, rest) ← alias? rest
        some (.table schema n a, (optional ["NOT", "INDEXED"] rest).2)
end

def fuelFor (s : List Token) : Nat := 16 * (s.length + 4)

def term? (s : List Token) : Option (Term × List Token) := term (fuelFor s) 0 s

def query? (s : List Token) : Option (Query × List Token) := query (fuelFor s) s

end SchemaMigration.Sqlite.Grammar
