import SchemaMigration.Sqlite.Evaluation.Frame
import SchemaMigration.Sqlite.Evaluation.Growth
import SchemaMigration.Sqlite.Evaluation.Operation
import SchemaMigration.Sqlite.Evaluation.Output
import SchemaMigration.Sqlite.Inquiry

namespace SchemaMigration.Sqlite

namespace Evaluation

mutual
def cell (fuel : Nat) (s : Scope) (t : Term) : Except Fault Cell :=
  match fuel with
  | 0 => .error (.operational "parser stack overflow")
  | fuel + 1 =>
    match t with
    | .literal c => .ok c
    | .clock word => .ok (.text (s.content.occasion.text word))
    | .name path inQuotes =>
      match s.meaning path with
      | .slot slot => .ok slot.cell
      | .alias_ t levels => cell fuel { s with levels := levels } t
      | .ambiguous => .error (.operational "ambiguous column name")
      | .unknown =>
        match path, truthName? path inQuotes with
        | _, some b => .ok (.ofBool b)
        | [n], none => if inQuotes then .ok (.text n) else .error (Fault.noColumn n)
        | path, none => .error (Fault.noColumn (Text.join "." path))
    | .parameter => .error (.programming "Incorrect number of bindings supplied")
    | .lead .minus (.literal (.real x)) => .ok (.real x.neg)
    | .lead o t => do
      let c ← cell fuel s t
      match o with
      | .not => .ok (.ofTruth (c.truth.map (!·)))
      | .minus => .ok c.negate
      | .plus => .ok c
      | .complement => .ok c.complement
    | .binary o a b =>
      if a.isRow || b.isRow then do
        let x ← slots fuel s a
        let y ← slots fuel s b
        compareRows o x y
      else do
        let x ← cell fuel s a
        let y ← cell fuel s b
        match s.truthTest? o b with
        | some b => .ok (.ofBool ((x.truth == some b) == (o == .same)))
        | none =>
          operate o (Cell.commonAffinity? (s.affinity? a) (s.affinity? b)) (s.collation a b) x y
    | .isNull negated t => do
      let c ← cell fuel s t
      .ok (.ofBool (c.isNull != negated))
    | .between negated (.row ts) low high => do
      let x ← slots fuel s (.row ts)
      let a ← slots fuel s low
      let b ← slots fuel s high
      let above ← compareRows .atLeast x a
      let below ← compareRows .atMost x b
      .ok (.ofTruth ((Cell.and above.truth below.truth).map (· != negated)))
    | .between negated t low high => do
      let x ← cell fuel s t
      let a ← cell fuel s low
      let b ← cell fuel s high
      let above := (Cell.compareOperands? (Cell.commonAffinity? (s.affinity? t) (s.affinity? low))
        (s.collation t low) x a).map (holds .atLeast)
      let below := (Cell.compareOperands? (Cell.commonAffinity? (s.affinity? t) (s.affinity? high))
        (s.collation t high) x b).map (holds .atMost)
      .ok (.ofTruth ((Cell.and above below).map (· != negated)))
    | .inList negated _ [] => .ok (.ofBool negated)
    | .inList negated t members => do
      let x ← cell fuel s t
      let cells ← members.mapM (cell fuel s)
      .ok (isAmong negated (s.affinity? t) ((s.collation? t).getD .binary)
        x cells)
    | .inQuery negated (.row ts) q => do
      let row ← slots fuel s (.row ts)
      let result ← rows fuel s q
      isRowAmong negated row result.columns result.rows
    | .inQuery negated t q => do
      let x ← cell fuel s t
      let result ← rows fuel s q
      match result.columns with
      | [c] =>
        .ok (isAmong negated (Cell.commonAffinity? (s.affinity? t) c.affinity)
          ((s.collation? t).getD .binary) x
          (result.rows.filterMap List.head?))
      | _ => .error (.operational "sub-select returns another number of columns")
    | .like negated kind t pattern escape => do
      let x ← cell fuel s t
      let p ← cell fuel s pattern
      let e ← escape.mapM (cell fuel s)
      let result ← Cell.like kind x p e
      .ok (if negated then .ofTruth (result.truth.map (!·)) else result)
    | .collate t n => do
      if (Collation.ofName? n).isNone then
        .error (.operational ("no such collation sequence: " ++ n))
      cell fuel s t
    | .cast t type => do
      let c ← cell fuel s t
      .ok ((Affinity.ofType type).cast c)
    | .choice base cases otherwise => do
      let x ← base.mapM (cell fuel s)
      let found ← cases.mapM fun (a, b) => do
        let y ← postponed (cell fuel s a)
        let z ← postponed (cell fuel s b)
        return (y.map fun y =>
          match base, x with
          | some t, some x =>
            Cell.compareOperands? (Cell.commonAffinity? (s.affinity? t) (s.affinity? a))
              (s.collation t a) x y == some .eq
          | _, _ => y.truth == some true, z)
      let last ← otherwise.mapM fun t => postponed (cell fuel s t)
      chosen (last.getD (.ok .null)) found
    | .isAny q => do
      let result ← rows fuel s q
      .ok (.ofBool !result.rows.isEmpty)
    | .query q => do
      let result ← rows fuel s q
      if result.columns.length != 1 then
        .error (.operational "sub-select returns another number of columns")
      .ok ((result.rows.head?.bind List.head?).getD .null)
    | .row _ => .error rowMisuse
    | .callAll name filter =>
      if sameName name "count" then called fuel s name false [] [] filter
      else .error ((Function.fault? name 0).getD
        (.operational "wrong number of arguments to function"))
    | .over t w place => around fuel s t w place
    | .call name isDistinct args order filter =>
      match Function.fault? name args.length with
      | some f => .error f
      | none =>
        if Function.isOfGroup name args.length then called fuel s name isDistinct args order filter
        else if filter.isSome then
          .error (.operational "FILTER may not be used with non-aggregate functions")
        else if sparing.contains name.toLower then do
          let found ← args.mapM fun t => postponed (cell fuel s t)
          spared name.toLower found
        else do
          let given ← args.mapM fun t => (cell fuel s t).map (s.argument t)
          let collation := (args.findSome? fun t => (s.explicit? t).orElse fun _ => s.implicit? t)
          Function.apply s.content.occasion (collation.getD .binary) name given

def slots (fuel : Nat) (s : Scope) (t : Term) : Except Fault (List (Except Fault Slot)) :=
  match fuel, t with
  | 0, _ => .error (.operational "parser stack overflow")
  | fuel + 1, .row ts =>
    ts.mapM fun t => do
      let found ← postponed (cell fuel s t)
      return found.map fun c =>
        { name := "", cell := c, affinity := s.affinity? t, collation := s.collation? t }
  | fuel + 1, .query q => do
    let result ← rows fuel s q
    return List.zipWith (fun (c : Slot) cell => .ok { c with cell := cell }) result.columns
      (result.rows.head?.getD (result.columns.map fun _ => .null))
  | _, _ => .error rowMisuse

def called (fuel : Nat) (s : Scope) (name : String) (isDistinct : Bool) (args : List Term)
    (order : List (Term × Direction)) (filter : Option Term) : Except Fault Cell :=
  match fuel, s.levels with
  | 0, _ => .error (.operational "parser stack overflow")
  | _, [] => .error (misuse name)
  | fuel + 1, l :: _ =>
    match l.group with
    | none => .error (misuse name)
    | some group => do
      if isDistinct && args.length != 1 then
        .error (.operational "DISTINCT aggregates must have exactly one argument")
      let standing := fun (seats : List Seat) =>
        s.at_ { l with seats := seats, group := none, around := none }
      possible (given fuel (standing l.seats) args order filter)
      let found ← group.mapM fun seats => given fuel (standing seats) args order filter
      collected s name isDistinct args order found

/-- The arguments of a function on groups in one row, and what they are ordered by; nothing if the
row is not taken. -/
def given (fuel : Nat) (s : Scope) (args : List Term) (order : List (Term × Direction))
    (filter : Option Term) : Except Fault (Option (List Argument × List Cell)) :=
  match fuel with
  | 0 => .error (.operational "parser stack overflow")
  | fuel + 1 => do
    let found ← args.mapM fun t => (cell fuel s t).map (s.argument t)
    let keys ← order.mapM fun (t, _) => cell fuel s t
    let taken ← filter.mapM (cell fuel s)
    return if taken.all fun c => c.truth == some true then some (found, keys) else none

def around (fuel : Nat) (s : Scope) (t : Term) (w : Window) (place : Nat) : Except Fault Cell :=
  match fuel, s.levels with
  | fuel + 1, l :: _ =>
    match l.around with
    | none => .error (.operational "misuse of window function")
    | some around => do
      let .mk _ parts order frame ← w.resolved l.windows (l.windows.length + 1)
      let scopeOf := fun (n : Nat) =>
        s.at_ { l with toStanding := around.standings[n]?.getD l.toStanding, around := none }
      let keysOf := fun (n : Nat) => do
        let part ← parts.mapM (cell fuel (scopeOf n))
        let keys ← order.mapM fun (t, _) => cell fuel (scopeOf n) t
        return (part, keys)
      let (own, _) ← keysOf around.here
      let keyed ← ((around.orders.lookup place).getD []).mapM fun n => do
        let (part, keys) ← keysOf n
        return (part, n, keys)
      let partBy := upwards (parts.map fun t => (s.collation? t).getD .binary)
      let by_ := order.map fun (t, d) => (d, (s.collation? t).getD .binary)
      let members := (keyed.filter fun (part, _) => compareKeys partBy part own == .eq).map (·.2)
      let sorted := sortedBy by_ members
      let places := sorted.map (·.1)
      let view : PartView := ⟨by_, sorted.map (·.2), places.idxOf around.here⟩
      let scopeAt := fun (n : Nat) => scopeOf (places[n]?.getD around.here)
      match t with
      | .call name isDistinct args order filter =>
        if let some f := Function.windowFault? name args.length then .error f
        if isDistinct then .error (.operational "DISTINCT is not supported for window functions")
        if Function.isOfGroup name args.length then do
          let found ← framed fuel s view frame
          let rows ← found.mapM fun n => given fuel (scopeAt n) args order filter
          collected s name false args order rows
        else if filter.isSome then
          .error (.operational "FILTER clause may only be used with aggregate window functions")
        else told fuel s name.toLower args view scopeAt frame
      | .callAll name filter =>
        if !sameName name "count" then
          .error (.operational "wrong number of arguments to function")
        else do
          let found ← framed fuel s view frame
          let rows ← found.mapM fun n => given fuel (scopeAt n) [] [] filter
          collected s name false [] [] rows
      | _ => .error (.operational "misuse of window function")
  | _, _ => .error (.operational "misuse of window function")

/-- The orders in which rows come to calls on the rows around a row, and the order after all of
them: the last call sorts the rows first. -/
def staged (fuel : Nat) (s : Scope) (windows : List (String × Window)) (standings : List Standing)
    (calls : List (Nat × Window)) : Except Fault (List (Nat × List Nat) × List Nat) :=
  match fuel, calls with
  | fuel + 1, (place, w) :: rest => do
    let (orders, order) ← staged fuel s windows standings rest
    let .mk _ parts by_ _ ← w.resolved windows (windows.length + 1)
    let terms := (parts.map fun t => (t, ({} : Direction))) ++ by_
    let table := standings.toArray
    let keyed ← order.mapM fun n => do
      let inner := s.enter { toStanding := table[n]?.getD {} }
      let keys ← terms.mapM fun (t, _) => cell fuel inner t
      return (n, keys)
    let collations := s.enter { toStanding := standings.headD {} }
    let by_ := terms.map fun (t, d) => (d, (collations.collation? t).getD .binary)
    return ((place, order) :: orders, (sortedBy by_ keyed).map (·.1))
  | _, _ => .ok ([], List.range standings.length)

/-- The places of the rows in a frame. Without one it ends with the row and those equal to it. -/
def framed (fuel : Nat) (s : Scope) (v : PartView) (f : Option Frame) : Except Fault (List Nat) :=
  match fuel, f with
  | fuel + 1, some (.mk unit opening closing e) => do
    let a ← edge fuel s opening
    let b ← edge fuel s closing
    v.frame unit a b e
  | _, _ => v.frame .range .first .current .nothing

def edge (fuel : Nat) (s : Scope) (b : Bound) : Except Fault Edge :=
  match fuel, b with
  | _, .first => .ok .first
  | _, .last => .ok .last
  | _, .current => .ok .current
  | fuel + 1, .before t => (cell fuel s t).map Edge.before
  | fuel + 1, .behind t => (cell fuel s t).map Edge.behind
  | 0, _ => .error (.operational "parser stack overflow")

def told (fuel : Nat) (s : Scope) (name : String) (args : List Term) (v : PartView)
    (scopeAt : Nat → Scope)
    (f : Option Frame) : Except Fault Cell :=
  match fuel with
  | 0 => .error (.operational "parser stack overflow")
  | fuel + 1 => do
    let found ← args.mapM (cell fuel s)
    let valueAt := fun (n : Option Nat) =>
      match n, args with
      | some n, t :: _ => cell fuel (scopeAt n) t
      | _, _ => .ok .null
    match v.number? name, name, found with
    | some c, _, _ => .ok c
    | _, "ntile", [c] => v.tile c
    | _, "first_value", _ => do
      let places ← framed fuel s v f
      valueAt places.head?
    | _, "last_value", _ => do
      let places ← framed fuel s v f
      valueAt places.getLast?
    | _, "nth_value", [_, c] => do
      let places ← framed fuel s v f
      let n ← PartView.positive c
      valueAt places[n - 1]?
    | _, _, _ :: rest => do
      let n := v.otherPlace (name == "lag") (rest.headD (.int 1))
      match n with
      | some n => valueAt (some n)
      | none => return (rest.drop 1).headD .null
    | _, _, [] => .ok .null

def rows (fuel : Nat) (s : Scope) (q : Query) : Except Fault Rows :=
  match fuel with
  | 0 => .error (.operational "parser stack overflow")
  | fuel + 1 =>
    match q with
    | .select .. => do
      let (columns, found) ← selected fuel s q []
      .ok ⟨columns, found.map (·.1)⟩
    | .values lists => do
      let found ← lists.mapM fun ts => ts.mapM (cell fuel s)
      let width := (found.head?.map List.length).getD 0
      if found.any fun r => r.length != width then
        .error (.operational "all VALUES must have the same number of terms")
      let columns := (lists.head?.getD []).zipIdx.map fun (t, n) =>
        { name := "column" ++ toString (n + 1), affinity := s.affinity? t : Slot }
      .ok ⟨columns, found⟩
    | .combine c a b => do
      let x ← rows fuel s a
      let y ← rows fuel s b
      combine c x y
    | .naming tables q =>
      rows fuel { s with views := (tables.map fun (n, ns, q) => (n, View.query ns q)) ++ s.views } q
    | .arrange q order limit offset => do
      let outside : Scope := s.enter {}
      let limit ← limit.mapM fun t => do limitOf (← cell fuel outside t)
      let offset ← offset.mapM fun t => do limitOf (← cell fuel outside t)
      match q with
      | .select .. => do
        let (columns, found) ← selected fuel s q order
        .ok ⟨columns, limited limit offset (found.map (·.1))⟩
      | q => do
        let result ← rows fuel s q
        let places ← order.mapM fun (t, d) => orderPlace s result.columns t d
        .ok { result with rows := limited limit offset (sortedByPlaces places result.rows) }

def selected (fuel : Nat) (s : Scope) (q : Query) (order : List (Term × Direction)) :
    Except Fault (List Slot × List (List Cell × List Cell)) :=
  match fuel, q with
  | fuel + 1, .select isDistinct columns source filter groups having windows => do
    let (proto, found) ←
      match source with
      | some f => taken fuel s f
      | none => .ok ([], [[]])
    let outputs ← outputsOf source.isSome proto columns
    let terms := outputTerms outputs
    let isGrouped :=
      !groups.isEmpty || (terms ++ order.map (·.1) ++ having.toList).any Term.hasGroupCall
    let plain := fun (seats : List Seat) => s.enter { seats := seats }
    let named := fun (st : Standing) =>
      s.enter { toStanding := st, aliases := aliasesOf outputs }
    let columnSlots := outputs.map (outputSlot (plain proto))
    let calls := (terms ++ order.map (·.1)).flatMap (windowsIn Term.depth)
    let one := fun (around : Surroundings) (st : Standing) => do
      let l : Level := { toStanding := st, windows := windows, around := some around }
      let cells ← outputs.mapM fun
        | .term t _ => cell fuel (s.enter l) t
        | .slot n k _ =>
          .ok (((st.seats[n]?.bind fun seat => seat.slots[k]?).map Slot.cell).getD .null)
      let keys ← order.mapM fun (t, _) =>
        match resultPlace? outputs true t with
        | some n =>
          if 0 ≤ n then (cells[n.toNat]?).elim (.error outOfRange) .ok else .error outOfRange
        | none => cell fuel (s.enter { l with aliases := aliasesOf outputs }) t
      return (cells, keys)
    let passes := fun (seats : List Seat) => do
      let taken ← filter.mapM (cell fuel (named ⟨seats, none⟩))
      return (taken.map fun c => c.truth == some true).getD true
    let groupKeys := fun (seats : List Seat) => groups.mapM fun t =>
      match resultPlace? outputs false t with
      | some n =>
        match (if 0 ≤ n then outputs[n.toNat]? else none) with
        | some (.term t _) => cell fuel (plain seats) t
        | some (.slot a b _) =>
          .ok (((seats[a]?.bind fun seat => seat.slots[b]?).map Slot.cell).getD .null)
        | none => .error outOfRange
      | none => cell fuel (named ⟨seats, none⟩) t
    let allowed := fun (st : Standing) => do
      let taken ← having.mapM (cell fuel (named st))
      return (taken.map fun c => c.truth == some true).getD true
    if having.isSome && !isGrouped then
      .error (.operational "HAVING clause on a non-aggregate query")
    let still : Standing := ⟨proto, if isGrouped then some [proto] else none⟩
    possible (passes proto)
    possible (groupKeys proto)
    possible (one ⟨[still], 0, calls.map fun (place, _) => (place, [0])⟩ still)
    possible (if isGrouped then allowed still else .ok true)
    let kept ← found.filterM passes
    let standings ←
      if !isGrouped then .ok (kept.map fun seats => ⟨seats, none⟩)
      else do
        let keyed ← kept.mapM fun seats => do
          let keys ← groupKeys seats
          return (seats, keys)
        let by_ := upwards (groups.map fun t => ((plain proto).collation? t).getD .binary)
        let groups_ :=
          if groups.isEmpty then [kept]
          else (groupsOf by_ (sortedBy by_ keyed)).map fun g => g.map (·.1)
        let made ← groups_.mapM fun group => do
          let first := group.head?.getD proto
          let row ←
            match picked? terms with
            | none => .ok first
            | some (t, wanted) => do
              let cells ← group.mapM fun seats => do
                let c ← cell fuel (plain seats) t
                return (seats, c)
              .ok ((cells.foldl (fun best (seats, c) =>
                match best with
                | none => if c.isNull then none else some (seats, c)
                | some (_, b) =>
                  if !c.isNull && Cell.compareWith .binary c b == wanted then
                    some (seats, c) else best)
                none).map (·.1) |>.getD first)
          return (⟨row, some group⟩ : Standing)
        made.filterM allowed
    let (orders, last) ← staged fuel s windows standings calls
    let table := standings.toArray
    let results ← last.mapM fun n => one ⟨standings, n, orders⟩ (table[n]?.getD still)
    let results :=
      if isDistinct then
        (firstOfEach (upwards (collationsOf columnSlots)) (results.map fun r => (r, r.1))).map (·.1)
      else results
    let by_ := order.map fun (t, d) =>
      (d, (((plain proto).explicit? t).orElse fun _ =>
        match resultPlace? outputs true t with
        | some n => (columnSlots[n.toNat]?).bind Slot.collation
        | none => (plain proto).implicit? t).getD .binary)
    .ok (columnSlots, sortedBy by_ results)
  | _, _ => .error (.operational "parser stack overflow")

/-- The rows of a query that has a name, with names for its columns. A query that takes rows from
itself starts with those of its first part, and goes on as long as rows bring others. -/
def viewed (fuel : Nat) (s : Scope) (name : String) (names : List String) (q : Query) :
    Except Fault Rows :=
  match fuel with
  | 0 => .error (.operational "parser stack overflow")
  | fuel + 1 =>
    match q.growing? name with
    | none => do
      let result ← rows fuel s q
      let columns ← renamed names result.columns
      return { result with columns := columns }
    | some g => do
      let start ← rows fuel s g.start
      let columns ← renamed names start.columns
      let limit ← g.limit.mapM fun t => do limitOf (← cell fuel s t)
      let offset ← g.offset.mapM fun t => do limitOf (← cell fuel s t)
      let places ← g.order.mapM fun (t, d) => orderPlace s columns t d
      let step := fun (row : List Cell) => do
        let view := View.rows ⟨columns, [row]⟩
        let found ← g.steps.mapM fun q => rows fuel { s with views := (name, view) :: s.views } q
        if found.any fun r => r.columns.length != columns.length then
          .error (.operational "SELECTs do not have the same number of result columns")
        return found.flatMap Rows.rows
      let grown ← Growth.run {
        step := step
        isDistinct := g.isDistinct
        collations := collationsOf columns
        order := places } (growthLimit limit offset) start.rows
      return ⟨columns, limited limit offset grown⟩

def taken (fuel : Nat) (s : Scope) (f : Source) : Except Fault (List Seat × List (List Seat)) :=
  match fuel with
  | 0 => .error (.operational "parser stack overflow")
  | fuel + 1 =>
    match f with
    | .table schema n a =>
      match (if schema.isNone then s.views.find? fun v => sameName v.1 n else none) with
      | some (_, .rows result) => .ok (seatsOf (a.getD n) result)
      | some (_, .query names q) => do
        let result ← viewed fuel { s with levels := [] } n names q
        .ok (seatsOf (a.getD n) result)
      | none =>
        match s.content.findTable schema n, s.content.asked n [] with
        | .ok (place, t), _ =>
          let seat := fun (r : Row) => Seat.ofRow (some place.name) (a.getD n) t r
          .ok ([(seat ⟨0, []⟩).empty], t.rows.map fun r => [seat r])
        | .error _, .ok result => .ok (seatsOf (a.getD n) result)
        | .error f, .error _ => .error f
    | .call n args a => do
      let cells ← args.mapM (cell fuel s)
      let result ← s.content.asked n cells
      .ok (seatsOf (a.getD n) result)
    | .query q a => do
      let result ← rows fuel s q
      .ok (seatsOf (a.getD "") result)
    | .join kind left right condition shared => do
      let (lp, ls) ← taken fuel s left
      let rightOf := fun (l : List Seat) => taken fuel (s.enter { seats := l }) right
      let (rp, rs) ← if right.isCall then rightOf lp else taken fuel s right
      if kind.isNatural && (condition.isSome || !shared.isEmpty) then
        .error (.operational "a NATURAL join may not have an ON or USING clause")
      let names := if kind.isNatural then sharedNames lp rp else shared
      if names.any fun n => (slotIn? lp n).isNone || (slotIn? rp n).isNone then
        .error (.operational "cannot join using column - column not present in both tables")
      let rp := hide names rp
      let rs := rs.map (hide names)
      let fits := fun (l r : List Seat) => do
        let c ← condition.mapM (cell fuel (s.enter { seats := l ++ r }))
        return agrees names l r && (c.map fun c => c.truth == some true).getD true
      possible (fits lp rp)
      let pairs ← ls.mapM fun l => do
        let rs ← if right.isCall then (rightOf l).map fun r => r.2.map (hide names) else .ok rs
        let partners ← rs.filterM (fits l)
        return (l, partners)
      let matched := pairs.flatMap fun (l, partners) =>
        if partners.isEmpty && kind.keepsLeft then [l ++ rp] else partners.map (l ++ ·)
      let lonely ←
        if kind.keepsRight then rs.filterM fun r => do
          let partners ← ls.filterM fun l => fits l r
          return partners.isEmpty
        else .ok []
      .ok (lp ++ rp, matched ++ lonely.map (lp ++ ·))
end

def enough : Nat := 10000

end Evaluation

def Term.evaluate (s : Scope) (t : Term) : Except Fault Cell :=
  Evaluation.cell Evaluation.enough s t

def Query.evaluate (content : Content) (q : Query) : Except Fault Rows :=
  Evaluation.rows Evaluation.enough { content := content } q

end SchemaMigration.Sqlite
