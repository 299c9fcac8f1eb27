import SchemaMigration.Yaml.Node
import SchemaMigration.Yaml.Scalar

namespace SchemaMigration.Yaml

structure DeepFault where
  level : Nat
  fault : Fault

namespace Node

def tag : Node → Tag
  | .scalar t _ | .sequence t _ | .mapping t _ => t

def asKey : Node → Node
  | .scalar .default text => .scalar .text text
  | n => n

/-- The entries of a mapping with those that it takes over, in front of its own. A list of mappings
gives those of its last one first. -/
def ownEntries : Nat → List (Node × Node) → Option (List (Node × Node))
  | 0, _ => none
  | fuel + 1, entries => do
    let sources := (entries.filter fun (k, _) => k.tag == .merge).map (·.2)
    let taken ← sources.mapM fun source =>
      match source with
      | .mapping _ entries => ownEntries fuel entries
      | .sequence _ items => do
        let parts ← items.mapM fun item =>
          match item with
          | .mapping _ entries => ownEntries fuel entries
          | _ => none
        some parts.reverse.flatten
      | .scalar _ _ => none
    let own := entries.filter fun (k, _) => k.tag != .merge
    some (taken.flatten ++ own.map fun (k, v) => (k.asKey, v))

/-- The text of a node of a kind that only scalars have. A mapping can have an entry for it. -/
def text? : Nat → Node → Option String
  | 0, _ => none
  | _ + 1, .scalar _ text => some text
  | _ + 1, .sequence _ _ => none
  | fuel + 1, .mapping _ entries =>
    (entries.find? fun (k, _) => k.tag == .default).bind fun (_, v) => text? fuel v

end Node

def Tag.isCollection : Tag → Bool
  | .sequence | .mapping | .orderedMapping | .pairs | .set => true
  | _ => false

def gather {α : Type} : List (Except DeepFault α) → Except DeepFault (List α)
  | [] => .ok []
  | r :: rest =>
    match r, gather rest with
    | .ok a, .ok as => .ok (a :: as)
    | .ok _, .error e => .error e
    | .error e, .ok _ => .error e
    | .error e, .error e' => .error (if e.level ≤ e'.level then e else e')

def datum : Nat → Nat → Node → Except DeepFault Datum
  | 0, level, _ => .error ⟨level, .malformed⟩
  | fuel + 1, level, n =>
    if n.tag.isCollection then
      let inside := level + 1
      let bad : DeepFault := ⟨inside, .malformed⟩
      let keyed (entries : List (Node × Node)) : Except DeepFault (List (Datum × Datum)) := do
        match Node.ownEntries fuel entries with
        | none => .error bad
        | some entries =>
          gather (entries.flatMap fun (k, v) =>
            [if k.tag.isCollection then .error bad else datum fuel inside k, datum fuel inside v])
          |>.map fun ds => pairUp ds
      match n.tag, n with
      | .sequence, .sequence _ items => (gather (items.map (datum fuel inside))).map .list
      | .mapping, .mapping _ entries =>
        (keyed entries).map fun ds => .mapping (ds.foldl (fun m (k, v) => Datum.putEntry k v m) [])
      | .set, .mapping _ entries =>
        (keyed entries).map fun ds => .set (ds.foldl (fun m (k, _) => Datum.putMember k m) [])
      | .orderedMapping, .sequence _ items | .pairs, .sequence _ items =>
        (gather (items.flatMap fun item =>
          match item with
          | .mapping _ [(k, v)] => [datum fuel inside k, datum fuel inside v]
          | _ => [.error bad])).map fun ds => .list ((pairUp ds).map fun (a, b) => .pair a b)
      | _, _ => .error bad
    else
      match n.text? (fuel + 1) with
      | some text => (scalarDatum n.tag text).mapError fun e => ⟨level, e⟩
      | none => .error ⟨level, .malformed⟩
where
  pairUp : List Datum → List (Datum × Datum)
    | a :: b :: rest => (a, b) :: pairUp rest
    | _ => []

def isPrintable (c : Char) : Bool :=
  let n := c.toNat
  n == 0x09 || n == 0x0A || n == 0x0D || (0x20 ≤ n && n ≤ 0x7E) || n == 0x85 ||
    (0xA0 ≤ n && n ≤ 0xD7FF) || (0xE000 ≤ n && n ≤ 0xFFFD) || 0x10000 ≤ n

def read (text : String) : Except Fault Datum := do
  let s := text.toList
  if !s.all isPrintable then .error .malformed
  else
    match ← Node.ofText s with
    | none => .ok .null
    | some n => (datum (s.length + 1) 0 n).mapError DeepFault.fault

end SchemaMigration.Yaml
