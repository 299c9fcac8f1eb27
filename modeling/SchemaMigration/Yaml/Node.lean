import SchemaMigration.Yaml.Tag
import SchemaMigration.Yaml.TokenList

namespace SchemaMigration.Yaml

inductive Node
  | scalar (tag : Tag) (text : String)
  | sequence (tag : Tag) (items : List Node)
  | mapping (tag : Tag) (entries : List (Node × Node))

namespace Node

def empty : Node := .scalar .null ""

end Node

structure Reading where
  rest : TokenList
  handles : List (String × String) := []
  anchors : List (String × Option Node) := []

structure Properties where
  anchor : Option String := none
  tag : Option WrittenTag := none

def greatestDepth : Nat := 488

namespace Reading

def peek (r : Reading) : Except Fault (Option Token) :=
  match r.rest.tokens, r.rest.fault with
  | t :: _, _ => .ok (some t)
  | [], none => .ok none
  | [], some e => .error e

def next (r : Reading) : Reading :=
  { r with rest := { r.rest with tokens := r.rest.tokens.drop 1 } }

def expect (r : Reading) (t : Token) : Except Fault Reading := do
  let found ← r.peek
  if found == some t then .ok r.next else .error .malformed

def isAt (r : Reading) (ts : List Token) : Except Fault Bool := do
  let found ← r.peek
  .ok ((found.map ts.contains).getD false)

def fullName (r : Reading) (t : WrittenTag) : Except Fault (Option String) := do
  let name ←
    match t.handle with
    | none => .ok t.suffix
    | some handle => (orMalformed (r.handles.lookup handle)).map (· ++ t.suffix)
  .ok (if name == "!" then none else some name)

def properties (r : Reading) : Except Fault (Properties × Reading) := do
  match ← r.peek with
  | some (.anchor name) =>
    let r := r.next
    match ← r.peek with
    | some (.tag t) => .ok (⟨some name, some t⟩, r.next)
    | _ => .ok (⟨some name, none⟩, r)
  | some (.tag t) =>
    let r := r.next
    match ← r.peek with
    | some (.anchor name) => .ok (⟨some name, some t⟩, r.next)
    | _ => .ok (⟨none, some t⟩, r)
  | _ => .ok ({}, r)

def openAnchor (r : Reading) (anchor : Option String) : Except Fault Reading :=
  match anchor with
  | none => .ok r
  | some name =>
    if (r.anchors.lookup name).isSome then .error .malformed
    else .ok { r with anchors := (name, none) :: r.anchors }

def closeAnchor (r : Reading) (anchor : Option String) (n : Node) : Reading :=
  match anchor with
  | none => r
  | some name => { r with anchors := (name, some n) :: r.anchors }

def aliased (r : Reading) (name : String) : Except Fault Node :=
  match r.anchors.lookup name with
  | none => .error .malformed
  | some none => .error .deep
  | some (some n) => .ok n

def scalarTag (written : Option WrittenTag) (name : Option String) (isPlain : Bool)
    (text : String) :
    Tag :=
  match name with
  | some name => .ofName name
  | none => if isPlain || written.isSome then .ofPlain text.toList else .text

def collectionTag (name : Option String) (usual : Tag) : Tag := (name.map Tag.ofName).getD usual

mutual
/-- The node that comes next. A block can start it if `inBlock`, and a sequence without an
indentation of its own if `isHanging`. -/
def node : Nat → Nat → Bool → Bool → Reading → Except Fault (Node × Reading)
  | 0, _, _, _, _ => .error .malformed
  | fuel + 1, depth, inBlock, isHanging, r => do
    match ← r.peek with
    | some (.alias name) =>
      let n ← r.aliased name
      .ok (n, r.next)
    | _ =>
      let (props, r) ← r.properties
      let name ←
        match props.tag with
        | none => .ok none
        | some t => r.fullName t
      let found ← r.peek
      let (n, r) ←
        match found, inBlock, isHanging with
        | some .item, _, true => do
          let r ← r.openAnchor props.anchor
          let (items, r) ← hangingItems fuel depth r
          .ok (Node.sequence (collectionTag name .sequence) items, r)
        | some (.scalar text isPlain), _, _ => do
          let r ← r.openAnchor props.anchor
          .ok (Node.scalar (scalarTag props.tag name isPlain text) text, r.next)
        | some .flowSequenceStart, _, _ => do
          let r ← r.openAnchor props.anchor
          let (items, r) ← flowItems fuel depth true r.next
          .ok (Node.sequence (collectionTag name .sequence) items, r)
        | some .flowMappingStart, _, _ => do
          let r ← r.openAnchor props.anchor
          let (entries, r) ← flowEntries fuel depth true r.next
          .ok (Node.mapping (collectionTag name .mapping) entries, r)
        | some .sequenceStart, true, _ => do
          let r ← r.openAnchor props.anchor
          let (items, r) ← blockItems fuel depth r.next
          .ok (Node.sequence (collectionTag name .sequence) items, r)
        | some .mappingStart, true, _ => do
          let r ← r.openAnchor props.anchor
          let (entries, r) ← blockEntries fuel depth r.next
          .ok (Node.mapping (collectionTag name .mapping) entries, r)
        | _, _, _ =>
          if props.anchor.isSome || props.tag.isSome then do
            let r ← r.openAnchor props.anchor
            .ok (Node.scalar (scalarTag props.tag name true "") "", r)
          else .error .malformed
      .ok (n, r.closeAnchor props.anchor n)

def inner : Nat → Nat → Bool → Bool → List Token → Reading → Except Fault (Node × Reading)
  | 0, _, _, _, _, _ => .error .malformed
  | _ + 1, 0, _, _, _, _ => .error .deep
  | fuel + 1, depth + 1, inBlock, isHanging, stops, r => do
    if ← r.isAt stops then .ok (.empty, r) else node fuel depth inBlock isHanging r

def blockItems : Nat → Nat → Reading → Except Fault (List Node × Reading)
  | 0, _, _ => .error .malformed
  | fuel + 1, depth, r => do
    if ← r.isAt [.item] then
      let (n, r) ← inner fuel depth true false [.item, .blockEnd] r.next
      let (items, r) ← blockItems fuel depth r
      .ok (n :: items, r)
    else
      let r ← r.expect .blockEnd
      .ok ([], r)

def hangingItems : Nat → Nat → Reading → Except Fault (List Node × Reading)
  | 0, _, _ => .error .malformed
  | fuel + 1, depth, r => do
    if ← r.isAt [.item] then
      let (n, r) ← inner fuel depth true false [.item, .key, .value, .blockEnd] r.next
      let (items, r) ← hangingItems fuel depth r
      .ok (n :: items, r)
    else .ok ([], r)

def blockEntries : Nat → Nat → Reading → Except Fault (List (Node × Node) × Reading)
  | 0, _, _ => .error .malformed
  | fuel + 1, depth, r => do
    if ← r.isAt [.key] then
      let (k, r) ← inner fuel depth true true [.key, .value, .blockEnd] r.next
      let (v, r) ←
        if ← r.isAt [.value] then inner fuel depth true true [.key, .value, .blockEnd] r.next
        else .ok (.empty, r)
      let (entries, r) ← blockEntries fuel depth r
      .ok ((k, v) :: entries, r)
    else
      let r ← r.expect .blockEnd
      .ok ([], r)

def flowValue : Nat → Nat → Token → Reading → Except Fault (Node × Reading)
  | 0, _, _, _ => .error .malformed
  | fuel + 1, depth, stop, r => do
    if ← r.isAt [.value] then inner fuel depth false false [.comma, stop] r.next
    else .ok (.empty, r)

def flowItems : Nat → Nat → Bool → Reading → Except Fault (List Node × Reading)
  | 0, _, _, _ => .error .malformed
  | fuel + 1, depth, isFirst, r => do
    if ← r.isAt [.flowSequenceEnd] then .ok ([], r.next)
    else
      let r ← if isFirst then .ok r else r.expect .comma
      if ← r.isAt [.key] then
        if depth == 0 then .error .deep
        else
          let (k, r) ← inner fuel (depth - 1) false false [.value, .comma, .flowSequenceEnd] r.next
          let (v, r) ← flowValue fuel (depth - 1) .flowSequenceEnd r
          let (items, r) ← flowItems fuel depth false r
          .ok (.mapping .mapping [(k, v)] :: items, r)
      else if ← r.isAt [.flowSequenceEnd] then .ok ([], r.next)
      else
        let (n, r) ← inner fuel depth false false [] r
        let (items, r) ← flowItems fuel depth false r
        .ok (n :: items, r)

def flowEntries : Nat → Nat → Bool → Reading → Except Fault (List (Node × Node) × Reading)
  | 0, _, _, _ => .error .malformed
  | fuel + 1, depth, isFirst, r => do
    if ← r.isAt [.flowMappingEnd] then .ok ([], r.next)
    else
      let r ← if isFirst then .ok r else r.expect .comma
      if ← r.isAt [.key] then
        let (k, r) ← inner fuel depth false false [.value, .comma, .flowMappingEnd] r.next
        let (v, r) ← flowValue fuel depth .flowMappingEnd r
        let (entries, r) ← flowEntries fuel depth false r
        .ok ((k, v) :: entries, r)
      else if ← r.isAt [.flowMappingEnd] then .ok ([], r.next)
      else
        let (k, r) ← inner fuel depth false false [] r
        let (entries, r) ← flowEntries fuel depth false r
        .ok ((k, .empty) :: entries, r)
end

def usualHandles : List (String × String) := [("!", "!"), ("!!", Tag.space)]

/-- The directives in front of a document: at most one version, of the first kind, and handles, each
at most once. -/
def directives : Nat → Bool → Reading → Except Fault Reading
  | 0, _, _ => .error .malformed
  | fuel + 1, hasVersion, r => do
    match ← r.peek with
    | some (.directive (.version major)) =>
      if hasVersion || major != 1 then .error .malformed else directives fuel true r.next
    | some (.directive (.tag handle start)) =>
      if (r.handles.lookup handle).isSome then .error .malformed
      else directives fuel hasVersion { r.next with handles := r.handles ++ [(handle, start)] }
    | some (.directive .other) => directives fuel hasVersion r.next
    | _ => .ok { r with handles := r.handles ++ usualHandles }

def skipEnds (r : Reading) : Reading :=
  { r with rest := { r.rest with tokens := r.rest.tokens.dropWhile (· == .documentEnd) } }

def root (r : Reading) : Except Fault (Node × Reading) :=
  r.node (5 * r.rest.tokens.length + 5) greatestDepth true false

/-- A document that starts with its mark, directives before it allowed. Nothing is left of it at the
end of the text. -/
def markedDocument (r : Reading) : Except Fault (Option Node × Reading) := do
  let r := r.skipEnds
  match ← r.peek with
  | none => .ok (none, r)
  | some _ =>
    let r ← r.directives (r.rest.tokens.length + 1) false
    let r ← r.expect .documentStart
    match ← r.peek with
    | none => .ok (some .empty, r)
    | some .documentStart => .ok (some .empty, r)
    | some .documentEnd => .ok (some .empty, r)
    | some (.directive _) => .ok (some .empty, r)
    | some _ =>
      let (n, r) ← r.root
      .ok (some n, r)

def firstDocument (r : Reading) : Except Fault (Option Node × Reading) := do
  match ← r.peek with
  | none => r.markedDocument
  | some .documentStart => r.markedDocument
  | some (.directive _) => r.markedDocument
  | some _ =>
    let (n, r) ← { r with handles := usualHandles }.root
    .ok (some n, r)

def finish (r : Reading) : Except Fault Unit := do
  match ← r.skipEnds.peek with
  | none => .ok ()
  | some _ => .error .malformed

end Reading

def Node.ofText (text : List Char) : Except Fault (Option Node) := do
  let (n, r) ← Reading.firstDocument { rest := .ofText text }
  match n with
  | none => .ok none
  | some n =>
    r.finish
    .ok (some n)

end SchemaMigration.Yaml
