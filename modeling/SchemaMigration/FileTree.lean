import SchemaMigration.Path

namespace SchemaMigration

inductive FileState
  | missing
  | directory
  | tooLong
  | content (text : String)
  | binary
  deriving DecidableEq, Repr

abbrev FileTree := List (String × String)

namespace FileTree

def tidy (path : String) : String :=
  let root := List.replicate (Path.rootSlashes path.toList) '/'
  let segments :=
    (Text.splitOn '/' path.toList).filter fun segment => segment != [] && segment != ['.']
  let written := root ++ Text.joinOn '/' segments
  String.ofList (if written == [] then ['.'] else written)

def segmentsOf (path : String) : List (List Char) :=
  (Text.splitOn '/' path.toList).filter fun segment => segment != [] && segment != ['.']

def greatestName : Nat := 255

def greatestPath : Nat := 4095

inductive Place
  | inside (segments : List (List Char))
  | above (levels : Nat)
  deriving DecidableEq, Repr

def isDirectory (files : FileTree) (segments : List (List Char)) : Bool :=
  segments.isEmpty ||
    files.any fun (name, _) =>
      segments.isPrefixOf (segmentsOf name) && segments.length < (segmentsOf name).length

def fileAt? (files : FileTree) (segments : List (List Char)) : Option String :=
  (files.find? fun (name, _) => segmentsOf name == segments).map (·.2)

def walk (files : FileTree) : Place → List (List Char) → FileState
  | .inside at_, [] =>
    match fileAt? files at_ with
    | some text => .content text
    | none => if isDirectory files at_ then .directory else .missing
  | .above _, [] => .directory
  | .above n, segment :: rest =>
    if greatestName < (String.ofList segment).utf8ByteSize then .tooLong
    else if segment == ['.', '.'] then walk files (.above (n + 1)) rest
    else .missing
  | .inside at_, segment :: rest =>
    if !isDirectory files at_ then .missing
    else if greatestName < (String.ofList segment).utf8ByteSize then .tooLong
    else if segment != ['.', '.'] then walk files (.inside (at_ ++ [segment])) rest
    else if at_.isEmpty then walk files (.above 1) rest
    else walk files (.inside at_.dropLast) rest

def stateAtRoot (segments : List (List Char)) : FileState :=
  let names := segments.map String.ofList
  if names == ["dev", "null"] then .content ""
  else if names == [] || names == ["dev"] || names == ["tmp"] then .directory
  else .missing

def stateAt (files : FileTree) (path : String) : FileState :=
  if path.toList.contains '\x00' then .missing
  else if greatestPath < path.utf8ByteSize then .tooLong
  else if Path.rootSlashes path.toList != 0 then stateAtRoot (segmentsOf path)
  else walk files (.inside []) (segmentsOf path)

end FileTree

end SchemaMigration
