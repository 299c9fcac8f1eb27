import SchemaMigration.Text.Case
import SchemaMigration.Text.Split
import SchemaMigration.Value.Misfit

namespace SchemaMigration.Path

def pushSegment (rooted : Bool) (kept : List (List Char)) (segment : List Char) :
    List (List Char) :=
  if segment == [] || segment == ['.'] then kept
  else if segment != ['.', '.'] then segment :: kept
  else
    match kept with
    | [] => if rooted then [] else [segment]
    | last :: below => if last == ['.', '.'] then segment :: kept else below

def rootSlashes : List Char → Nat
  | '/' :: '/' :: '/' :: _ => 1
  | '/' :: '/' :: _ => 2
  | '/' :: _ => 1
  | _ => 0

def normalSlashed (p : List Char) : List Char :=
  let root := rootSlashes p
  let kept := (Text.splitOn '/' p).foldl (pushSegment (root != 0)) []
  let written := List.replicate root '/' ++ Text.joinOn '/' kept.reverse
  if written == [] then ['.'] else written

def normalChars (p : List Char) : List Char :=
  if p == [] then [] else normalSlashed (Text.replaceChar '\\' ['/'] p)

def normalize (p : String) : String := String.ofList (normalChars p.toList)

def same (ignoreCase : Bool) (p q : String) : Bool :=
  if ignoreCase then Text.fold p == Text.fold q else p == q

/-- The normal form of a path as it is declared. What is false as a flag is none and stays as it
is. -/
def ofDeclared (v : Value) : Except Misfit Value :=
  if v.isTrue then v.written.map fun p => .text (normalize p) else .ok v

def sameDeclared (ignoreCase : Bool) (v w : Value) : Except Misfit Bool :=
  if ignoreCase then do
    let p ← v.written
    let q ← w.written
    return same true p q
  else .ok (v.same w)

@[simp] theorem sameDeclared_text (ignoreCase : Bool) (p q : String) :
    sameDeclared ignoreCase (.text p) (.text q) = .ok (same ignoreCase p q) := by
  cases ignoreCase <;> rfl

def platformIgnoresCase (platform : String) : Bool :=
  "win".toList.isPrefixOf platform.toList || "cygwin".toList.isPrefixOf platform.toList

end SchemaMigration.Path
