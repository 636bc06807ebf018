import MagicRules.Text

/-!
# Trees of files

A tree of files is known by the paths of its files, each the names that lead to it; its folders
are what lies on these paths. Walking the tree from a path gives the file there, or the files
in the folder there and in the folders below, by the order of their names on each level.
-/

namespace MagicRules

structure SourceFile where
  path : Text
  content : Bytes
  deriving DecidableEq, Repr

structure FileTree where
  files : List (List Text × Bytes)
  deriving DecidableEq, Repr

namespace FileTree

/-- The names that a path goes through, once empty names, `.` and `..` are taken out. -/
def normalize (path : Text) : List Text :=
  ((path.splitAt '/').foldl (fun before name =>
    if name = [] ∨ name = ['.'] then before
    else if name = ['.', '.'] then before.tail
    else name :: before) []).reverse

/-- Puts a file into the tree, in place of one that has its path. -/
def write (tree : FileTree) (path : Text) (content : Bytes) : FileTree :=
  let names := normalize path
  { files := tree.files.filter (·.1 ≠ names) ++ [(names, content)] }

def ofFiles (files : List (Text × Bytes)) : FileTree :=
  files.foldl (fun tree (path, content) => tree.write path content) { files := [] }

def join (path : Text) (names : List Text) : Text :=
  names.foldl (fun path name =>
    if path.getLast? = some '/' then path ++ name else path ++ '/' :: name) path

/-- Whether the names `a` do not come after the names `b`. Names are compared one by one, and
each by its characters. -/
def precedes (a b : List Text) : Bool := !List.lex b a fun x y => List.lex x y fun c d => c < d

/-- Files below a path, given by the names that lead from there to each, in the order in which
they are walked. -/
def walk (path : Text) (below : List (List Text × Bytes)) : List SourceFile :=
  (below.mergeSort fun a b => precedes a.1 b.1).map fun (names, content) =>
    { path := join path names, content }

/-- The names that lead on from a folder to a file in or below it. The file itself has none. -/
def namesBelow? : List Text → List Text → Option (List Text)
  | [], rest => some rest
  | folder :: folders, name :: names =>
    if folder = name then namesBelow? folders names else none
  | _ :: _, [] => none

/-- Whether names lead to a folder. The root is there even if it holds no file. -/
def isFolder (tree : FileTree) (names : List Text) : Bool :=
  names.isEmpty || tree.files.any fun (file, _) => (namesBelow? names file).any (!·.isEmpty)

/-- Goes on from a folder by a name. An empty name and `.` stay there, and `..` goes back; it
does not leave the tree. -/
def step? (tree : FileTree) (names : List Text) (name : Text) : Option (List Text) :=
  if !tree.isFolder names then none
  else if name = [] ∨ name = ['.'] then some names
  else if name = ['.', '.'] then if names.isEmpty then none else some names.dropLast
  else some (names ++ [name])

/-- The files found from a path, or none if the path leads nowhere. -/
def find? (tree : FileTree) (path : Text) : Option (List SourceFile) := do
  if path.isEmpty ∨ path.head? = some '/' then none
  else
    let names ← (path.splitAt '/').foldlM tree.step? []
    let below := tree.files.filterMap fun (file, content) =>
      (namesBelow? names file).map (·, content)
    if below.isEmpty ∧ !names.isEmpty then none else some (walk path below)

end FileTree

end MagicRules
