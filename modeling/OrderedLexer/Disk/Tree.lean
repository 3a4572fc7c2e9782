import OrderedLexer.Disk.Basic

/-!
# Trees of files

`Disk.ofTree` resolves paths in a tree of files below the working directory: part by part, where
two points lead back to the directory above. Nothing is known of what lies above the working
directory.
-/

namespace OrderedLexer.Disk

/-- Files and directories by the names that lead to them from the working directory. -/
abbrev Tree := List (List String × Node)

namespace Tree

/-- Put a node at a path; directories that are missing on the way appear, changed at `now`. -/
def put (tree : Tree) (now : Int) (names : List String) (node : Node) : Tree :=
  let above := (List.range names.length).map names.take
  let missing := above.filter fun dir => !dir.isEmpty && (tree.lookup dir).isNone
  tree.filter (·.1 ≠ names) ++ missing.map (·, ⟨.directory, now⟩) ++ [(names, node)]

/-- The node at the end of a way from the working directory. -/
def at? (tree : Tree) (names : List String) : Except Fault Node :=
  if names.isEmpty then .ok ⟨.directory, 0⟩
  else match tree.lookup names with
    | some node => .ok node
    | none => .error .notFound

/-- Go on from a node, along the parts of a path. -/
def walk (tree : Tree) (names : List String) : List String → Except Fault Node
  | [] => tree.at? names
  | part :: parts => do
    match (← tree.at? names).content with
    | .file _ => .error .notDirectory
    | .directory =>
      if part = "" || part = "." then walk tree names parts
      else if part = ".." then
        if names.isEmpty then
          if parts.all (["", ".", ".."].contains ·) then .ok ⟨.directory, 0⟩ else .error .notFound
        else walk tree names.dropLast parts
      else walk tree (names ++ [part]) parts

end Tree

/-- The node at a path. -/
def Tree.node? (tree : Tree) (path : String) : Except Fault Node :=
  if path.isEmpty then .error .notFound
  else if path.startsWith "/" then
    if path.all (· = '/') then .ok ⟨.directory, 0⟩ else .error .notFound
  else tree.walk [] (path.splitOn "/")

/-- The disk with the files of a tree. -/
def ofTree (tree : Tree) : Disk where
  entry? path := (tree.node? path).map Entry.ofNode

end OrderedLexer.Disk
