import ValueOrder.Program

/-!
# The executable

Gathers the arguments, the files that they lead to and the log specification,
runs the program on them, and prints what it leaves behind.
-/

namespace ValueOrder.Main

/-- The path from the root that has these names. -/
def absolute (name : CanonicalName) : String :=
  "/" ++ "/".intercalate (name.map Path.display)

/-- The names in an absolute path. -/
def names (path : String) : CanonicalName := (Path.ofString path).pieces.filter (· ≠ .empty)

/-- Looks at the file system and keeps the names of what cannot be read. -/
abbrev Survey := StateT (List CanonicalName) IO

/-- What was read, or something in its place if it could not be. -/
def readOr (name : CanonicalName) (instead : Node) (read : Survey Node) : Survey Node :=
  try read catch _ => do
    modify (name :: ·)
    return instead

/-- What lies at a canonical name. In a directory the content of a file is read only if the
file can be a case file, and links stay links. -/
partial def snapshot (name : CanonicalName) : Survey Node := do
  let real ← IO.FS.realPath (absolute name)
  if ← real.isDir then
    readOr name (.directory []) do
      let entries ← (← real.readDir).toList.mapM fun entry => do
        let inner := name ++ [Path.ofString entry.fileName]
        let target ← (do return toString (← IO.FS.realPath entry.path)) <|> pure ""
        let node ←
          if names target ≠ inner then pure (.link target)
          else if (← entry.path.isDir) || Suite.hasCaseExtension entry.fileName then snapshot inner
          else pure (.file .empty)
        return (Path.ofString entry.fileName, node)
      return .directory entries
  else
    readOr name (.file .empty) do
      return .file (← IO.FS.readBinFile real)

/-- Puts into a tree what a path leads to, and the directories and links on the way
there. A path that leads nowhere adds what there is of it. -/
def reveal (t : FileTree) (path : Path) : IO FileTree := do
  let mut root := t.root
  let mut place := if path.isRooted then [] else t.workDir
  let mut unreadable := []
  try
    for piece in path.pieces do
      if piece ≠ .empty then
        let spelled := place ++ [piece]
        let real := names (toString (← IO.FS.realPath (absolute spelled)))
        if piece ≠ .here ∧ piece ≠ .up ∧ real ≠ spelled then
          root := Node.insert (.link (absolute real)) spelled root
        place := real
    let (node, unread) ← (snapshot place).run []
    root := Node.insert node place root
    unreadable := unread
  catch _ => pure ()
  return { t with root := root, mayRead := fun name => t.mayRead name && !unreadable.contains name }

/-- The part of the file system that the paths lead to, seen from the working
directory. -/
def filesFor (paths : List String) : IO FileTree := do
  let workDir := names (toString (← IO.FS.realPath "."))
  let start : FileTree := { root := .insert (.directory []) workDir (.directory []), workDir := workDir }
  (paths.map .ofString).foldlM reveal start

end ValueOrder.Main

def main (args : List String) : IO UInt32 := do
  let paths := match ValueOrder.CommandLine.parse args with
    | .ok ⟨.cases paths, _, _⟩ => paths
    | _ => []
  let files ← ValueOrder.Main.filesFor paths
  let output := ValueOrder.Program.run args files (← IO.getEnv "ORDCHECK_LOG")
  IO.eprint output.stderr
  IO.print output.stdout
  return UInt32.ofNat output.exitCode
