import ValueOrder.FileTree
import ValueOrder.Report

/-!
# Collecting case files

Path arguments name case files, or directories that are searched for files with
the extension `json`. Each file is listed once, under the first spelling that
led to it.
-/

namespace ValueOrder

/-- A case file: the path by which it is named, and what tells it apart from others. -/
structure CaseFile where
  spelling : Path
  key : FileKey
  deriving DecidableEq, Repr

/-- The path of a case file as it is shown. -/
def CaseFile.path (f : CaseFile) : String := f.spelling.display

/-- A directory whose entries could not be listed. -/
structure WalkFault where
  directory : Path
  error : FileError
  deriving DecidableEq, Repr

/-- Why the case files of path arguments could not be collected. -/
inductive CollectError where
  /-- The argument leads to neither a file nor a directory. -/
  | missing (path : Path)
  /-- The argument leads to a directory, but not all directories below it can be listed. -/
  | notWalked (path : Path) (fault : WalkFault)
  deriving DecidableEq, Repr

def CollectError.report : CollectError → Report
  | .missing path => ⟨"case path " ++ path.display ++ " does not exist", []⟩
  | .notWalked path fault =>
    ⟨"failed to walk " ++ path.display,
      ["IO error for operation on " ++ fault.directory.display ++ ": " ++ fault.error.message,
        fault.error.message]⟩

namespace Suite

/-- The lists one behind the other, or the first error among them. -/
def gather {ε α : Type} : List (Except ε (List α)) → Except ε (List α)
  | [] => .ok []
  | .error e :: _ => .error e
  | .ok first :: rest => (gather rest).map (first ++ ·)

/-- Whether a file name has the extension `json`. A name that is nothing but the
extension has none. -/
def hasCaseExtension (name : FileName) : Bool :=
  let extension : Path := ".json"
  extension.bytes.isSuffixOf name.bytes && name ≠ extension

mutual

/-- The paths of the case files below a directory that itself has this path, directory by
directory in the order of names. A directory is listed by its path before anything in it is
looked at, and links are passed by. -/
def caseFiles (t : FileTree) (path : Path) : Node → Except WalkFault (List Path)
  | .directory entries =>
    match t.listing path with
    | .error e => .error ⟨path, e⟩
    | .ok _ =>
      -- Entries are sorted, not paths, so the files of a directory stay together.
      let sorted := (entryFiles t path entries).mergeSort fun a b => a.1.bytes ≤ b.1.bytes
      gather (sorted.map (·.2))
  | _ => .ok []

/-- The case files that each entry of a directory contributes. -/
def entryFiles (t : FileTree) (path : Path) :
    List (FileName × Node) → List (FileName × Except WalkFault (List Path))
  | [] => []
  | (name, node) :: rest =>
    let files := match node with
      | .file _ => .ok (if hasCaseExtension name then [path.push name] else [])
      | node => caseFiles t (path.push name) node
    (name, files) :: entryFiles t path rest

end

def caseFile (t : FileTree) (path : Path) : CaseFile := ⟨path, t.key path⟩

/-- The case files that one path argument stands for. -/
def expand (t : FileTree) (path : Path) : Except CollectError (List CaseFile) :=
  match t.resolve path with
  | .error _ => .error (.missing path)
  | .ok place =>
    match t.root.at? place with
    | some (.directory entries) =>
      match caseFiles t path (.directory entries) with
      | .error fault => .error (.notWalked path fault)
      | .ok files => .ok (files.map (caseFile t))
    | some (.file _) => .ok [caseFile t path]
    | _ => .error (.missing path)

/-- The files without those whose key came before. -/
def firstSpellings (seen : List FileKey) : List CaseFile → List CaseFile
  | [] => []
  | f :: rest =>
    if f.key ∈ seen then firstSpellings seen rest
    else f :: firstSpellings (f.key :: seen) rest

/-- The case files of all path arguments, or what kept those of one from being found. -/
def expandAll (t : FileTree) (paths : List Path) : Except CollectError (List CaseFile) :=
  gather (paths.map (expand t))

/-- The case files of the path arguments, each once. -/
def collect (t : FileTree) (paths : List Path) : Except CollectError (List CaseFile) :=
  (expandAll t paths).map (firstSpellings [])

end Suite

end ValueOrder
