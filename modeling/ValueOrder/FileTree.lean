import ValueOrder.Path

/-!
# File trees

Directories, regular files and symbolic links as a value, with the rights that one has to them.
A path is resolved from the working directory, piece by piece, and links are followed wherever
they stand. A resolved path is the list of names from the root, its canonical name.
-/

namespace ValueOrder

/-- A directory entry. The names in a directory are distinct. -/
inductive Node where
  | file (content : ByteArray)
  | directory (entries : List (FileName × Node))
  | link (target : Path)

/-- Why a path leads to no readable text. -/
inductive FileError where
  | notFound
  | denied
  | notDirectory
  | isDirectory
  | nameTooLong
  | tooManyLinks
  /-- The path holds the byte zero, which no name holds. -/
  | nulInName
  | notText
  deriving DecidableEq, Repr

def FileError.message : FileError → String
  | .notFound => "No such file or directory (os error 2)"
  | .denied => "Permission denied (os error 13)"
  | .notDirectory => "Not a directory (os error 20)"
  | .isDirectory => "Is a directory (os error 21)"
  | .nameTooLong => "File name too long (os error 36)"
  | .tooManyLinks => "Too many levels of symbolic links (os error 40)"
  | .nulInName => "file name contained an unexpected NUL byte"
  | .notText => "stream did not contain valid UTF-8"

/-- The names from the root to a node, links followed. -/
abbrev CanonicalName := List FileName

/-- The length of the path that starts at the root and has these names. -/
def CanonicalName.pathLength (name : CanonicalName) : Nat :=
  (name.flatMap fun piece => Path.slash :: piece.bytes).length

@[simp] theorem CanonicalName.pathLength_nil : pathLength [] = 0 := rfl

@[simp] theorem CanonicalName.pathLength_cons (piece : FileName) (name : CanonicalName) :
    pathLength (piece :: name) = piece.bytes.length + 1 + pathLength name := by
  rw [pathLength, List.flatMap_cons, List.length_append, List.length_cons]
  rfl

/-- What paths are told apart by: whether one starts at the root, and its pieces. -/
structure FileKey where
  rooted : Bool
  pieces : List FileName
  deriving DecidableEq, Repr

namespace FileKey

/-- The key of a canonical name, which starts at the root. -/
def canonical (name : CanonicalName) : FileKey := ⟨true, name⟩

/-- The key of a path that has no canonical name. Empty pieces do not count, nor do single
dots, unless one stands in front. -/
def spelled (path : Path) : FileKey :=
  let counted := List.filter fun piece => piece ≠ .empty ∧ piece ≠ .here
  { rooted := path.isRooted
    pieces := match path.pieces with
      | [] => []
      | first :: rest => if first = .here then first :: counted rest else counted (first :: rest) }

theorem canonical_inj {name other : CanonicalName} :
    canonical name = canonical other ↔ name = other := by
  simp [canonical]

end FileKey

namespace Node

def child? : Node → FileName → Option Node
  | .directory entries, name => entries.lookup name
  | _, _ => none

def at? (root : Node) : CanonicalName → Option Node
  | [] => some root
  | name :: rest =>
    match root.child? name with
    | some node => node.at? rest
    | none => none

/-- The entries with the one of a name replaced, or put last. -/
def setEntry (name : FileName) (node : Node) : List (FileName × Node) → List (FileName × Node)
  | [] => [(name, node)]
  | (n, old) :: rest => if n = name then (name, node) :: rest else (n, old) :: setEntry name node rest

/-- Puts a node where the names lead. Directories on the way are made, and an
empty directory leaves one that is there as it is. -/
def insert (node : Node) : CanonicalName → Node → Node
  | [], old =>
    match node, old with
    | .directory [], .directory entries => .directory entries
    | new, _ => new
  | name :: rest, old =>
    let entries := match old with
      | .directory entries => entries
      | _ => []
    let inner := (entries.lookup name).getD (.directory [])
    .directory (setEntry name (insert node rest inner) entries)

end Node

/-- A file tree with the working directory from which paths are resolved. -/
structure FileTree where
  root : Node
  workDir : CanonicalName := []
  /-- Whether one may read what is in a file or which names are in a directory. -/
  mayRead : CanonicalName → Bool := fun _ => true
  /-- Whether one may look names up in a directory. -/
  maySearch : CanonicalName → Bool := fun _ => true

/-- What keeps one from looking up a piece in a directory, if anything does. -/
abbrev Obstacle := CanonicalName → FileName → Option FileError

namespace FileTree

/-- How many links are followed on the way to one node. -/
def maxLinks : Nat := 40

def maxNameBytes : Nat := 255

def maxPathBytes : Nat := 4095

/-- Follows the pieces of a path from a place in the tree. Every piece, even one
that leads nowhere else, has to be looked up in a directory. -/
def follow (root : Node) (obstacle : Obstacle) (links : Nat) (place : CanonicalName)
    (pieces : List FileName) : Except FileError CanonicalName :=
  match pieces with
  | [] => .ok place
  | piece :: rest =>
    match root.at? place with
    | some (.directory entries) =>
      if piece = .empty then follow root obstacle links place rest
      else
        match obstacle place piece with
        | some e => .error e
        | none =>
          if piece = .here then follow root obstacle links place rest
          -- Above the root lies the root.
          else if piece = .up then follow root obstacle links place.dropLast rest
          else if maxNameBytes < piece.bytes.length then .error .nameTooLong
          else
            match entries.lookup piece with
            | none => .error .notFound
            | some (.link target) =>
              match links with
              | 0 => .error .tooManyLinks
              | links + 1 =>
                -- A link stands for its target, and the pieces behind it come after those.
                let start := if target.isRooted then [] else place
                follow root obstacle links start (target.pieces ++ rest)
            | some _ => follow root obstacle links (place ++ [piece]) rest
    | _ => .error .notDirectory
termination_by (links, pieces.length)

section Resolution
variable (t : FileTree) (path : Path)

/-- Follows a path from where it starts. The empty path leads nowhere. -/
def followPath (obstacle : Obstacle) : Except FileError CanonicalName :=
  if 0 ∈ path.bytes then .error .nulInName
  else if path = .empty then .error .notFound
  else follow t.root obstacle maxLinks (if path.isRooted then [] else t.workDir) path.pieces

/-- A piece is looked up in the directory at hand, which needs the right to it. -/
def lookingUp : Obstacle := fun place _ =>
  if t.maySearch place then none else some .denied

/-- The canonical name of what a path leads to. -/
def resolve : Except FileError CanonicalName :=
  if maxPathBytes < path.bytes.length then .error .nameTooLong else t.followPath path t.lookingUp

/-- A name is looked up by its path from the root, which needs the right to every directory on
it and must not be too long. -/
def lookingUpFromRoot : Obstacle := fun place piece =>
  if piece = .here ∨ piece = .up then none
  else if maxPathBytes < CanonicalName.pathLength (place ++ [piece]) then some .nameTooLong
  else if ∀ n ≤ place.length, t.maySearch (place.take n) then none
  else some .denied

/-- The canonical name of what a path leads to, as one is told that asks for it. A path may lead
somewhere and still have none, since each step is made from the root. -/
def realPath : Except FileError CanonicalName := t.followPath path t.lookingUpFromRoot

/-- What a path is told apart by: the canonical name of what it leads to, or the path itself
where there is none to be had. -/
def key : FileKey :=
  match t.realPath path with
  | .ok place => .canonical place
  | .error _ => .spelled path

/-- What is in the directory that a path leads to. -/
def listing : Except FileError (List (FileName × Node)) := do
  let place ← t.resolve path
  match t.root.at? place with
  | some (.directory entries) => if t.mayRead place then .ok entries else .error .denied
  | _ => .error .notDirectory

def readText : Except FileError String := do
  let place ← t.resolve path
  match t.root.at? place with
  | some (.file content) =>
    if t.mayRead place then
      match String.fromUTF8? content with
      | some text => .ok text
      | none => .error .notText
    else .error .denied
  | some (.directory _) => if t.mayRead place then .error .isDirectory else .error .denied
  | _ => .error .notFound

end Resolution

/-- The tree with a node put at a path below the working directory. The directories
on the way are resolved where they are there and made where they are not. -/
def put (t : FileTree) (path : Path) (node : Node) : FileTree :=
  let pieces := path.pieces.filter fun piece => piece ≠ .empty ∧ piece ≠ .here
  let parent := pieces.dropLast.foldl (fun place piece =>
    ((follow t.root t.lookingUp maxLinks place [piece]).toOption).getD (place ++ [piece])) t.workDir
  { t with root := Node.insert node (parent ++ pieces.getLast?.toList) t.root }

/-- The tree with one empty directory, in which one works. -/
def empty : FileTree := { root := .directory [] }

end FileTree

end ValueOrder
