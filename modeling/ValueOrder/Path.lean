import ValueOrder.Text.Lossy
import ValueOrder.Text.Order
import ValueOrder.Text.Search

/-!
# Paths

A path is a list of bytes, of which the slash separates names. Nothing else is asked of the
bytes, so a path need not be text.
-/

namespace ValueOrder

structure Path where
  bytes : List UInt8
  deriving DecidableEq, Repr

/-- A name in a directory. -/
abbrev FileName := Path

namespace Path

def ofString (s : String) : Path := ⟨Text.bytes s⟩

instance : Coe String Path := ⟨ofString⟩

instance : Coe (List String) (List Path) := ⟨List.map ofString⟩

/-- The path as it is shown. Bytes that are no text are replaced. -/
def display (p : Path) : String := .ofList (Text.decodeLossy 0 p.bytes)

def slash : UInt8 := 0x2F

def dot : UInt8 := 0x2E

def empty : Path := ⟨[]⟩

/-- The name by which each directory contains itself. -/
def here : Path := ⟨[dot]⟩

/-- The name by which each directory contains the one above it. -/
def up : Path := ⟨[dot, dot]⟩

/-- Whether the path starts at the root. -/
def isRooted (p : Path) : Bool := p.bytes.head? = some slash

/-- What stands between the slashes. -/
def pieces (p : Path) : List FileName := (Text.piecesOf slash p.bytes).map mk

/-- The path of a name behind a path, with one slash between them. -/
def push (p : Path) (name : FileName) : Path :=
  if p.bytes.getLast?.all (· = slash) then ⟨p.bytes ++ name.bytes⟩
  else ⟨p.bytes ++ slash :: name.bytes⟩

/-- A path followed by names. -/
def join (p : Path) (names : List FileName) : Path := names.foldl push p

end Path

end ValueOrder
