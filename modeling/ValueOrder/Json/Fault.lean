/-!
# Faults in a text and where they are

A reader works on the characters that are left, so a fault remembers how many
bytes of the text lie beyond it. The whole text turns that number into a line
and a column. Lines and columns count bytes, and a fault may count the byte it
stumbled over without taking it.
-/

namespace ValueOrder

/-- What went wrong, and how many bytes of the text lie beyond that point. -/
structure Fault (ε : Type) where
  cause : ε
  remaining : Nat
  deriving DecidableEq, Repr

/-- The length of a text in UTF-8 bytes. -/
def byteLength : List Char → Nat
  | [] => 0
  | c :: rest => c.utf8Size + byteLength rest

@[simp] theorem byteLength_append (s t : List Char) :
    byteLength (s ++ t) = byteLength s + byteLength t := by
  induction s with
  | nil => simp [byteLength]
  | cons c rest ih => simp [byteLength, ih, Nat.add_assoc]

namespace Fault

/-- A fault just before the characters that are left. -/
def before {ε : Type} (cause : ε) (rest : List Char) : Fault ε := ⟨cause, byteLength rest⟩

/-- A fault that counts the next byte too, if there is one. -/
def counting {ε : Type} (cause : ε) (rest : List Char) : Fault ε := ⟨cause, byteLength rest - 1⟩

/-- The same place with another cause. -/
def mapCause {ε δ : Type} (f : ε → δ) (fault : Fault ε) : Fault δ := ⟨f fault.cause, fault.remaining⟩

end Fault

/-- A place in a text: the line from 1, and how many bytes of that line precede it. -/
structure Position where
  line : Nat
  column : Nat
  deriving DecidableEq, Repr

namespace Position

def start : Position := ⟨1, 0⟩

/-- The place so many bytes further on, possibly inside a character. -/
def advance (p : Position) : List Char → Nat → Position
  | [], _ => p
  | c :: rest, n =>
    if n < c.utf8Size then ⟨p.line, p.column + n⟩
    else
      let next := if c = '\n' then ⟨p.line + 1, 0⟩ else ⟨p.line, p.column + c.utf8Size⟩
      advance next rest (n - c.utf8Size)

/-- The place before the last `remaining` bytes of a text. -/
def beforeLast (text : List Char) (remaining : Nat) : Position :=
  start.advance text (byteLength text - remaining)

end Position

/-- A fault as a message with its place in the text. -/
def Fault.message {ε : Type} (describe : ε → String) (text : String) (fault : Fault ε) : String :=
  let p := Position.beforeLast text.toList fault.remaining
  describe fault.cause ++ " at line " ++ toString p.line ++ " column " ++ toString p.column

end ValueOrder
