import ValueOrder.Pattern.Defect

/-!
# Patterns as written

The tree of a pattern as it was written, with the stretch of each part, so that
what is wrong with it can be shown.
-/

namespace ValueOrder.Pattern

/-! ## Characters and their classes -/

/-- A character that stands for itself. -/
structure Literal where
  char : Char
  /-- Whether it was written as two hexadecimal digits, which may mean a byte. -/
  isByte : Bool
  place : Span
  deriving DecidableEq, Repr

/-- The classes that an escape of one letter names. -/
inductive ShortClass where
  | digit
  | space
  | word
  deriving DecidableEq, Repr

/-- The classes that have a name between `[:` and `:]`. -/
inductive AsciiClass where
  | alnum
  | alpha
  | ascii
  | blank
  | cntrl
  | digit
  | graph
  | lower
  | print
  | punct
  | space
  | upper
  | word
  | xdigit
  deriving DecidableEq, Repr

def AsciiClass.ofName? (name : String) : Option AsciiClass :=
  [("alnum", alnum), ("alpha", alpha), ("ascii", ascii), ("blank", blank), ("cntrl", cntrl),
    ("digit", digit), ("graph", graph), ("lower", lower), ("print", print), ("punct", punct),
    ("space", space), ("upper", upper), ("word", word), ("xdigit", xdigit)].lookup name

/-- The operators between the sets inside brackets. -/
inductive SetOperator where
  | intersection
  | difference
  | symmetricDifference
  deriving DecidableEq, Repr

/-- What stands between brackets. -/
inductive ClassSet where
  | nothing (place : Span)
  | single (l : Literal)
  | range (first last : Literal) (place : Span)
  | ascii (k : AsciiClass) (negated : Bool) (place : Span)
  | short (k : ShortClass) (negated : Bool) (place : Span)
  | property (name : String) (negated : Bool) (place : Span)
  | union (items : List ClassSet) (place : Span)
  | bracketed (negated : Bool) (inner : ClassSet) (place : Span)
  | operation (op : SetOperator) (left right : ClassSet) (place : Span)
  deriving Repr

def ClassSet.place : ClassSet → Span
  | nothing p => p
  | single l => l.place
  | range _ _ p => p
  | ascii _ _ p => p
  | short _ _ p => p
  | property _ _ p => p
  | union _ p => p
  | bracketed _ _ p => p
  | operation _ _ _ p => p

/-! ## Expressions -/

/-- The conditions that can be written. What `^` and `$` mean depends on flags. -/
inductive Assertion where
  | textStart
  | textEnd
  | caret
  | dollar
  | word
  | noWord
  | wordStart
  | wordEnd
  | wordStartHalf
  | wordEndHalf
  deriving DecidableEq, Repr

/-- The flags that a pattern can change. -/
inductive Flag where
  | insensitive
  | multiLine
  | dotAll
  | swapGreed
  | unicode
  | returns
  | spaced
  deriving DecidableEq, Repr

def Flag.ofLetter? : Char → Option Flag
  | 'i' => some insensitive
  | 'm' => some multiLine
  | 's' => some dotAll
  | 'U' => some swapGreed
  | 'u' => some unicode
  | 'R' => some returns
  | 'x' => some spaced
  | _ => none

/-- A pattern as written. -/
inductive Expression where
  | empty (place : Span)
  /-- Flags for the rest of the group. -/
  | flags (changes : List (Flag × Bool)) (place : Span)
  | literal (l : Literal)
  | dot (place : Span)
  | assertion (a : Assertion) (place : Span)
  | short (k : ShortClass) (negated : Bool) (place : Span)
  | property (name : String) (negated : Bool) (place : Span)
  | bracketed (set : ClassSet)
  | repeated (e : Expression) (least : Nat) (most? : Option Nat) (place : Span)
  | group (changes : List (Flag × Bool)) (e : Expression) (place : Span)
  | either (branches : List Expression) (place : Span)
  | sequence (items : List Expression) (place : Span)
  deriving Repr

namespace Expression

def place : Expression → Span
  | empty p => p
  | flags _ p => p
  | literal l => l.place
  | dot p => p
  | assertion _ p => p
  | short _ _ p => p
  | property _ _ p => p
  | bracketed set => set.place
  | repeated _ _ _ p => p
  | group _ _ p => p
  | either _ p => p
  | sequence _ p => p

/-- Whether there is something that a repetition can repeat. -/
def isRepeatable : Expression → Bool
  | empty _ => false
  | flags _ _ => false
  | _ => true

end Expression

/-! ## Depth -/

mutual

/-- The first part, outside in and from left to right, that lies too deep below so
many others. -/
def ClassSet.tooDeep? (depth : Nat) : ClassSet → Option Span
  | .union items p =>
    if maxDepth ≤ depth then some p else ClassSet.firstTooDeep? (depth + 1) items
  | .bracketed _ inner p => if maxDepth ≤ depth then some p else inner.tooDeep? (depth + 1)
  | .operation _ left right p =>
    if maxDepth ≤ depth then some p
    else (left.tooDeep? (depth + 1)).or (right.tooDeep? (depth + 1))
  | _ => none

/-- The first part of several sets that lies too deep. -/
def ClassSet.firstTooDeep? (depth : Nat) : List ClassSet → Option Span
  | [] => none
  | set :: rest => (set.tooDeep? depth).or (ClassSet.firstTooDeep? depth rest)

end

mutual

/-- The first part, outside in and from left to right, that lies too deep below so
many others. -/
def Expression.tooDeep? (depth : Nat) : Expression → Option Span
  | .bracketed set => set.tooDeep? depth
  | .repeated e _ _ p => if maxDepth ≤ depth then some p else e.tooDeep? (depth + 1)
  | .group _ e p => if maxDepth ≤ depth then some p else e.tooDeep? (depth + 1)
  | .either branches p =>
    if maxDepth ≤ depth then some p else Expression.firstTooDeep? (depth + 1) branches
  | .sequence items p =>
    if maxDepth ≤ depth then some p else Expression.firstTooDeep? (depth + 1) items
  | _ => none

/-- The first part of several expressions that lies too deep. -/
def Expression.firstTooDeep? (depth : Nat) : List Expression → Option Span
  | [] => none
  | e :: rest => (e.tooDeep? depth).or (Expression.firstTooDeep? depth rest)

end

end ValueOrder.Pattern
