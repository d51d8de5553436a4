import ValueOrder.Pattern
import ValueOrder.Pattern.Reader
import ValueOrder.Text.Folding

/-!
# What a written pattern means

Flags decide how an expression is understood: whether case counts, what a line is,
and whether characters or bytes are meant. A pattern is matched against texts only,
so one that could match a byte that is no character is refused.
-/

namespace ValueOrder.Pattern

/-! ## Flags -/

/-- The flags that bear on the meaning. -/
structure Flags where
  insensitive : Bool := false
  multiLine : Bool := false
  dotAll : Bool := false
  unicode : Bool := true
  returns : Bool := false
  deriving DecidableEq, Repr

namespace Flags

def set (f : Flags) (flag : Flag) (isOn : Bool) : Flags :=
  match flag with
  | .insensitive => { f with insensitive := isOn }
  | .multiLine => { f with multiLine := isOn }
  | .dotAll => { f with dotAll := isOn }
  | .unicode => { f with unicode := isOn }
  | .returns => { f with returns := isOn }
  | .swapGreed | .spaced => f

def change (f : Flags) (changes : List (Flag × Bool)) : Flags :=
  changes.foldl (fun f (flag, isOn) => f.set flag isOn) f

end Flags

/-! ## Sets of characters -/

abbrev CharSet := Char → Bool

namespace CharSet

def range (first last : Char) : CharSet := fun c => first ≤ c && c ≤ last

def union (sets : List CharSet) : CharSet := fun c => sets.any (· c)

/-- The other case of an ASCII letter. -/
def otherCase (c : Char) : Char := if c.isLower then c.toUpper else c.toLower

/-- The set with all characters that differ from its own in case alone. -/
def caseClosed (f : Flags) (s : CharSet) : CharSet := fun c =>
  if f.unicode then (Text.caseVariants c.toNat).any fun n => s (.ofNat n)
  else s c || (c.toNat < 128 && s (otherCase c))

/-- The set as flags for case understand it. -/
def folded (f : Flags) (s : CharSet) : CharSet := if f.insensitive then s.caseClosed f else s

/-- The set or, if it is negated, all other characters. -/
def signed (negated : Bool) (s : CharSet) : CharSet := fun c => s c != negated

/-- Whether the set has no byte beyond ASCII. -/
def isAscii (s : CharSet) : Bool := (List.range 256).all fun n => n < 128 || !s (.ofNat n)

end CharSet

def asciiDigit : CharSet := CharSet.range '0' '9'

def asciiLetter : CharSet := fun c => CharSet.range 'a' 'z' c || CharSet.range 'A' 'Z' c

/-- The ASCII characters that are part of words. -/
def asciiWord : CharSet := fun c => asciiDigit c || asciiLetter c || c = '_'

def asciiSpace : CharSet := fun c => c = ' ' || CharSet.range '\t' '\r' c

def AsciiClass.members : AsciiClass → CharSet
  | alnum => fun c => asciiDigit c || asciiLetter c
  | alpha => asciiLetter
  | ascii => fun c => c.toNat < 128
  | blank => fun c => c = ' ' || c = '\t'
  | cntrl => fun c => c.toNat < 32 || c.toNat = 127
  | digit => asciiDigit
  | graph => CharSet.range '!' '~'
  | lower => CharSet.range 'a' 'z'
  | print => CharSet.range ' ' '~'
  | punct => fun c => CharSet.range '!' '~' c && !asciiDigit c && !asciiLetter c
  | space => asciiSpace
  | upper => CharSet.range 'A' 'Z'
  | word => asciiWord
  | xdigit => fun c => asciiDigit c || CharSet.range 'a' 'f' c || CharSet.range 'A' 'F' c

/-- The characters of a class by escape, among all characters or among ASCII. -/
def ShortClass.members (k : ShortClass) (unicode : Bool) : CharSet :=
  match k, unicode with
  | .digit, true => Text.isDecimalDigit
  | .digit, false => asciiDigit
  | .space, true => Text.isWhiteSpace
  | .space, false => asciiSpace
  | .word, true => Text.isWordChar
  | .word, false => asciiWord

/-- A name of a property without what does not tell names apart: case, blanks, hyphens
and underscores. -/
def plainName (name : String) : String :=
  .ofList ((name.toList.filter fun c => c ≠ ' ' && c ≠ '-' && c ≠ '_').map Char.toLower)

/-- The characters with a property that has one of these names. -/
def property? (name : String) : Option CharSet :=
  let known : List (List String × CharSet) :=
    [(["any"], fun _ => true),
      (["ascii"], AsciiClass.members .ascii),
      (["alphabetic", "alpha"], Text.isAlphabetic),
      (["whitespace", "wspace", "space"], Text.isWhiteSpace),
      (["nd", "decimalnumber", "digit"], Text.isDecimalDigit)]
  (known.find? fun entry => entry.1.contains (plainName name)).map (·.2)

/-! ## The meaning of a class -/

/-- A set, folded and negated. Where bytes are meant it has to be of ASCII. -/
def finished (f : Flags) (negated : Bool) (place : Span) (s : CharSet) : Except Defect CharSet :=
  let s := (s.folded f).signed negated
  if f.unicode then .ok s
  else if s.isAscii then .ok fun c => c.toNat < 128 && s c
  else .error ⟨.notText, place, none⟩

/-- The characters of a class by escape, to which case makes no difference. -/
def shortSet (f : Flags) (k : ShortClass) (negated : Bool) (place : Span) : Except Defect CharSet :=
  finished { f with insensitive := false } negated place (k.members f.unicode)

def propertySet (f : Flags) (name : String) (negated : Bool) (place : Span) :
    Except Defect CharSet :=
  if !f.unicode then .error ⟨.unicodeForbidden, place, none⟩
  else
    match property? name with
    | some s => finished f negated place s
    | none => .error ⟨.propertyUnknown, place, none⟩

/-- The character that a literal means. -/
def Literal.meaning (f : Flags) (l : Literal) : Except Defect Char :=
  if !f.unicode && l.isByte && 128 ≤ l.char.toNat then .error ⟨.notText, l.place, none⟩
  else .ok l.char

/-- The character that a literal means inside brackets. -/
def Literal.classMeaning (f : Flags) (l : Literal) : Except Defect Char := do
  let c ← l.meaning f
  if !f.unicode && 128 ≤ c.toNat then throw ⟨.unicodeForbidden, l.place, none⟩
  return c

/-- The set that an operator makes of two. -/
def SetOperator.apply (op : SetOperator) (s t : CharSet) : CharSet := fun c =>
  match op with
  | .intersection => s c && t c
  | .difference => s c && !t c
  | .symmetricDifference => s c != t c

mutual

def ClassSet.meaning (f : Flags) : ClassSet → Except Defect CharSet
  | .nothing _ => .ok fun _ => false
  | .single l => do
    let c ← l.classMeaning f
    return fun d => d = c
  | .range first last _ => do
    let low ← first.classMeaning f
    let high ← last.classMeaning f
    return CharSet.range low high
  | .ascii k negated place => finished f negated place k.members
  | .short k negated place => shortSet f k negated place
  | .property name negated place => propertySet f name negated place
  | .union items _ => do return CharSet.union (← ClassSet.meanings f items)
  | .bracketed negated inner place => do finished f negated place (← inner.meaning f)
  | .operation op left right _ => do
    let s ← left.meaning f
    let t ← right.meaning f
    -- Case is closed before the operator applies: afterwards it could undo the difference.
    return op.apply (s.folded f) (t.folded f)

def ClassSet.meanings (f : Flags) : List ClassSet → Except Defect (List CharSet)
  | [] => .ok []
  | set :: rest => do
    let s ← set.meaning f
    let others ← ClassSet.meanings f rest
    return s :: others

end

/-! ## The meaning of an expression -/

/-- The condition that an assertion means. -/
def Assertion.meaning (f : Flags) (a : Assertion) : Look :=
  let inWord : CharSet := ShortClass.members .word f.unicode
  match a with
  | textStart => .textStart
  | textEnd => .textEnd
  | caret =>
    if !f.multiLine then .textStart else if f.returns then .lineStartAfterReturn else .lineStart
  | dollar =>
    if !f.multiLine then .textEnd else if f.returns then .lineEndBeforeReturn else .lineEnd
  | word => .word .boundary inWord
  | noWord => .word .noBoundary inWord
  | wordStart => .word .first inWord
  | wordEnd => .word .last inWord
  | wordStartHalf => .word .firstHalf inWord
  | wordEndHalf => .word .lastHalf inWord

/-- The characters that a dot stands for. -/
def dotSet (f : Flags) : CharSet := fun c =>
  f.dotAll || (c ≠ '\n' && !(f.returns && c = '\r'))

mutual

/-- What an expression means, and the flags for what follows it. -/
def Expression.meaning (f : Flags) : Expression → Except Defect (Pattern × Flags)
  | .empty _ => .ok (.empty, f)
  | .flags changes _ => .ok (.empty, f.change changes)
  | .literal l => do
    let c ← l.meaning f
    return (.oneOf (CharSet.folded f fun d => d = c), f)
  | .dot place => if f.unicode then .ok (.oneOf (dotSet f), f) else .error ⟨.notText, place, none⟩
  | .assertion a _ => .ok (.look (a.meaning f), f)
  | .short k negated place => do return (.oneOf (← shortSet f k negated place), f)
  | .property name negated place => do return (.oneOf (← propertySet f name negated place), f)
  | .bracketed set => do return (.oneOf (← set.meaning f), f)
  | .repeated e least most? _ => do
    let (p, f) ← e.meaning f
    return (.repeated p least most?, f)
  | .group changes e _ => do
    -- Flags that are set inside a group end with it.
    let (p, _) ← e.meaning (f.change changes)
    return (p, f)
  | .either branches _ => Expression.eitherMeaning f branches
  | .sequence items _ => Expression.sequenceMeaning f items

/-- What one of several branches means. Flags go on into later branches. -/
def Expression.eitherMeaning (f : Flags) : List Expression → Except Defect (Pattern × Flags)
  | [] => .ok (.empty, f)
  | [e] => e.meaning f
  | e :: e' :: rest => do
    let (p, f) ← e.meaning f
    let (q, f) ← Expression.eitherMeaning f (e' :: rest)
    return (.either p q, f)

def Expression.sequenceMeaning (f : Flags) : List Expression → Except Defect (Pattern × Flags)
  | [] => .ok (.empty, f)
  | e :: rest => do
    let (p, f) ← e.meaning f
    let (q, f) ← Expression.sequenceMeaning f rest
    return (.sequence p q, f)

end

/-- The pattern that a text spells. -/
def ofText (text : String) : Except Defect Pattern := do
  let e ← Expression.ofText text
  let (p, _) ← e.meaning {}
  return p

end ValueOrder.Pattern
