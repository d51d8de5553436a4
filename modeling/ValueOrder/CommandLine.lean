import ValueOrder.Log
import ValueOrder.Report
import ValueOrder.Text.Search

/-!
# Command lines

Arguments are texts, read from left to right. They ask either for one pair of operands
or for case files. A value that waits to be read and the ways in which arguments
can be wrong are kept apart, because an error that shows at an argument comes
before one that shows only at the end. What the arguments are found to hold is then
turned into a request.
-/

namespace ValueOrder

/-- What the program is asked to do. -/
inductive Mode where
  /-- Compare one pair of texts. -/
  | pair (left op right : String)
  /-- Run the case files that the paths lead to. -/
  | cases (paths : List String)
  deriving DecidableEq, Repr

/-- Everything that a run depends on besides files. -/
structure Config where
  mode : Mode
  failFast : Bool
  level : Level
  deriving DecidableEq, Repr

/-- The bundled cases, run quietly. -/
def Config.default : Config := ⟨.cases ["working_dir/cases"], false, .warn⟩

/-- What arguments hold, each part as far as it is there. -/
structure Matches where
  /-- The paths of all `--cases` in order, if there is one. -/
  paths? : Option (List String)
  left? : Option String
  op? : Option String
  right? : Option String
  failFast : Bool
  verbosity : Nat
  deriving DecidableEq, Repr

/-- The level that flags for verbosity ask for: one step further for each. -/
def Level.ofFlags : Nat → Level
  | 0 => .warn
  | 1 => .info
  | 2 => .debug
  | _ => .trace

/-- The operand of a name, which has to be there. -/
def Matches.operand (name : String) : Option String → Except Report String
  | some text => .ok text
  | none => .error ⟨"missing " ++ name ++ " argument", []⟩

/-- The request that matches make. Without paths and without a left operand it is for the
bundled cases. -/
def Config.ofMatches (m : Matches) : Except Report Config := do
  let mode ←
    match m.paths? with
    | some paths => pure (.cases paths)
    | none =>
      if m.left?.isSome then do
        let left ← Matches.operand "LEFT" m.left?
        let op ← Matches.operand "OP" m.op?
        let right ← Matches.operand "RIGHT" m.right?
        pure (.pair left op right)
      else pure Config.default.mode
  return ⟨mode, m.failFast, .ofFlags m.verbosity⟩

/-- Why arguments are not carried out. -/
inductive UsageError where
  | help
  | version
  /-- An option that does not exist, or an operand too many. -/
  | unknownArgument
  /-- A value for an option that takes none. -/
  | unexpectedValue
  /-- No path, or an empty one, where a path is wanted. -/
  | emptyValue
  | conflict
  | missingOperand
  | repeatedOption
  deriving DecidableEq, Repr

namespace CommandLine

/-! ## Numbers as arguments -/

/-- Whether the characters are an exponent, or nothing. -/
def isExponentPart : List Char → Bool
  | [] => true
  | c :: rest =>
    let digits := match rest with
      | '+' :: digits => digits
      | '-' :: digits => digits
      | digits => digits
    (c = 'e' || c = 'E') && !digits.isEmpty && digits.all Char.isDigit

/-- Whether the characters are a decimal number: digits on at least one side of an
optional point, and an optional exponent. -/
def isDecimal (s : List Char) : Bool :=
  let whole := s.takeWhile Char.isDigit
  match s.dropWhile Char.isDigit with
  | '.' :: rest =>
    (!whole.isEmpty || !(rest.takeWhile Char.isDigit).isEmpty)
      && isExponentPart (rest.dropWhile Char.isDigit)
  | rest => !whole.isEmpty && isExponentPart rest

/-- Whether the characters are a number as a program may be given one: signed or
not, decimal or a name for an infinity or NaN in any mixture of cases. -/
def isNumber (s : List Char) : Bool :=
  let body := match s with
    | '+' :: rest => rest
    | '-' :: rest => rest
    | rest => rest
  isDecimal body || ["inf", "infinity", "nan"].contains (String.ofList body).toLower

/-! ## Arguments -/

/-- What an argument is before `--`, by its looks alone. -/
inductive Token where
  /-- The mark after which everything is an operand. -/
  | escape
  /-- A long option and the text after its `=`, if there is one. -/
  | long (name : String) (value? : Option String)
  | short (letters : List Char)
  /-- An operand or a value. -/
  | plain (text : String)
  deriving DecidableEq, Repr

/-- A long option's name and value, split at the first `=`. -/
def Token.ofLong (body : List Char) : Token :=
  let name := body.takeWhile (· ≠ '=')
  match body.dropWhile (· ≠ '=') with
  | [] => .long (.ofList name) none
  | _ :: value => .long (.ofList name) (some (.ofList value))

/-- Tells options from operands. A dash alone, and a dash before a number, begin no
option. -/
def Token.ofText (text : String) : Token :=
  match text.toList with
  | ['-', '-'] => .escape
  | '-' :: '-' :: body => .ofLong body
  | '-' :: c :: letters => if isNumber (c :: letters) then .plain text else .short (c :: letters)
  | _ => .plain text

/-! ## The order of checks -/

/-- The options that are checked when all arguments are read. -/
inductive Checked where
  | cases
  | failFast
  | verbose
  deriving DecidableEq, Repr

namespace Checked

/-- The order with an option met. Its place is that of its first appearance. -/
def met (o : Checked) (order : List Checked) : List Checked :=
  if o ∈ order then order else order ++ [o]

/-- The order with an option met that only counts. It becomes the last, and the one
that was last takes the place that it leaves. -/
def counted (o : Checked) (order : List Checked) : List Checked :=
  match order.getLast? with
  | none => [o]
  | some last =>
    if o ∈ order then order.dropLast.map (fun p => if p = o then last else p) ++ [o]
    else order ++ [o]

end Checked

/-! ## Reading -/

/-- What has been read so far. -/
structure Scan where
  /-- The operands in order. -/
  operands : List String := []
  /-- The paths of each `--cases` that is complete. -/
  groups : List (List String) := []
  /-- The paths of the latest `--cases`, as long as they are not checked. -/
  pending? : Option (List String) := none
  /-- Whether the latest `--cases` may still take the next argument as its value. -/
  awaiting : Bool := false
  /-- Whether `--` was read. -/
  escaped : Bool := false
  failFasts : Nat := 0
  verbosity : Nat := 0
  /-- The options that appeared, in the order in which they are checked. -/
  order : List Checked := []
  deriving DecidableEq, Repr

namespace Scan

/-- Checks the paths of the latest `--cases`. An empty path is an error. -/
def settle (s : Scan) : Except UsageError Scan :=
  match s.pending? with
  | none => .ok s
  | some paths =>
    if "" ∈ paths then .error .emptyValue
    else .ok { s with groups := s.groups ++ [paths], pending? := none }

def operand (s : Scan) (text : String) : Except UsageError Scan :=
  -- An operand too many is refused before anything else is looked at.
  if s.operands.length < 3 then do
    let s ← s.settle
    return { s with operands := s.operands ++ [text], awaiting := false }
  else .error .unknownArgument

def plain (s : Scan) (text : String) : Except UsageError Scan :=
  if s.awaiting then
    .ok { s with pending? := some (Text.split ',' text), awaiting := false }
  else s.operand text

/-- One more flag for verbosity. -/
def verbose (s : Scan) : Except UsageError Scan := do
  let s ← s.settle
  return { s with
    verbosity := s.verbosity + 1
    order := Checked.verbose.counted s.order
    awaiting := false }

/-- One more flag for stopping at the first failure. -/
def failFast (s : Scan) : Except UsageError Scan := do
  let s ← s.settle
  return { s with
    failFasts := s.failFasts + 1
    order := Checked.failFast.met s.order
    awaiting := false }

/-- An option that ends the reading with an answer of its own. -/
def informed (s : Scan) (answer : UsageError) : Except UsageError Scan := do
  let _ ← s.settle
  .error answer

/-- Case files, with the value that is attached or is to follow. -/
def cases (s : Scan) (value? : Option String) : Except UsageError Scan := do
  let s ← s.settle
  let s := { s with order := Checked.cases.met s.order }
  match value? with
  | none => return { s with pending? := some [], awaiting := true }
  -- A value that is attached is complete and is checked at once.
  | some value => settle { s with pending? := some (Text.split ',' value), awaiting := false }

def long (s : Scan) (name : String) (value? : Option String) : Except UsageError Scan :=
  let flag (read : Except UsageError Scan) : Except UsageError Scan :=
    if value?.isSome then .error .unexpectedValue else read
  if name = "cases" then s.cases value?
  else if name = "fail-fast" then flag s.failFast
  else if name = "verbose" then flag s.verbose
  else if name = "help" then flag (s.informed .help)
  else if name = "version" then flag (s.informed .version)
  else .error .unknownArgument

/-- Reads a cluster of short options from left to right. -/
def short (s : Scan) : List Char → Except UsageError Scan
  | [] => .ok s
  | c :: rest => do
    let s ←
      if c = 'v' then s.verbose
      else if c = 'h' then s.informed .help
      else if c = 'V' then s.informed .version
      else .error .unknownArgument
    s.short rest

def read (s : Scan) (text : String) : Except UsageError Scan :=
  if s.escaped then s.operand text
  else
    match Token.ofText text with
    | .escape => .ok { s with escaped := true }
    | .long name value? => s.long name value?
    | .short letters => s.short letters
    | .plain text => s.plain text

/-- Whether no `--cases` was given a path. -/
def pathless (s : Scan) : Bool := s.groups.all List.isEmpty

/-- The first check that fails: `--fail-fast` stands once, and `--cases` has a path. -/
def failedCheck? (s : Scan) : Option UsageError :=
  s.order.findSome? fun
    | .cases => if s.pathless then some .emptyValue else none
    | .failFast => if 1 < s.failFasts then some .repeatedOption else none
    | .verbose => none

/-- What is wrong with the arguments as a whole, in the order of the checks. -/
def fault? (s : Scan) : Option UsageError :=
  -- The last `--cases` was left without its value, and no earlier one had any.
  if s.awaiting && s.pathless then some .emptyValue
  else if !s.groups.isEmpty && !s.operands.isEmpty then some .conflict
  else if s.groups.isEmpty && s.operands.length < 3 then some .missingOperand
  else s.failedCheck?

def found (s : Scan) : Matches where
  paths? := if s.groups.isEmpty then none else some s.groups.flatten
  left? := s.operands[0]?
  op? := s.operands[1]?
  right? := s.operands[2]?
  failFast := s.failFasts ≠ 0
  verbosity := s.verbosity

/-- What the arguments hold, unless something is wrong with them as a whole. -/
def finish (s : Scan) : Except UsageError Matches := do
  let s ← s.settle
  match s.fault? with
  | some e => throw e
  | none => return s.found

end Scan

/-- What arguments hold that are well-formed. -/
def accept (args : List String) : Except UsageError Matches := do
  let s ← args.foldlM Scan.read {}
  s.finish

/-- What the arguments ask for. -/
def parse (args : List String) : Except UsageError Config := do
  let m ← accept args
  (Config.ofMatches m).mapError fun _ => .missingOperand

end CommandLine

end ValueOrder
