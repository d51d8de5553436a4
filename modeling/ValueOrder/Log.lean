/-!
# Log records

A computation that logs returns its result together with the records it made,
in order. Nothing else about it is an effect.
-/

namespace ValueOrder

/-- How weighty a record is, the weightiest first. -/
inductive Level where
  | error
  | warn
  | info
  | debug
  | trace
  deriving DecidableEq, Repr

namespace Level

def name : Level → String
  | .error => "ERROR"
  | .warn => "WARN"
  | .info => "INFO"
  | .debug => "DEBUG"
  | .trace => "TRACE"

/-- How verbose a log has to be to show the level. -/
def verbosity : Level → Nat
  | .error => 1
  | .warn => 2
  | .info => 3
  | .debug => 4
  | .trace => 5

end Level

/-- The part of the program that a record comes from. -/
inductive Target where
  /-- The comparison of two values. -/
  | comparison
  /-- The comparison of one pair of texts. -/
  | pair
  /-- The running of case files. -/
  | cases
  deriving DecidableEq, Repr

/-- The path by which directives and records name the target. -/
def Target.name : Target → String
  | .comparison => "ordering_core::comparison"
  | .pair => "ordcheck"
  | .cases => "ordcheck::cases"

structure Record where
  level : Level
  target : Target
  message : String
  deriving DecidableEq, Repr

/-- A result and the records made on the way to it. -/
structure Logged (α : Type) where
  records : List Record
  result : α

namespace Logged

instance : Monad Logged where
  pure a := ⟨[], a⟩
  bind x f :=
    let y := f x.result
    ⟨x.records ++ y.records, y.result⟩

def record (level : Level) (target : Target) (message : String) : Logged Unit :=
  ⟨[⟨level, target, message⟩], ()⟩

@[simp] theorem records_pure {α : Type} (a : α) : (pure a : Logged α).records = [] := rfl

@[simp] theorem result_pure {α : Type} (a : α) : (pure a : Logged α).result = a := rfl

@[simp] theorem records_bind {α β : Type} (x : Logged α) (f : α → Logged β) :
    (x >>= f).records = x.records ++ (f x.result).records := rfl

@[simp] theorem result_bind {α β : Type} (x : Logged α) (f : α → Logged β) :
    (x >>= f).result = (f x.result).result := rfl

@[simp] theorem records_record (level : Level) (target : Target) (message : String) :
    (record level target message).records = [⟨level, target, message⟩] := rfl

end Logged

end ValueOrder
