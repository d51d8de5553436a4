import ValueOrder.Log.Specification

/-!
# Which records are shown

A filter has one threshold for all records and others for targets that begin
with a given text. The longest such beginning decides, and the general threshold
decides where there is none. If the filter has a pattern, the message of a record
has to match it too.
-/

namespace ValueOrder

/-- Which records are shown. No two of the named thresholds have the same name. -/
structure Filter where
  general : Threshold
  named : List (String × Threshold) := []
  pattern? : Option Pattern := none

namespace Filter

/-- Sets the threshold of a name, in place of an earlier one. -/
def setNamed (name : String) (t : Threshold) : List (String × Threshold) → List (String × Threshold)
  | [] => [(name, t)]
  | (n, old) :: rest => if n = name then (n, t) :: rest else (n, old) :: setNamed name t rest

/-- The filter changed by a directive. -/
def apply (f : Filter) (d : Directive) : Filter :=
  match d.target? with
  | none => { f with general := d.threshold }
  | some name => { f with named := setNamed name d.threshold f.named }

/-- The filter that a level begins with and a specification changes. -/
def ofSpecification (level : Level) (spec : Specification) : Filter :=
  spec.directives.foldl apply { general := some level, pattern? := spec.pattern? }

/-- The threshold for a target: that of the longest name it begins with. -/
def thresholdFor (f : Filter) (target : String) : Threshold :=
  let longest := f.named.foldl
    (fun (best : Option (String × Threshold)) (entry : String × Threshold) =>
      if entry.1.isPrefixOf target then
        match best with
        | some b => if b.1.length ≤ entry.1.length then some entry else best
        | none => some entry
      else best)
    none
  match longest with
  | some entry => entry.2
  | none => f.general

def wants (f : Filter) (message : String) : Bool :=
  match f.pattern? with
  | none => true
  | some p => p.occursIn message

def admits (f : Filter) (r : Record) : Bool :=
  (f.thresholdFor r.target.name).admits r.level && f.wants r.message

end Filter

end ValueOrder
