import ValueOrder.Log

/-!
# Log lines

A record is shown as its level, its target and its message. Targets are padded
to the longest one shown so far, so that messages line up. The time stamp that the
program puts in front of a line is left out.
-/

namespace ValueOrder.Record

/-- A text filled up with spaces to a width. -/
def padded (width : Nat) (s : String) : String := s ++ "".pushn ' ' (width - s.length)

/-- The line of one record, with the target padded to a width. -/
def line (width : Nat) (r : Record) : String :=
  padded 5 r.level.name ++ " " ++ padded width r.target.name ++ " > " ++ r.message ++ "\n"

/-- The lines of records, given the width that targets have come to before. -/
def lines (width : Nat) : List Record → List String
  | [] => []
  | r :: rest =>
    let width := max width r.target.name.length
    r.line width :: lines width rest

end ValueOrder.Record
