/-!
# Error reports

What the user is told when something cannot be done: one message, and under it what caused it
and what caused that.
-/

namespace ValueOrder

/-- An error as it is reported. Its causes stand from the outermost inwards. -/
structure Report where
  message : String
  causes : List String
  deriving DecidableEq, Repr

namespace Report

/-- The messages from the outermost inwards. -/
def chain (r : Report) : List String := r.message :: r.causes

/-- The characters with a margin in front of each line but the first. -/
def indented (margin : List Char) : List Char → List Char
  | [] => []
  | c :: rest => if c = '\n' then c :: (margin ++ indented margin rest) else c :: indented margin rest

/-- A cause behind a mark, under which its other lines begin. -/
def causeText (mark : String) (cause : String) : String :=
  "\n" ++ mark ++ .ofList (indented (List.replicate mark.length ' ') cause.toList)

/-- The mark of a cause among several: its number, on the right of five characters. -/
def numberMark (number : Nat) : String :=
  let digits := toString number
  .ofList (List.replicate (5 - digits.length) ' ') ++ digits ++ ": "

/-- The causes as they are printed. Several are numbered. -/
def causesText : List String → String
  | [] => ""
  | [cause] => "\n\nCaused by:" ++ causeText "    " cause
  | causes =>
    "\n\nCaused by:" ++ .join (causes.zipIdx.map fun (cause, n) => causeText (numberMark n) cause)

/-- The report as it is printed, with the line break after it. -/
def render (r : Report) : String := "Error: " ++ r.message ++ causesText r.causes ++ "\n"

end Report

end ValueOrder
