import ValueOrder.Log
import ValueOrder.Pattern.Meaning

/-!
# Log specifications

A specification says which records are shown. It lists directives, separated by
commas: `level`, `target=level`, or `target` alone for all its records. A slash
may follow, and behind it a pattern that messages have to match.
-/

namespace ValueOrder

/-- The least weighty level that is shown, or none if nothing is. -/
abbrev Threshold := Option Level

namespace Threshold

def admits (t : Threshold) (level : Level) : Bool :=
  match t with
  | none => false
  | some least => level.verbosity ≤ least.verbosity

/-- Reads the word for a threshold in any mixture of ASCII cases. -/
def ofText? (text : String) : Option Threshold :=
  let named : List (String × Threshold) :=
    [("off", none), ("error", some .error), ("warn", some .warn), ("info", some .info),
      ("debug", some .debug), ("trace", some .trace)]
  named.lookup text.toLower

end Threshold

/-- What one part of a specification asks for: a threshold for all records, or for
the targets that begin with a text. -/
structure Directive where
  target? : Option String
  threshold : Threshold
  deriving DecidableEq, Repr

inductive Complaint where
  /-- A part that asks for nothing sensible, by what is wrong in it. -/
  | directive (quoted : String)
  /-- More than one slash, by the whole specification. -/
  | slashes (spec : String)
  | pattern (text : String) (d : Pattern.Defect)
  deriving DecidableEq, Repr

def Complaint.message : Complaint → String
  | directive quoted => "warning: invalid logging spec '" ++ quoted ++ "', ignoring it"
  | slashes spec => "warning: invalid logging spec '" ++ spec ++ "', ignoring it (too many '/'s)"
  | pattern text d => "warning: invalid regex filter - " ++ d.message text

/-- Reads one part of a specification, which has no white space at its ends. -/
def Directive.ofText (part : String) : Except Complaint Directive :=
  match Text.split '=' part with
  | [single] =>
    match Threshold.ofText? single with
    | some t => .ok ⟨none, t⟩
    -- A word that is no level is a target, and all its records are wanted.
    | none => .ok ⟨some single, some .trace⟩
  | [target, level] =>
    let level := Text.trimmed level
    if level = "" then .ok ⟨some target, some .trace⟩
    else
      match Threshold.ofText? level with
      | some t => .ok ⟨some target, t⟩
      | none => .error (.directive level)
  | _ => .error (.directive part)

/-- The parts of a specification that ask for something, read one by one. -/
def Directive.listOfText (text : String) : List (Except Complaint Directive) :=
  (((Text.split ',' text).map Text.trimmed).filter (· ≠ "")).map ofText

/-- A specification as far as it is understood, and what is said about the rest. -/
structure Specification where
  directives : List Directive
  pattern? : Option Pattern
  complaints : List Complaint

namespace Specification

/-- The complaint of a reading that failed. -/
def complaint? {α : Type} : Except Complaint α → Option Complaint
  | .ok _ => none
  | .error c => some c

/-- The specification of directives and a pattern, each read or refused. -/
def ofParts (directives : List (Except Complaint Directive))
    (pattern? : Option (Except Complaint Pattern)) : Specification where
  directives := directives.filterMap Except.toOption
  pattern? := pattern?.bind Except.toOption
  complaints := directives.filterMap complaint? ++ (pattern?.bind complaint?).toList

/-- Reads a specification. One with more than one slash asks for nothing. -/
def ofText (text : String) : Specification :=
  match Text.split '/' text with
  | [directives] => ofParts (Directive.listOfText directives) none
  | [directives, pattern] =>
    ofParts (Directive.listOfText directives)
      (some ((Pattern.ofText pattern).mapError (.pattern pattern)))
  | _ => ⟨[], none, [.slashes text]⟩

end Specification

end ValueOrder
