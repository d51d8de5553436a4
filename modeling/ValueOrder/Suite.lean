import ValueOrder.Case.Reader
import ValueOrder.Report
import ValueOrder.Suite.Collection

/-!
# Running case files

All files are collected before the first one is read. Each file is read when its
turn comes, and its cases are checked in order.
-/

namespace ValueOrder

/-- Why a set of case files could not be run. -/
inductive SuiteError where
  | notCollected (e : CollectError)
  | unreadable (path : Path) (e : FileError)
  /-- The text of a file is no array of cases. -/
  | malformed (path : Path) (text : String) (fault : Fault Case.Cause)
  deriving Repr

def SuiteError.report : SuiteError → Report
  | .notCollected e => e.report
  | .unreadable path e => ⟨"failed to read " ++ path.display, [e.message]⟩
  | .malformed path text fault =>
    ⟨"failed to parse cases in " ++ path.display, [fault.message Case.Cause.message text]⟩

structure Failure where
  location : String
  name? : Option String
  detail : String
  deriving DecidableEq, Repr

def Failure.render (f : Failure) : String :=
  let name := match f.name? with
    | some name => " (" ++ name ++ ")"
    | none => ""
  "FAIL " ++ f.location ++ name ++ ": " ++ f.detail

/-- What a run came to. -/
structure Summary where
  passed : Nat := 0
  failures : List Failure := []
  deriving DecidableEq, Repr

namespace Summary

def failed (s : Summary) : Nat := s.failures.length

def success (s : Summary) : Bool := s.failures.isEmpty

/-- One more case that passed. -/
def pass (s : Summary) : Summary := { s with passed := s.passed + 1 }

/-- One more case that failed. -/
def fail (s : Summary) (f : Failure) : Summary := { s with failures := s.failures ++ [f] }

def render (s : Summary) : String :=
  toString s.passed ++ " passed, " ++ toString s.failed ++ " failed"

end Summary

namespace Suite

/-- The case files of the path arguments. -/
def collectFiles (t : FileTree) (paths : List Path) : Except SuiteError (List CaseFile) :=
  (collect t paths).mapError .notCollected

def load (t : FileTree) (path : Path) : Except SuiteError (List Case) :=
  match t.readText path with
  | .error e => .error (.unreadable path e)
  | .ok text => (Case.listOfText text).mapError (.malformed path text)

/-- The place of a case as it is shown: its file and its index in the file from 0. -/
def location (path : Path) (index : Nat) : String := path.display ++ "#" ++ toString index

/-- Checks cases of a file from an index on, and tells whether the run ends here. -/
def runCases (failFast : Bool) (path : Path) :
    (index : Nat) → List Case → Summary → Logged (Summary × Bool)
  | _, [], s => return (s, false)
  | index, c :: rest, s => do
    match ← c.check with
    | none =>
      .record .debug .cases (location path index ++ " passed")
      runCases failFast path (index + 1) rest s.pass
    | some detail =>
      let f : Failure := ⟨location path index, c.name?, detail⟩
      .record .debug .cases f.render
      if failFast then return (s.fail f, true)
      else runCases failFast path (index + 1) rest (s.fail f)

/-- Runs files one after the other. -/
def runFiles (t : FileTree) (failFast : Bool) :
    List CaseFile → Summary → Logged (Except SuiteError Summary)
  | [], s => return .ok s
  | file :: rest, s =>
    match load t file.spelling with
    | .error e => return .error e
    | .ok cases => do
      .record .info .cases ("running " ++ toString cases.length ++ " cases from " ++ file.path)
      let (s, stops) ← runCases failFast file.spelling 0 cases s
      if stops then return .ok s else runFiles t failFast rest s

/-- Runs the case files of the path arguments. -/
def run (t : FileTree) (paths : List Path) (failFast : Bool) : Logged (Except SuiteError Summary) :=
  match collectFiles t paths with
  | .error e => return .error e
  | .ok files => runFiles t failFast files {}

end Suite

end ValueOrder
