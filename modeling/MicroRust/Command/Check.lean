import MicroRust.Command.JobGroup
import MicroRust.Command.Session

/-! Checking files: a report for each, in the order in which they were named. -/

namespace MicroRust

open Text

structure FileCheck where
  output : List Glyph := []
  ok : Bool := false
  truncated : Bool := false

def FileCheck.write (check : FileCheck) (text : List Glyph) : Except String FileCheck :=
  .ok { check with output := check.output ++ text }

def acceptance (path : String) : List Glyph := glyphs s!"{path}: ok\n"

/-- The check of a file as pieces of work: its report, its verdict, and a word on a file without
errors. -/
def checkWork (s : Session) (files : Files) (path : String) : Work String FileCheck :=
  let result := s.frontEnd files path
  [fun check => (check.write result.output).mapError fun e => s!"{path}: {e}",
    fun check => .ok { check with ok := result.compiled.isSome, truncated := result.truncated },
    fun check => if check.ok then check.write (acceptance path) else .ok check]

def checkFile (s : Session) (files : Files) (path : String) : FileCheck :=
  let result := s.frontEnd files path
  let ok := result.compiled.isSome
  ⟨result.output ++ (if ok then acceptance path else []), ok, result.truncated⟩

structure CheckResult where
  output : List Glyph
  checked : Nat
  failed : Nat
  truncated : Nat

namespace CheckResult

def ofChecks (checks : List FileCheck) : CheckResult where
  output := checks.flatMap (·.output)
  checked := checks.length
  failed := checks.countP (!·.ok)
  truncated := checks.countP (·.truncated)

end CheckResult

def checkGroup (s : Session) (files : Files) (limit : Int) (paths : List String) :
    JobGroup String FileCheck :=
  .ofWorks limit (paths.map (checkWork s files)) {}

def checkFiles (s : Session) (files : Files) (paths : List String) : CheckResult :=
  .ofChecks (paths.map (checkFile s files))

end MicroRust
