import ChainConformance.State.Diff
import ChainConformance.Verdict

/-!
# Reports

The results of fixtures, and their counts.
-/

namespace ChainConformance

/-- The result of one fixture of a file: the verdict on it or the reason why there is none,
and the changes that a client that is shared made to the state of its group. -/
structure CaseResult where
  name : String
  path : String
  result : FaultOr Verdict
  postDiff : Option AllocDiff := none

namespace CaseResult

def isPass (r : CaseResult) : Bool :=
  match r.result with
  | .ok v => v.isPass
  | .error _ => false

def isSkipped (r : CaseResult) : Bool :=
  match r.result with
  | .error .skipped => true
  | _ => false

/-- What is to be said of a result, nothing if the fixture passed or was skipped. -/
def complaint? (r : CaseResult) : Option String :=
  match r.result with
  | .ok .pass => none
  | .error .skipped => none
  | .ok (.fail f) => some (r.path ++ "::" ++ r.name ++ " failed: " ++ f.display)
  | .error e => some (r.path ++ "::" ++ r.name ++ " could not run: " ++ e.message)

end CaseResult

/-- How many fixtures passed, failed and were skipped. -/
structure Tally where
  passed : Nat
  failed : Nat
  skipped : Nat
  deriving Repr, DecidableEq

namespace Tally

/-- Counts results. One that neither passed nor was skipped has failed. -/
def ofResults (rs : List CaseResult) : Tally where
  passed := rs.countP (·.isPass)
  failed := rs.countP fun r => !r.isPass && !r.isSkipped
  skipped := rs.countP (·.isSkipped)

def display (t : Tally) : String :=
  toString t.passed ++ " passed, " ++ toString t.failed ++ " failed, " ++
    toString t.skipped ++ " skipped"

end Tally

end ChainConformance
