import ChainConformance.Path
import ChainConformance.Report

/-!
# Collecting results

Results come in batches, one from each worker. The report has them in the order of paths
and names, so that it does not depend on which batch came first.
-/

namespace ChainConformance.CaseResult

/-- Whether a result is not after another one: by the paths, and by the names in a file. -/
def atMost (a b : CaseResult) : Bool :=
  let p := Path.steps a.path
  let q := Path.steps b.path
  Path.stepsBefore p q || (p == q && !Text.before b.name a.name)

/-- The results that stand already and those of all batches, in order. -/
def collect (settled : List CaseResult) (batches : List (List CaseResult)) :
    List CaseResult :=
  (settled ++ batches.flatten).mergeSort atMost

end ChainConformance.CaseResult
