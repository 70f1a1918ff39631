import ChainConformance.Blocktest
import ChainConformance.Suite.Cases
import ChainConformance.Suite.Collect
import ChainConformance.Terms

/-!
# Suites through a client's own command

Whole files are given to the command of a client, whose report holds the verdicts of their
fixtures.
-/

namespace ChainConformance.BlocktestSuite

def place (m : Member) : List (List Member) → List (List Member)
  | [] => [[m]]
  | [] :: rest => place m rest
  | (first :: members) :: rest =>
    if Path.steps first.path = Path.steps m.path then (m :: first :: members) :: rest
    else [m] :: (first :: members) :: rest

def byFile (members : List Member) : List (List Member) :=
  (members.mergeSort fun a b => Cases.pathAtMost a.path b.path).foldr place []

/-- The failure of a fixture that the command says nothing of. -/
def missing : Failure :=
  { kind := .clientFault, message := some "missing from the blocktest report" }

/-- The results of fixtures in a report. What is found for one is not there for another. -/
def results : List Member → OrderedMap String Verdict → List CaseResult
  | [], _ => []
  | m :: rest, report =>
    m.result (.ok ((report.get? m.name).getD (.fail missing))) ::
      results rest (report.erase m.name)

variable {ω : Type}

def runFile (terms : Terms) (command : Blocktest.Command) (shell : Shell ω) :
    List Member → StateM (Moment ω) (List CaseResult)
  | [] => return []
  | first :: rest => do
    if isCancelled terms.cancelAt (← get).now then
      return (first :: rest).map Member.cancelled
    match ← modifyGet (command.runFile shell first.path) with
    | .ok report => return results (first :: rest) report
    | .error e =>
      return (first :: rest).map (·.failed { kind := .clientFault, message := some e.message })

def run (terms : Terms) (command : Blocktest.Command) (shell : Shell ω) (cases : Cases) :
    StateM (Moment ω) (List CaseResult) := do
  let batches ← (byFile cases.members).mapM (runFile terms command shell)
  return CaseResult.collect cases.settled batches

end ChainConformance.BlocktestSuite
