import ChainConformance.Fixture
import ChainConformance.Report

/-!
# Fixtures to run

A fixture with its name and the path of its file, and its results.
-/

namespace ChainConformance

structure Member where
  path : String
  name : String
  fixture : Fixture

namespace Member

def chainId (m : Member) : Word := (m.fixture.config.map (·.chainId)).getD 1

def result (m : Member) (r : FaultOr Verdict) : CaseResult :=
  { name := m.name, path := m.path, result := r }

def failed (m : Member) (failure : Failure) : CaseResult := m.result (.ok (.fail failure))

/-- The result of a fixture that was still to be run when the run was cancelled. -/
def cancelled (m : Member) : CaseResult := m.failed { kind := .cancelled }

end Member

end ChainConformance
