import ChainConformance.Run.BlockGroup
import ChainConformance.Suite.Cases
import ChainConformance.Suite.Collect
import ChainConformance.Transition.Chain

/-!
# Suites through a transition tool

Fixtures of blocks are run on chains that a transition tool computes. Those that share the
state of a group run on one chain, every other one on a chain of its own.
-/

namespace ChainConformance.TransitionSuite

variable {ω : Type}

/-- What is to be run on one chain, which is made for the given chain id: the members of a
group, or a fixture with a state of its own. -/
structure Batch where
  pre : Alloc
  chainId : Word
  members : List Member

/-- How the cases are to be run: the fixtures of groups by the hashes of the groups, the
ones with states of their own, and the results that stand already. -/
structure Plan where
  grouped : OrderedMap Hash (List Member) := .empty
  inline : List Batch := []
  settled : List CaseResult := []

def Plan.add (p : Plan) (m : Member) : Plan :=
  if m.fixture.isEngine then
    { p with settled := p.settled ++ [m.failed {
        kind := .fixtureConstruction
        message := some "engine fixtures need an Engine-API client" }] }
  else match m.fixture.pre, m.fixture.preHash with
    | some pre, _ => { p with inline := p.inline ++ [⟨pre, m.chainId, [m]⟩] }
    | none, some hash =>
      let before := (p.grouped.get? hash).getD []
      { p with grouped := p.grouped.insert hash (before ++ [m]) }
    | none, none =>
      { p with settled := p.settled ++
          [m.result (.error (.other "fixture has no pre-state"))] }

/-- The batch of a group, or the results of its members if the group cannot be loaded. The
chain is that of the first member. -/
def groupBatch (files : Files) (root : String) (hash : Hash) (members : List Member) :
    List CaseResult × List Batch :=
  match Group.load files root hash with
  | .error e => (members.map fun m => m.result (.error (.other e.message)), [])
  | .ok group =>
    match members with
    | [] => ([], [])
    | first :: _ => ([], [⟨group.pre, first.chainId, members⟩])

/-- Everything that is to be run, and the results that stand already. -/
def batches (files : Files) (root : String) (cases : Cases) : List CaseResult × List Batch :=
  let plan := cases.members.foldl Plan.add { settled := cases.settled }
  let groups := plan.grouped.entries.map fun e => groupBatch files root e.1 e.2
  (plan.settled ++ groups.flatMap (·.1), groups.flatMap (·.2) ++ plan.inline)

def runBatch (terms : Terms) (tool : TransitionTool ω) (b : Batch) :
    StateM (Moment ω) (List CaseResult) := fun m =>
  let start : Moment (TransitionChain × ω) := ⟨m.now, ({}, m.state)⟩
  let (results, after) :=
    BlockGroup.run terms b.pre (TransitionChain.target tool b.chainId) b.members start
  (results, ⟨after.now, after.state.2⟩)

def run (terms : Terms) (tool : TransitionTool ω) (files : Files) (root : String)
    (cases : Cases) : StateM (Moment ω) (List CaseResult) := do
  let (settled, todo) := batches files root cases
  return CaseResult.collect settled (← todo.mapM (runBatch terms tool))

end ChainConformance.TransitionSuite
