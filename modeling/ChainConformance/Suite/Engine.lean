import ChainConformance.Run.PayloadGroup
import ChainConformance.Suite.Cases
import ChainConformance.Suite.Collect

/-!
# Suites over the engine interface

Fixtures of payloads are grouped by the genesis that they start from, and every group is
run on a client of its own.
-/

namespace ChainConformance.EngineSuite

/-- How the cases are to be run: the fixtures of groups by the hashes of the groups, the
ones with states of their own, and the results that stand already. -/
structure Plan where
  grouped : OrderedMap Hash (List Member) := .empty
  inline : List Member := []
  settled : List CaseResult := []

def Plan.add (p : Plan) (m : Member) : Plan :=
  if !m.fixture.isEngine then
    { p with settled := p.settled ++ [m.failed {
        kind := .fixtureConstruction, message := some "fixture has no engine payloads" }] }
  else match m.fixture.preHash with
    | some hash =>
      let before := (p.grouped.get? hash).getD []
      { p with grouped := p.grouped.insert hash (before ++ [m]) }
    | none => { p with inline := p.inline ++ [m] }

/-- A group with its members, or the results of the members if it cannot be loaded. -/
def loadGroup (files : Files) (root : String) (hash : Hash) (members : List Member) :
    List CaseResult × List (Group × List Member) :=
  match Group.load files root hash with
  | .error e => (members.map fun m => m.result (.error (.other e.message)), [])
  | .ok group => ([], [(group, members)])

/-- What a fixture is known by in its group. -/
def testId (m : Member) : String := m.path ++ "::" ++ m.name

def take : List String → OrderedMap String Member → List Member × OrderedMap String Member
  | [], left => ([], left)
  | id :: ids, left =>
    match left.get? id with
    | none => take ids left
    | some m =>
      let (members, rest) := take ids (left.erase id)
      (m :: members, rest)

def members : List Group → OrderedMap String Member → List (Group × List Member)
  | [], _ => []
  | g :: rest, left =>
    let (taken, left) := take g.testIds left
    (g, taken) :: members rest left

/-- The groups that fixtures with states of their own make. -/
def inlineGroups (fixtures : List Member) : List (Group × List Member) :=
  let groups := Group.ofFixtures (fixtures.map fun m => (testId m, m.fixture))
  -- Of several fixtures with one test id the last one is kept.
  members groups.values (OrderedMap.ofList (fixtures.map fun m => (testId m, m)))

/-- Everything that is to be run, and the results that stand already. -/
def groups (files : Files) (root : String) (cases : Cases) :
    List CaseResult × List (Group × List Member) :=
  let plan := cases.members.foldl Plan.add { settled := cases.settled }
  let loaded := plan.grouped.entries.map fun e => loadGroup files root e.1 e.2
  (plan.settled ++ loaded.flatMap (·.1), loaded.flatMap (·.2) ++ inlineGroups plan.inline)

def run {ω σ : Type} (terms : Terms) (launcher : Launcher ω σ) (files : Files)
    (root : String) (cases : Cases) : StateM (Moment ω) (List CaseResult) := do
  let (settled, todo) := groups files root cases
  let batches ← todo.mapM fun g => modifyGet (PayloadGroup.run terms launcher g.1 g.2)
  return CaseResult.collect settled batches

end ChainConformance.EngineSuite
