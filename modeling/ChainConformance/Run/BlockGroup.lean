import ChainConformance.Run.Blocks
import ChainConformance.Run.Member

/-!
# Groups of block fixtures

Fixtures of blocks that share a state are run one after another on one target. A fixture
starts from the genesis block that the target holds, unless that block is another one or the
target can no longer be trusted.
-/

namespace ChainConformance.BlockGroup

variable {σ : Type}

/-- Runs the fixtures on a target that holds the given genesis block, or none that can be
used. -/
def runFrom (terms : Terms) (pre : Alloc) (target : Nat → BlockTarget σ) :
    List Member → Option Genesis → StateM (Moment σ) (List CaseResult)
  | [], _ => return []
  | member :: rest, held => do
    let m ← get
    if isCancelled terms.cancelAt m.now then
      return (member :: rest).map Member.cancelled
    let resumed := held.filter fun g => g.hash = member.fixture.genesisHash
    let (verdict, final) := BlockRun.run terms member.fixture pre target resumed m
    set final.moment
    -- A target that cannot be trusted any more is started anew for the next fixture.
    let held := if verdict.poisonsClient then none else final.genesis
    let results ← runFrom terms pre target rest held
    return member.result (.ok verdict) :: results

def run (terms : Terms) (pre : Alloc) (target : Nat → BlockTarget σ) (members : List Member)
    (m : Moment σ) : List CaseResult × Moment σ :=
  (runFrom terms pre target members none).run m

end ChainConformance.BlockGroup
