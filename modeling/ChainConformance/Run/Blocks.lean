import ChainConformance.Fixture
import ChainConformance.Target.Blocks
import ChainConformance.Terms

/-!
# Runs over blocks

A fixture of blocks is run on a target from its genesis to the state at its end. Blocks are
offered in order; the first one that is rejected as expected ends the chain. Every failure
ends the run.
-/

namespace ChainConformance

/-- The end of the chain that a target holds, with the root of the state there. -/
structure Tip where
  head : ChainHead
  stateRoot : Hash
  deriving DecidableEq

/-- Where a run over blocks stands. -/
inductive Phase where
  | uninitialized
  | genesisVerified (tip : Tip)
  | extending (tip : Tip) (nextBlock : Nat)
  | finished (verdict : Verdict)
  deriving DecidableEq

/-- What a run over blocks has come to: the moment, the phases that it has gone through, the
last one first, and the genesis block of the target once it is known to be that of the
fixture. -/
structure BlockRun (σ : Type) where
  moment : Moment σ
  phases : List Phase
  genesis : Option Genesis

abbrev BlockStep (σ : Type) := ExceptT Failure (StateM (BlockRun σ))

namespace BlockRun

variable {σ α : Type}

def initial (m : Moment σ) : BlockRun σ := ⟨m, [.uninitialized], none⟩

def enter (p : Phase) : BlockStep σ Unit := modify fun r => { r with phases := p :: r.phases }

/-- Makes a call under the terms of the run: the one that there is at the time. -/
def guarded (terms : Terms) (c : Nat → Call σ α) : BlockStep σ (Guarded α) := do
  let run ← get
  let (answer, next) :=
    run.moment.guarded terms.cancelAt terms.callTimeout (c run.moment.now)
  set { run with moment := next }
  return answer

/-- Calls the target for a genesis block: a new one, or one that it holds already. -/
def begin (f : Fixture) (pre : Alloc) (target : BlockTarget σ) (resumed : Option Genesis) :
    Call σ (FaultOr Genesis) :=
  match resumed with
  | some g => do return (← target.resetTo g.hash).map fun _ => g
  | none => target.start f.network pre f.genesis

def setupFailure (message : String) : Failure :=
  { kind := .setupError, message := some message }

/-- Compares the genesis block of a target with that of the fixture. -/
def judgeGenesis (f : Fixture) (g : Genesis) : Except Failure Unit :=
  if g.stateRoot ≠ f.genesis.stateRoot then
    .error (setupFailure ("genesis state root mismatch: expected " ++
      f.genesis.stateRoot.toHex ++ ", got " ++ g.stateRoot.toHex))
  else if g.hash ≠ f.genesisHash then
    .error (setupFailure ("genesis hash mismatch: expected " ++ f.genesisHash.toHex ++
      ", got " ++ g.hash.toHex))
  else .ok ()

/-- Puts the target at the genesis of the fixture. -/
def establish (terms : Terms) (f : Fixture) (pre : Alloc) (target : Nat → BlockTarget σ)
    (resumed : Option Genesis) : BlockStep σ Tip := do
  match ← guarded terms fun now => begin f pre (target now) resumed with
  | .done (.ok g) =>
    judgeGenesis f g
    modify fun r => { r with genesis := some g }
    return ⟨f.genesisHead, g.stateRoot⟩
  | .done (.error e) => throw (setupFailure e.message)
  | .timedOut => throw { kind := .timeout }
  | .cancelled => throw { kind := .cancelled }

def decoded (b : FixtureBlock) : Except String (Block × Bytes) := do
  let raw ← b.bytes.mapError Hex.Fault.message
  let block ← (Block.decode raw).mapError Rlp.Fault.message
  return (block, raw)

/-- Offers a block to the target. The rule set of the outcome is the one at the time of the
block, or that of the network if the block cannot be decoded. -/
def offer (terms : Terms) (f : Fixture) (target : Nat → BlockTarget σ) (index : Nat)
    (b : FixtureBlock) : BlockStep σ (BlockOutcome × Fork) := do
  match decoded b with
  | .error text => return (.undecodable text, f.network)
  | .ok (block, raw) =>
    let fork := f.network.atTime block.header.timestamp.saturated
    match ← guarded terms fun now => (target now).apply block raw with
    | .done (.ok outcome) => return (outcome, fork)
    | .done (.error e) =>
      throw { kind := .clientFault, block := some index, message := some e.message }
    | .timedOut => return (.timedOut, fork)
    | .cancelled => throw { kind := .cancelled, block := some index }

/-- Judges what became of a block: the tip if it was accepted, none if it was refused as
expected. -/
def judgeOutcome (terms : Terms) (index : Nat) (expected : Option ExceptionSet)
    (fork : Fork) : BlockOutcome → Except Failure (Option Tip)
  | .accepted head stateRoot =>
    match expected with
    | some set =>
      .error { kind := .unexpectedAcceptance, block := some index, expected := some set }
    | none => .ok (some ⟨head, stateRoot⟩)
  | .rejected message tag =>
    let c := match tag with
      | some t => .mapped t
      | none => terms.classify message fork
    (terms.judgeRejection index expected message c).map fun _ => none
  | .undecodable text =>
    if expected.any terms.policy.admitsDecodeFailure then .ok none
    else .error {
      kind := .decodeError expected, block := some index, message := some text }
  | .timedOut => .error { kind := .timeout, block := some index }

/-- Extends the chain by blocks, of which the first has the given index, until they are
used up or one is refused as expected. -/
def extend (terms : Terms) (f : Fixture) (target : Nat → BlockTarget σ) :
    Nat → List FixtureBlock → Tip → BlockStep σ Tip
  | _, [], tip => return tip
  | index, b :: rest, tip => do
    enter (.extending tip index)
    if isCancelled terms.cancelAt (← get).moment.now then
      throw { kind := .cancelled, block := some index }
    let (outcome, fork) ← offer terms f target index b
    match ← judgeOutcome terms index b.expected fork outcome with
    | some next => extend terms f target (index + 1) rest next
    | none => return tip

def checkState (terms : Terms) (target : Nat → BlockTarget σ) (expected : Alloc) :
    BlockStep σ Unit := do
  match ← guarded terms fun now => (target now).readState expected with
  | .done (.ok observed) => judgeState expected observed
  | .done (.error e) => throw { kind := .clientFault, message := some e.message }
  | .timedOut => throw { kind := .timeout }
  | .cancelled => throw { kind := .cancelled }

def checkPost (terms : Terms) (f : Fixture) (pre : Alloc) (target : Nat → BlockTarget σ)
    (stateRoot : Hash) : BlockStep σ Unit :=
  match f.expectedPost? with
  | none => throw {
      kind := .fixtureConstruction, message := some Malformation.noPostState.display }
  | some (.full s) => checkState terms target s
  | some (.diff d) => checkState terms target (d.apply pre)
  | some (.root r) => liftM (judgeRoot r stateRoot)

def steps (terms : Terms) (f : Fixture) (pre : Alloc) (target : Nat → BlockTarget σ)
    (resumed : Option Genesis) : BlockStep σ Unit := do
  let genesis ← establish terms f pre target resumed
  enter (.genesisVerified genesis)
  let tip ← extend terms f target 0 f.blocks genesis
  judgeHead f.expectedHead tip.head
  checkPost terms f pre target tip.stateRoot

/-- Runs a fixture of blocks from the given moment, from the state `pre`. If the target
holds the genesis block already it is moved back there instead of being started anew. The
target may be another one at another time on the clock, so that it can note the time. -/
def run (terms : Terms) (f : Fixture) (pre : Alloc) (target : Nat → BlockTarget σ)
    (resumed : Option Genesis) (m : Moment σ) : Verdict × BlockRun σ :=
  let (end?, final) := (steps terms f pre target resumed).run.run (initial m)
  let verdict := Verdict.ofRun end?
  (verdict, { final with phases := .finished verdict :: final.phases })

end BlockRun

end ChainConformance
