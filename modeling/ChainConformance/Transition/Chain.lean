import ChainConformance.OrderedMap
import ChainConformance.Target.Blocks
import ChainConformance.Transition.Tool

/-!
# Chains that a transition tool computes

A target that keeps the states after all blocks that it has imported, and that has a
transition tool execute each new block on the state of its parent. What the tool reports is
compared with the header of the block.
-/

namespace ChainConformance

/-- A block that is held, with the state after it. -/
structure StoredBlock where
  header : Header
  alloc : Alloc
  deriving DecidableEq

/-- The blocks that are held, by their hashes, the hash of the last one, and the network. -/
structure TransitionChain where
  fork : Fork := .frontier
  blocks : OrderedMap Hash StoredBlock := .empty
  head : Hash := .zero

namespace TransitionChain

/-- How many ancestors a block may ask the hashes of. -/
def ancestorWindow : Nat := 256

/-- The hashes of at most `count` blocks by their numbers, from the block with the given
hash back to one that is not held or to number zero. -/
def ancestorsFrom (blocks : OrderedMap Hash StoredBlock) :
    Nat → Hash → OrderedMap Word Hash → OrderedMap Word Hash
  | 0, _, found => found
  | count + 1, hash, found =>
    match blocks.get? hash with
    | none => found
    | some b =>
      let found := found.insert b.header.number hash
      if b.header.number = 0 then found
      else ancestorsFrom blocks count b.header.parentHash found

/-- The hashes of the ancestors that a child of the given block may ask for. -/
def ancestors (c : TransitionChain) (parent : Hash) : OrderedMap Word Hash :=
  ancestorsFrom c.blocks ancestorWindow parent .empty

def uncleDepth (header uncle : Header) : Nat := header.number64.toNat - uncle.number64.toNat

open Json in
/-- The environment of a block under the rules of a fork. Fields that the block does not
have are left out. -/
def environment (c : TransitionChain) (b : Block) (parent : Header) (fork : Fork) : Json :=
  let h := b.header
  let uncle (u : Header) : Json :=
    object [("delta", integer (uncleDepth h u)), ("address", ofFixed u.coinbase)]
  objectOf [
    ("currentCoinbase", some (ofFixed h.coinbase)),
    ("currentGasLimit", some (ofWord h.gasLimit)),
    ("currentNumber", some (ofWord h.number)),
    ("currentTimestamp", some (ofWord h.timestamp)),
    ("currentDifficulty", some (ofWord h.difficulty)),
    ("currentBaseFee", h.baseFee.map ofWord),
    ("currentExcessBlobGas", h.excessBlobGas.map ofWord),
    ("parentBeaconBlockRoot", h.parentBeaconRoot.map ofFixed),
    ("blockHashes", some (ofMap Word.toDecimal ofFixed (c.ancestors h.parentHash))),
    ("ommers", some (ofList uncle b.uncles)),
    ("withdrawals", b.withdrawals.map (ofList Withdrawal.toJson)),
    ("currentRandom", if fork.isPostMerge then some (ofFixed h.mixHash) else none),
    ("parentTimestamp", some (ofWord parent.timestamp)),
    ("parentDifficulty", some (ofWord parent.difficulty)),
    ("parentUncleHash", some (ofFixed parent.unclesHash))]

def rejection (message : String) : BlockOutcome := .rejected message none

def parentFor (c : TransitionChain) (h : Header) : Except BlockOutcome StoredBlock :=
  match c.blocks.get? h.parentHash with
  | none => .error (.rejected ("unknown ancestor " ++ h.parentHash.toHex)
      (some (.block .unknownParent)))
  | some parent =>
    if h.number ≠ parent.header.number + 1 then
      .error (rejection ("invalid block number: parent " ++
        parent.header.number.toDecimal ++ " child " ++ h.number.toDecimal))
    else if h.timestamp ≤ parent.header.timestamp then
      .error (rejection ("timestamp older than parent: parent " ++
        parent.header.timestamp.toDecimal ++ " child " ++ h.timestamp.toDecimal))
    else .ok parent

def disagreement (what remote here : String) : BlockOutcome :=
  rejection ("invalid " ++ what ++ " (remote: " ++ remote ++ " local: " ++ here ++ ")")

/-- Why a block is rejected after its execution, if it is. -/
def refusal? (h : Header) (r : TransitionResult) : Option BlockOutcome :=
  match r.rejected with
  | tx :: _ => some (rejection tx.error)
  | [] =>
    -- A tool reports no more than 64 bits, whatever the header says.
    if r.gasUsed ≠ h.gasUsed.saturated then
      some (disagreement "gas used" h.gasUsed.toDecimal (toString r.gasUsed.toNat))
    else if r.receiptsRoot ≠ h.receiptsRoot then
      some (disagreement "receipt root hash" h.receiptsRoot.toHex r.receiptsRoot.toHex)
    else if r.stateRoot ≠ h.stateRoot then
      some (disagreement "merkle root" h.stateRoot.toHex r.stateRoot.toHex)
    else none

/-- What the tool is given for a block, and under which rules. -/
def task (c : TransitionChain) (chainId : Word) (b : Block) (parent : StoredBlock) :
    TransitionInput × TransitionOptions :=
  let fork := c.fork.atTime b.header.timestamp.saturated
  (⟨parent.alloc, c.environment b parent.header fork,
      Transition.encodeTransactions b.transactions⟩,
    ⟨fork, chainId, Transition.reward? fork⟩)

def extended (c : TransitionChain) (b : Block) (alloc : Alloc) : TransitionChain :=
  { c with blocks := c.blocks.insert b.hash ⟨b.header, alloc⟩, head := b.hash }

/-- Judges what the tool gives for a block, and takes the block over if nothing is wrong
with it. A tool that fails rejects the block. -/
def conclude (b : Block) (output : FaultOr TransitionOutput) (c : TransitionChain) :
    FaultOr BlockOutcome × TransitionChain :=
  match output with
  | .error (.tool _ _ stderr) => (.ok (rejection stderr), c)
  | .error e => (.error e, c)
  | .ok output =>
    match refusal? b.header output.result with
    | some outcome => (.ok outcome, c)
    | none => (.ok (.accepted b.head b.header.stateRoot), c.extended b output.alloc)

def ofGenesis (fork : Fork) (pre : Alloc) (genesis : Header) : TransitionChain where
  fork := fork
  blocks := OrderedMap.ofList [(genesis.hash, ⟨genesis, pre⟩)]
  head := genesis.hash

def readState (c : TransitionChain) : FaultOr Alloc :=
  match c.blocks.get? c.head with
  | some b => .ok b.alloc
  | none => .error (.other "no state imported yet")

def resetTo (hash : Hash) (c : TransitionChain) : FaultOr Unit × TransitionChain :=
  if c.blocks.contains hash then (.ok (), { c with head := hash })
  else (.error (.other ("unknown block " ++ hash.toHex)), c)

variable {ω : Type}

def revise {α : Type} (f : TransitionChain → α × TransitionChain) :
    Call (TransitionChain × ω) α := .instantly fun (c, w) =>
  let (a, next) := f c
  (a, next, w)

def start (tool : TransitionTool ω) (chainId : Word) (fork : Fork) (pre : Alloc)
    (genesis : Header) : Call (TransitionChain × ω) (FaultOr Genesis) := do
  match ← (Transition.stateRoot tool pre chainId).onSecond with
  | .error e => return .error e
  | .ok stateRoot =>
    revise fun _ => (.ok ⟨stateRoot, genesis.hash⟩, ofGenesis fork pre genesis)

def apply (tool : TransitionTool ω) (chainId : Word) (b : Block) :
    Call (TransitionChain × ω) (FaultOr BlockOutcome) := do
  let c := (← Call.look).1
  match c.parentFor b.header with
  | .error outcome => return .ok outcome
  | .ok parent =>
    let (input, options) := c.task chainId b parent
    let output ← (tool input options).onSecond
    revise (conclude b output)

def target (tool : TransitionTool ω) (chainId : Word) :
    BlockTarget (TransitionChain × ω) where
  start := start tool chainId
  apply b _ := apply tool chainId b
  readState _ := revise fun c => (c.readState, c)
  resetTo hash := revise (resetTo hash)

end TransitionChain

end ChainConformance
