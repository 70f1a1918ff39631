import ChainConformance.Target.Blocks

/-!
# A sample chain of blocks

A target in memory that accepts every block whose parent it holds. What a block changes in
the state is given beforehand, by the hash of the block.
-/

namespace ChainConformance

def sampleStateRoot : Hash := .replicate 0x11

def Alloc.overlaid (base : Alloc) (upper : Option Alloc) : Alloc :=
  ((upper.map (·.entries)).getD []).foldl (fun s e => s.insert e.1 e.2) base

/-- A chain in memory: how many blocks it was given and how often it was started, how long
it takes over a block, with what it rejects blocks that use more gas than their limit, the
fault with which it answers every block, the changes that blocks make, the states after the
blocks that it holds, and its head. -/
structure SampleChain where
  applied : Nat := 0
  starts : Nat := 0
  delay : Option Nat := none
  rejection : Option (String × Option ExceptionTag) := none
  fault : Option String := none
  changes : OrderedMap Hash Alloc := .empty
  known : OrderedMap Hash Alloc := .empty
  head : Hash := .zero

namespace SampleChain

def start (pre : Alloc) (genesis : Header) (c : SampleChain) :
    FaultOr Genesis × SampleChain :=
  let hash := genesis.hash
  (.ok ⟨sampleStateRoot, hash⟩, { c with
    starts := c.starts + 1, known := OrderedMap.ofList [(hash, pre)], head := hash })

/-- Whether a block is rejected, and with what. -/
def rejection? (c : SampleChain) (b : Block) : Option BlockOutcome :=
  c.rejection.bind fun (message, tag) =>
    if b.header.gasLimit < b.header.gasUsed then some (.rejected message tag) else none

def apply (b : Block) (c : SampleChain) : FaultOr BlockOutcome × SampleChain :=
  match c.fault, c.known.get? b.parentHash with
  | some text, _ => (.error (.other text), c)
  | none, none => (.ok (.rejected "unknown ancestor" none), c)
  | none, some parent =>
    match c.rejection? b with
    | some outcome => (.ok outcome, c)
    | none =>
      (.ok (.accepted b.head b.header.stateRoot), { c with
        known := c.known.insert b.hash (parent.overlaid (c.changes.get? b.hash))
        head := b.hash })

def readState (c : SampleChain) : FaultOr Alloc :=
  match c.known.get? c.head with
  | some s => .ok s
  | none => .error (.other "no genesis")

def resetTo (hash : Hash) (c : SampleChain) : FaultOr Unit × SampleChain :=
  if c.known.contains hash then (.ok (), { c with head := hash })
  else (.error (.other ("unknown block " ++ hash.toHex)), c)

/-- The chain as a target. A block counts as given before the time that it takes. -/
def target : BlockTarget SampleChain where
  start _ pre genesis := .instantly (start pre genesis)
  apply b _ := do
    Call.change fun c => { c with applied := c.applied + 1 }
    Call.wait ((← Call.look).delay.getD 0)
    Call.instantly (apply b)
  readState _ := .instantly fun c => (c.readState, c)
  resetTo hash := .instantly (resetTo hash)

end SampleChain

end ChainConformance
