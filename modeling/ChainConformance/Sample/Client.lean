import ChainConformance.Sample.Chain
import ChainConformance.Fixture
import ChainConformance.Target.Launcher

/-!
# A sample client

A client in memory that accepts every payload whose parent it holds, and a launcher of such
clients. What a payload changes in the state is given beforehand, by the hash of its block;
state is read at the head, so that moving the head back takes changes back.
-/

namespace ChainConformance

/-- A block that a sample client holds. -/
structure SampleBlock where
  summary : BlockSummary
  parent : Hash
  alloc : Alloc

/-- A client in memory: its head, the payloads that it finds invalid and those that it
answers with an error, how many more payloads it answers before it works on them, how many
it was given, whether it refuses to go back to genesis, the changes that payloads make, and
the blocks that it holds. -/
structure SampleClient where
  head : ChainHead
  genesis : Hash
  blocks : OrderedMap Hash SampleBlock
  invalid : OrderedMap Hash String := .empty
  rpcErrors : OrderedMap Hash (Int × String) := .empty
  syncingRounds : Nat := 0
  payloadCalls : Nat := 0
  refusesReset : Bool := false
  changes : OrderedMap Hash Alloc := .empty

namespace SampleClient

def ofGenesis (genesis : Header) (pre : Alloc) : SampleClient :=
  let hash := genesis.hash
  { head := ⟨hash, genesis.number64⟩
    genesis := hash
    blocks := OrderedMap.ofList
      [(hash, ⟨⟨hash, genesis.number64, genesis.stateRoot⟩, .zero, pre⟩)] }

/-- A client that holds the genesis block of a fixture, without a state if the fixture has
none of its own. -/
def ofFixture (f : Fixture) : SampleClient := ofGenesis f.genesis (f.pre.getD .empty)

def newPayload (e : PayloadEntry) (c : SampleClient) : FaultOr PayloadStatus × SampleClient :=
  let c := { c with payloadCalls := c.payloadCalls + 1 }
  let hash := e.blockHash
  match c.rpcErrors.get? hash with
  | some (code, message) => (.error (.rpc code message), c)
  | none =>
    if 0 < c.syncingRounds then
      (.ok { verdict := .syncing }, { c with syncingRounds := c.syncingRounds - 1 })
    else match c.invalid.get? hash, c.blocks.get? e.payload.parentHash with
      | some message, _ => (.ok { verdict := .invalid, validationError := some message }, c)
      | none, none => (.ok { verdict := .syncing }, c)
      | none, some parent =>
        let block : SampleBlock := {
          summary := ⟨hash, e.payload.number, e.payload.stateRoot⟩
          parent := e.payload.parentHash
          alloc := parent.alloc.overlaid (c.changes.get? hash) }
        (.ok { verdict := .valid }, { c with blocks := c.blocks.insert hash block })

def moveHead (hash : Hash) (c : SampleClient) : FaultOr PayloadStatus × SampleClient :=
  if hash = c.genesis ∧ c.refusesReset then (.ok { verdict := .invalid }, c)
  else match c.blocks.get? hash with
    | none => (.ok { verdict := .syncing }, c)
    | some b => (.ok { verdict := .valid }, { c with head := b.summary.head })

/-- The block with the given number among `fuel` blocks from the one with the given hash
back. -/
def ancestor (c : SampleClient) (n : UInt64) : Nat → Hash → Option BlockSummary
  | 0, _ => none
  | fuel + 1, hash =>
    match c.blocks.get? hash with
    | none => none
    | some b => if b.summary.number = n then some b.summary else ancestor c n fuel b.parent

def block (c : SampleClient) : BlockChoice → Option BlockSummary
  | .latest => (c.blocks.get? c.head.hash).map (·.summary)
  | .number n => c.ancestor n c.blocks.size c.head.hash

def account (address : Address) (keys : List Word) (c : SampleClient) :
    FaultOr (Option Account) :=
  match c.blocks.get? c.head.hash with
  | none => .error (.other "no head block")
  | some b => .ok ((b.alloc.get? address).map fun a =>
      { a with storage := OrderedMap.ofList (keys.map fun k => (k, a.slot k)) })

end SampleClient

/-- A launcher of sample clients: how many were started and stopped and how often they were
set back, whether they refuse to be, how many can be started, and the changes that payloads
make. -/
structure SampleLauncher where
  started : Nat := 0
  stopped : Nat := 0
  resets : Nat := 0
  refusesReset : Bool := false
  maxStarts : Option Nat := none
  changes : OrderedMap Hash Alloc := .empty

namespace SampleLauncher

/-- Starts a client, and counts it even if there can be no more. -/
def start (spec : ClientSpec) (l : SampleLauncher) :
    FaultOr SampleClient × SampleLauncher :=
  let next := { l with started := l.started + 1 }
  if l.maxStarts.any (· ≤ l.started) then (.error (.other "no more clients"), next)
  else (.ok { SampleClient.ofGenesis spec.genesis spec.pre with
    refusesReset := l.refusesReset, changes := l.changes }, next)

/-- Counts a choice of the genesis block as head. -/
def countReset (hash genesis : Hash) (l : SampleLauncher) : SampleLauncher :=
  if hash = genesis then { l with resets := l.resets + 1 } else l

def client : EngineTarget (SampleLauncher × SampleClient) where
  newPayload _ e := .instantly fun (l, c) =>
    let (answer, next) := c.newPayload e
    (answer, l, next)
  chooseHead _ choice := .instantly fun (l, c) =>
    let (answer, next) := c.moveHead choice.head
    (answer, l.countReset choice.head c.genesis, next)
  block choice := .instantly fun (l, c) => (.ok (c.block choice), l, c)
  account address keys := .instantly fun (l, c) => (c.account address keys, l, c)

def launcher : Launcher SampleLauncher SampleClient where
  start spec := .instantly (start spec)
  stop _ := .instantly fun l => (.ok (), { l with stopped := l.stopped + 1 })
  client := client

end SampleLauncher

end ChainConformance
