import ChainConformance.Fixture
import ChainConformance.Sample.Chain

/-!
# Sample fixtures

Small fixtures of any length, of blocks or of payloads, for trying out targets.
-/

namespace ChainConformance.Sample

/-- The state that the samples start from: an account with some ether, and a contract with
one slot. -/
def pre : Alloc := OrderedMap.ofList [
  (.replicate 0xa9, {
    balance := 1_000_000_000_000_000_000, code := [], nonce := 0, storage := .empty }),
  (.replicate 0xcc, {
    balance := 1, code := [0x60, 0x00, 0x60, 0x00, 0x55, 0x00], nonce := 1
    storage := OrderedMap.ofList [(1, 0xff)] })]

def genesis : Header :=
  { (default : Header) with
    coinbase := .replicate 0x2a
    stateRoot := sampleStateRoot
    gasLimit := 30000000
    baseFee := some 7
    withdrawalsRoot := some .zero
    blobGasUsed := some 0
    excessBlobGas := some 0
    parentBeaconRoot := some .zero }

def bare : Fixture where
  network := .cancun
  genesis := genesis
  genesisRlp := none
  pre := some pre
  preHash := none
  blocks := []
  payloads := []
  forkchoiceVersion := none
  lastBlockHash := genesis.hash
  postState := some pre
  postStateHash := none
  postStateDiff := none
  config := none
  sealEngine := none

/-- The encoding of a block that is empty but for its header. -/
def encodeBlock (h : Header) : Bytes := Rlp.encodeList (h.encode ++ [0xc0, 0xc0, 0xc0])

def block (h : Header) (expected : Option ExceptionSet) : FixtureBlock where
  rlp := Hex.encode (encodeBlock h)
  header := some { h with statedHash := some h.hash }
  uncles := none
  withdrawals := none
  expected := expected

def child (parent : Header) : Header :=
  { parent with
    parentHash := parent.hash, number := parent.number + 1
    timestamp := parent.timestamp + 12 }

/-- Blocks on top of a parent, and the header of the last one that is valid. If an exception
is given the last block uses more gas than its limit and is expected to fail with it. -/
def blocksFrom (exception : Option ExceptionSet) :
    Nat → Header → List FixtureBlock × Header
  | 0, parent => ([], parent)
  | 1, parent =>
    let h := child parent
    match exception with
    | some set => ([block { h with gasUsed := h.gasLimit + 1 } (some set)], parent)
    | none => ([block h none], h)
  | count + 2, parent =>
    let h := child parent
    let (rest, last) := blocksFrom exception (count + 1) h
    (block h none :: rest, last)

def blockFixture (count : Nat) (exception : Option ExceptionSet) : Fixture :=
  let (blocks, last) := blocksFrom exception count genesis
  { bare with blocks := blocks, lastBlockHash := last.hash }

def payloadHash (index : Nat) : Hash :=
  let digits := toBigEndian index
  keccak256 (List.replicate (8 - digits.length) 0 ++ digits)

def payload (parent hash : Hash) (number : Nat) (expected : Option ExceptionSet) :
    PayloadEntry where
  payload := { (default : ExecutionPayload) with
    parentHash := parent
    feeRecipient := .replicate 0x2a
    stateRoot := sampleStateRoot
    number := UInt64.ofNat number
    gasLimit := 30000000
    timestamp := UInt64.ofNat (12 * number)
    baseFee := 7
    blockHash := hash
    withdrawals := some []
    blobGasUsed := some 0
    excessBlobGas := some 0 }
  version := 3
  blobVersionedHashes := some []
  parentBeaconRoot := some .zero
  executionRequests := none
  validationError := expected
  errorCode := none
  forkchoiceVersion := none

/-- Payloads of which the first has the given index, on top of a parent, and the hash of the
last one that is valid. The one with the index of `invalid` is expected to fail, and the
next is built on the one before it. -/
def payloadsFrom (invalid : Option (Nat × ExceptionSet)) :
    Nat → Nat → Hash → Nat → List PayloadEntry × Hash
  | 0, _, parent, _ => ([], parent)
  | count + 1, index, parent, number =>
    let hash := payloadHash index
    match (invalid.filter fun i => i.1 = index).map (·.2) with
    | some set =>
      let (rest, last) := payloadsFrom invalid count (index + 1) parent number
      (payload parent hash number (some set) :: rest, last)
    | none =>
      let (rest, last) := payloadsFrom invalid count (index + 1) hash (number + 1)
      (payload parent hash number none :: rest, last)

def payloadFixture (count : Nat) (invalid : Option (Nat × ExceptionSet)) : Fixture :=
  let (payloads, last) := payloadsFrom invalid count 0 genesis.hash 1
  { bare with payloads := payloads, lastBlockHash := last }

open Json in
def blockToJson (b : FixtureBlock) : Json :=
  objectOf [
    ("rlp", some (.text b.rlp)),
    ("blockHeader", some (ofOption Header.toJson b.header)),
    ("expectException", b.expected.map fun set => .text set.display)]

open Json in
def toJson (f : Fixture) : Json :=
  object [
    ("network", .text f.network.name),
    ("genesisBlockHeader", f.genesis.toJson),
    ("pre", ofOption Alloc.toJson f.pre),
    ("blocks", ofList blockToJson f.blocks),
    ("lastblockhash", ofFixed f.lastBlockHash),
    ("postState", ofOption Alloc.toJson f.postState)]

end ChainConformance.Sample
