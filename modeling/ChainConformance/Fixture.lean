import ChainConformance.Fixture.Fault
import ChainConformance.Payload
import ChainConformance.State.Diff

/-!
# Fixtures

A fixture has a network, a genesis block, a state to start from, a chain of blocks or of
payloads to offer, and the head and state that the chain must end with.
-/

namespace ChainConformance

/-- The chain configuration of a fixture. -/
structure ChainConfig where
  network : Option String
  chainId : Word
  deriving DecidableEq

/-- A block of a fixture. Its encoding is kept as text, since that of an invalid block need
not even be hexadecimal. -/
structure FixtureBlock where
  rlp : String
  header : Option Header
  uncles : Option (List Header)
  withdrawals : Option (List Withdrawal)
  expected : Option ExceptionSet
  deriving DecidableEq

namespace FixtureBlock

open Json FieldReader in
def ofJson (j : Json) : Json.Read FixtureBlock :=
  readRecord (mk <$> required "rlp" readText
    <*> optional "blockHeader" Header.ofJson
    <* optional "transactions" (readList (readAny 5))
    <*> optional "uncleHeaders" (readList Header.ofJson)
    <*> optional "withdrawals" (readList Withdrawal.ofJson)
    <*> optional "expectException" ExceptionSet.ofJson
    <* optional "rlpDecoded" (readAny 4)) j

def bytes (b : FixtureBlock) : Except Hex.Fault Bytes := Hex.decode (Text.trim b.rlp)

def isValid (b : FixtureBlock) : Bool := b.expected.isNone

end FixtureBlock

/-- What a fixture says of the state at the end. -/
inductive ExpectedPost where
  | full (state : Alloc)
  | diff (changes : AllocDiff)
  | root (stateRoot : Hash)
  deriving DecidableEq

structure Fixture where
  network : Fork
  genesis : Header
  genesisRlp : Option Bytes
  pre : Option Alloc
  preHash : Option Hash
  blocks : List FixtureBlock
  payloads : List PayloadEntry
  forkchoiceVersion : Option UInt8
  lastBlockHash : Hash
  postState : Option Alloc
  postStateHash : Option Hash
  postStateDiff : Option AllocDiff
  config : Option ChainConfig
  sealEngine : Option String
  deriving DecidableEq

namespace Fixture

open Json FieldReader in
def configOfJson (j : Json) : Json.Read ChainConfig :=
  readRecord (ChainConfig.mk <$> optional "network" readText
    <*> defaulted "chainid" 1 readWord
    <* optional "blobSchedule" (readAny 3)) j

def forkchoiceVersionOfJson : Json → Json.Read UInt8
  | .text s =>
    match Text.readInteger .byte 10 (Text.trim s).toList with
    | .ok n => .ok (UInt8.ofNat n.toNat)
    | .error _ => .error .shape
  | j => Json.readByte j

open Json FieldReader in
def ofJson (j : Json) : Json.Read Fixture :=
  readRecord (mk <$> required "network" Fork.ofJson
    <*> required "genesisBlockHeader" Header.ofJson
    <*> optional "genesisRLP" readBytes
    <*> optional "pre" Alloc.ofJson
    <*> optional "preHash" readFixed
    <*> defaulted "blocks" [] (readList FixtureBlock.ofJson)
    <*> defaulted "engineNewPayloads" [] (readList PayloadEntry.ofJson)
    <*> optional "engineFcuVersion" forkchoiceVersionOfJson
    <*> required "lastblockhash" readFixed
    <*> named ["postState", "post"] (some none) (readOption Alloc.ofJson)
    <*> optional "postStateHash" readFixed
    <*> optional "postStateDiff" AllocDiff.ofJson
    <*> optional "config" configOfJson
    <*> optional "sealEngine" readText
    <* optional "_info" (readAny 2)) j

/-- The hash of the genesis block: the one stated, or else the one computed. -/
def genesisHash (f : Fixture) : Hash := f.genesis.statedHash.getD f.genesis.hash

def genesisHead (f : Fixture) : ChainHead := ⟨f.genesisHash, f.genesis.number64⟩

def isEngine (f : Fixture) : Bool := !f.payloads.isEmpty

def validCount (f : Fixture) : Nat :=
  if f.isEngine then f.payloads.countP PayloadEntry.expectsValid
  else f.blocks.countP FixtureBlock.isValid

/-- The number of the last block: that of the payload or the stated header with the last
hash, or else the number that the count of valid blocks makes. -/
def lastNumber (f : Fixture) : UInt64 :=
  let fromPayloads :=
    (f.payloads.find? fun p => p.blockHash = f.lastBlockHash).map (·.payload.number)
  let fromBlocks :=
    ((f.blocks.filterMap (·.header)).find? fun h => h.statedHash = some f.lastBlockHash).map
      Header.number64
  -- Where no header is stated for the last block, it should be the last of the valid ones.
  (fromPayloads <|> fromBlocks).getD (f.genesis.number64 + UInt64.ofNat f.validCount)

def expectedHead (f : Fixture) : ChainHead :=
  if f.lastBlockHash = f.genesisHash then f.genesisHead else ⟨f.lastBlockHash, f.lastNumber⟩

/-- What the fixture says of the state at the end: the whole state rather than changes, and
changes rather than a root. -/
def expectedPost? (f : Fixture) : Option ExpectedPost :=
  match f.postState, f.postStateDiff, f.postStateHash with
  | some s, _, _ => some (.full s)
  | none, some d, _ => some (.diff d)
  | none, none, some r => some (.root r)
  | none, none, none => none

def forkchoiceVersionFor (f : Fixture) (e : PayloadEntry) : Option UInt8 :=
  e.forkchoiceVersion <|> f.forkchoiceVersion <|> (e.fork f.network).forkchoiceVersion?

/-- The place of the first payload that expects both an error code and a rejection. -/
def firstTwoErrors? (f : Fixture) : Option Nat :=
  f.payloads.findIdx? fun p => p.errorCode.isSome && p.validationError.isSome

def malformation? (f : Fixture) : Option Malformation :=
  if f.pre.isNone && f.preHash.isNone then some .noPreState
  else if f.postStateDiff.isSome && f.preHash.isNone then some .diffWithoutGroup
  else if f.isEngine && !f.blocks.isEmpty then some .mixedForms
  else match f.firstTwoErrors? with
    | some index => some (.twoErrors index)
    | none => if f.expectedPost?.isNone then some .noPostState else none

end Fixture

abbrev FixtureFile := OrderedMap String Fixture

namespace FixtureFile

def ofJson : Json → Json.Read FixtureFile := Json.readMap (fun name => .ok name) Fixture.ofJson

/-- The fixtures of the document at a path, whether they keep their rules or not. -/
def ofText (path content : String) : Except FixtureFault FixtureFile :=
  (Json.readDocument ofJson content).mapError fun e => .unreadable path (.json e)

def firstMalformed? (file : FixtureFile) : Option (String × Malformation) :=
  file.entries.findSome? fun e => e.2.malformation?.map (e.1, ·)

def load (files : Files) (path : String) : Except FixtureFault FixtureFile := do
  let file ← ofText path (← files.load path)
  match file.firstMalformed? with
  | some (name, why) => .error (.unreadable path (.fixture name why))
  | none => return file

end FixtureFile

end ChainConformance
