import ChainConformance.Fixture
import ChainConformance.Json.Printer
import ChainConformance.Path

/-!
# Groups

Fixtures that start from the same state under the same rules form a group. A group is known
by the digest of what its members share, so that slots that hold zero make no difference,
and is kept in a file named for the digest.
-/

namespace ChainConformance

/-- What the blocks of a group start from beside the state. -/
structure Environment where
  coinbase : Address
  gasLimit : Word
  number : Word
  timestamp : Word
  difficulty : Word
  random : Option Hash
  baseFee : Option Word
  excessBlobGas : Option Word
  blobGasUsed : Option Word
  parentBeaconRoot : Option Hash
  extraData : Bytes
  deriving DecidableEq

namespace Environment

def ofHeader (h : Header) : Environment where
  coinbase := h.coinbase
  gasLimit := h.gasLimit
  number := h.number
  timestamp := h.timestamp
  difficulty := h.difficulty
  random := some h.mixHash
  baseFee := h.baseFee
  excessBlobGas := h.excessBlobGas
  blobGasUsed := h.blobGasUsed
  parentBeaconRoot := h.parentBeaconRoot
  extraData := h.extraData

open Json FieldReader in
def ofJson (j : Json) : Json.Read Environment :=
  readRecord (mk <$> required "currentCoinbase" readFixed
    <*> required "currentGasLimit" readWord
    <*> required "currentNumber" readWord
    <*> required "currentTimestamp" readWord
    <*> defaulted "currentDifficulty" 0 readWord
    <*> optional "currentRandom" readFixed
    <*> optional "currentBaseFee" readWord
    <*> optional "currentExcessBlobGas" readWord
    <*> optional "currentBlobGasUsed" readWord
    <*> optional "parentBeaconBlockRoot" readFixed
    <*> defaulted "extraData" [] readBytes) j

open Json in
def toJson (e : Environment) : Json :=
  objectOf [
    ("currentCoinbase", some (ofFixed e.coinbase)),
    ("currentGasLimit", some (ofWord e.gasLimit)),
    ("currentNumber", some (ofWord e.number)),
    ("currentTimestamp", some (ofWord e.timestamp)),
    ("currentDifficulty", some (ofWord e.difficulty)),
    ("currentRandom", e.random.map ofFixed),
    ("currentBaseFee", e.baseFee.map ofWord),
    ("currentExcessBlobGas", e.excessBlobGas.map ofWord),
    ("currentBlobGasUsed", e.blobGasUsed.map ofWord),
    ("parentBeaconBlockRoot", e.parentBeaconRoot.map ofFixed),
    ("extraData", some (ofBytes e.extraData))]

end Environment

def groupDocument (network : Fork) (environment : Environment) (pre : Alloc) : Json :=
  .object [
    ("network", .text network.name),
    ("environment", environment.toJson),
    ("pre", pre.normalized.toJson)]

def groupKey (network : Fork) (environment : Environment) (pre : Alloc) : Hash :=
  keccak256 (bytesOfText (groupDocument network environment pre).toCompact)

/-- What the members of a group share, and which they are. -/
structure Group where
  pre : Alloc
  environment : Environment
  network : Fork
  testIds : List String
  testCount : Nat
  deriving DecidableEq

namespace Group

def key (g : Group) : Hash := groupKey g.network g.environment g.pre

open Json FieldReader in
def ofJson (j : Json) : Json.Read Group :=
  readRecord (mk <$> required "pre" Alloc.ofJson
    <*> required "environment" Environment.ofJson
    <*> required "network" Fork.ofJson
    <*> defaulted "testIds" [] (readList readText)
    <*> defaulted "test_count" 0 readNatural) j

def toJson (g : Group) : Json :=
  .object [
    ("pre", g.pre.toJson),
    ("environment", g.environment.toJson),
    ("network", .text g.network.name),
    ("testIds", .array (g.testIds.map .text)),
    ("test_count", .integer g.testCount)]

def directory : String := "pre_alloc"

def path (fixtures : String) (hash : Hash) : String :=
  Path.join (Path.join fixtures directory) (hash.toHex ++ ".json")

def ofText (path content : String) : Except FixtureFault Group :=
  (Json.readDocument ofJson content).mapError fun e => .unreadable path (.json e)

def load (files : Files) (fixtures : String) (hash : Hash) : Except FixtureFault Group := do
  ofText (path fixtures hash) (← files.load (path fixtures hash))

def addMember (g : Group) (id : String) : Group :=
  { g with testIds := g.testIds ++ [id], testCount := g.testCount + 1 }

/-- The groups with one more fixture, which joins none if it has no state of its own. -/
def join (groups : OrderedMap Hash Group) (id : String) (f : Fixture) :
    OrderedMap Hash Group :=
  match f.pre with
  | none => groups
  | some pre =>
    let environment := Environment.ofHeader f.genesis
    let key := groupKey f.network environment pre
    let group := (groups.get? key).getD ⟨pre, environment, f.network, [], 0⟩
    groups.insert key (group.addMember id)

def ofFixtures (fixtures : List (String × Fixture)) : OrderedMap Hash Group :=
  fixtures.foldl (fun groups f => join groups f.1 f.2) .empty

end Group

end ChainConformance
