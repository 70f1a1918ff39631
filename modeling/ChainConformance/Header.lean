import ChainConformance.Json.Reading

/-!
# Block headers

A header as fixtures have it: fifteen fields of every block, six that came with later
forks, and the hash that the fixture states for it.
-/

namespace ChainConformance

/-- A block header. The optional fields stand in the order of the forks that brought them.
The stated hash is no part of the encoding. -/
structure Header where
  parentHash : Hash
  unclesHash : Hash
  coinbase : Address
  stateRoot : Hash
  transactionsRoot : Hash
  receiptsRoot : Hash
  bloom : Bloom
  difficulty : Word
  number : Word
  gasLimit : Word
  gasUsed : Word
  timestamp : Word
  extraData : Bytes
  mixHash : Hash
  nonce : SealNonce
  baseFee : Option Word
  withdrawalsRoot : Option Hash
  blobGasUsed : Option Word
  excessBlobGas : Option Word
  parentBeaconRoot : Option Hash
  requestsHash : Option Hash
  statedHash : Option Hash
  deriving DecidableEq, Inhabited

namespace Header

/-- The block number as a 64-bit number, the greatest one if it is larger. -/
def number64 (h : Header) : UInt64 := h.number.saturated

open Json FieldReader in
def fields : FieldReader Header :=
  mk <$> required "parentHash" readFixed
    <*> required "uncleHash" readFixed
    <*> required "coinbase" readFixed
    <*> required "stateRoot" readFixed
    <*> required "transactionsTrie" readFixed
    <*> required "receiptTrie" readFixed
    <*> required "bloom" readFixed
    <*> required "difficulty" readWord
    <*> required "number" readWord
    <*> required "gasLimit" readWord
    <*> required "gasUsed" readWord
    <*> required "timestamp" readWord
    <*> required "extraData" readBytes
    <*> required "mixHash" readFixed
    <*> required "nonce" readFixed
    <*> optional "baseFeePerGas" readWord
    <*> optional "withdrawalsRoot" readFixed
    <*> optional "blobGasUsed" readWord
    <*> optional "excessBlobGas" readWord
    <*> optional "parentBeaconBlockRoot" readFixed
    <*> optional "requestsHash" readFixed
    <*> optional "hash" readFixed

def ofJson (j : Json) : Json.Read Header := Json.readRecord fields j

open Json in
def toJson (h : Header) : Json :=
  objectOf [
    ("parentHash", some (ofFixed h.parentHash)),
    ("uncleHash", some (ofFixed h.unclesHash)),
    ("coinbase", some (ofFixed h.coinbase)),
    ("stateRoot", some (ofFixed h.stateRoot)),
    ("transactionsTrie", some (ofFixed h.transactionsRoot)),
    ("receiptTrie", some (ofFixed h.receiptsRoot)),
    ("bloom", some (ofFixed h.bloom)),
    ("difficulty", some (ofWord h.difficulty)),
    ("number", some (ofWord h.number)),
    ("gasLimit", some (ofWord h.gasLimit)),
    ("gasUsed", some (ofWord h.gasUsed)),
    ("timestamp", some (ofWord h.timestamp)),
    ("extraData", some (ofBytes h.extraData)),
    ("mixHash", some (ofFixed h.mixHash)),
    ("nonce", some (ofFixed h.nonce)),
    ("baseFeePerGas", h.baseFee.map ofWord),
    ("withdrawalsRoot", h.withdrawalsRoot.map ofFixed),
    ("blobGasUsed", h.blobGasUsed.map ofWord),
    ("excessBlobGas", h.excessBlobGas.map ofWord),
    ("parentBeaconBlockRoot", h.parentBeaconRoot.map ofFixed),
    ("requestsHash", h.requestsHash.map ofFixed),
    ("hash", h.statedHash.map ofFixed)]

end Header

end ChainConformance
