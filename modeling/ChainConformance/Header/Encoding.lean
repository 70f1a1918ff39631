import ChainConformance.Digest.Keccak
import ChainConformance.Header
import ChainConformance.Rlp

/-!
# The encoding of headers

A header is a list of its fields. The optional fields that are present follow the others in
their order, and reading gives the items after the fifteenth to the optional fields one
after another.
-/

namespace ChainConformance.Header

open Rlp

def encodeFields (h : Header) : Bytes :=
  encodeFixed h.parentHash ++ encodeFixed h.unclesHash ++ encodeFixed h.coinbase ++
    encodeFixed h.stateRoot ++ encodeFixed h.transactionsRoot ++
    encodeFixed h.receiptsRoot ++ encodeFixed h.bloom ++ encodeWord h.difficulty ++
    encodeWord h.number ++ encodeWord h.gasLimit ++ encodeWord h.gasUsed ++
    encodeWord h.timestamp ++ encodeString h.extraData ++ encodeFixed h.mixHash ++
    encodeFixed h.nonce ++
    (h.baseFee.map encodeWord).getD [] ++ (h.withdrawalsRoot.map encodeFixed).getD [] ++
    (h.blobGasUsed.map encodeWord).getD [] ++ (h.excessBlobGas.map encodeWord).getD [] ++
    (h.parentBeaconRoot.map encodeFixed).getD [] ++
    (h.requestsHash.map encodeFixed).getD []

def encode (h : Header) : Bytes := encodeList (encodeFields h)

def lengthOfWord (w : Word) : Nat := lengthOfNatural w.toNat

def lengthOfFixed {n : Nat} (a : FixedBytes n) : Nat := lengthOfString a.bytes

def payloadLength (h : Header) : Nat :=
  lengthOfFixed h.parentHash + lengthOfFixed h.unclesHash + lengthOfFixed h.coinbase +
    lengthOfFixed h.stateRoot + lengthOfFixed h.transactionsRoot +
    lengthOfFixed h.receiptsRoot + lengthOfFixed h.bloom + lengthOfWord h.difficulty +
    lengthOfWord h.number + lengthOfWord h.gasLimit + lengthOfWord h.gasUsed +
    lengthOfWord h.timestamp + lengthOfString h.extraData + lengthOfFixed h.mixHash +
    lengthOfFixed h.nonce +
    (h.baseFee.map lengthOfWord).getD 0 + (h.withdrawalsRoot.map lengthOfFixed).getD 0 +
    (h.blobGasUsed.map lengthOfWord).getD 0 + (h.excessBlobGas.map lengthOfWord).getD 0 +
    (h.parentBeaconRoot.map lengthOfFixed).getD 0 +
    (h.requestsHash.map lengthOfFixed).getD 0

def length (h : Header) : Nat := payloadLength h + lengthOfLead (payloadLength h)

def hash (h : Header) : Hash := keccak256 h.encode

/-- A field that is there unless nothing is left. -/
def decodeOptional {α : Type} (item : Bytes → Except Fault (α × Bytes)) (bs : Bytes) :
    Except Fault (Option α × Bytes) :=
  if bs.isEmpty then .ok (none, bs)
  else do
    let (a, rest) ← item bs
    return (some a, rest)

def decodeFields (bs : Bytes) : Except Fault (Header × Bytes) := do
  let (parentHash, bs) ← decodeFixed bs
  let (unclesHash, bs) ← decodeFixed bs
  let (coinbase, bs) ← decodeFixed bs
  let (stateRoot, bs) ← decodeFixed bs
  let (transactionsRoot, bs) ← decodeFixed bs
  let (receiptsRoot, bs) ← decodeFixed bs
  let (bloom, bs) ← decodeFixed bs
  let (difficulty, bs) ← decodeWord bs
  let (number, bs) ← decodeWord bs
  let (gasLimit, bs) ← decodeWord bs
  let (gasUsed, bs) ← decodeWord bs
  let (timestamp, bs) ← decodeWord bs
  let (extraData, bs) ← decodeString bs
  let (mixHash, bs) ← decodeFixed bs
  let (nonce, bs) ← decodeFixed bs
  let (baseFee, bs) ← decodeOptional decodeWord bs
  let (withdrawalsRoot, bs) ← decodeOptional decodeFixed bs
  let (blobGasUsed, bs) ← decodeOptional decodeWord bs
  let (excessBlobGas, bs) ← decodeOptional decodeWord bs
  let (parentBeaconRoot, bs) ← decodeOptional decodeFixed bs
  let (requestsHash, bs) ← decodeOptional decodeFixed bs
  return ({
    parentHash, unclesHash, coinbase, stateRoot, transactionsRoot, receiptsRoot, bloom,
    difficulty, number, gasLimit, gasUsed, timestamp, extraData, mixHash, nonce, baseFee,
    withdrawalsRoot, blobGasUsed, excessBlobGas, parentBeaconRoot, requestsHash,
    statedHash := none }, bs)

/-- Reads a header. Its fields must use up the payload of the list. -/
def decode (bs : Bytes) : Except Fault (Header × Bytes) := do
  let (payload, rest) ← decodeListPayload bs
  let (h, left) ← decodeFields payload
  if left.isEmpty then return (h, rest)
  else .error (.listLength payload.length (payload.length - left.length))

end ChainConformance.Header
