import ChainConformance.Block
import ChainConformance.Exception.Set
import ChainConformance.Fork

/-!
# Payloads

The blocks of fixtures that are given to a client over its engine interface, each with the
version of the call that carries it and what is expected of the answer.
-/

namespace ChainConformance

def ExceptionSet.ofJson (j : Json) : Json.Read ExceptionSet := do
  (ExceptionSet.ofText (← Json.readText j)).mapError .unknownException

def Fork.ofJson (j : Json) : Json.Read Fork := do
  .ofOption (Fork.ofName? (← Json.readText j))

/-- Reads an integer of a range: a number, or text that holds one, decimal or
with `0x` in front. -/
def Json.readLooseInteger (range : Text.IntegerRange) (j : Json) : Json.Read Int := do
  let n ← match j with
    | .integer n => if n < (UInt64.size / 2 : Nat) then pure n else throw .shape
    | .text s =>
      let s := Text.trim s
      let read := match s.toList with
        | '0' :: 'x' :: digits => Text.readInteger .signed64 16 digits
        | digits => Text.readInteger .signed64 10 digits
      read.mapError (.badInteger s)
    | _ => throw .shape
  if range.holds n then return n else .error (.outOfRange n)

def Json.readLooseByte (j : Json) : Json.Read UInt8 :=
  (readLooseInteger .byte j).map fun n => UInt8.ofNat n.toNat

/-- A block as the engine interface has it. -/
structure ExecutionPayload where
  parentHash : Hash
  feeRecipient : Address
  stateRoot : Hash
  receiptsRoot : Hash
  logsBloom : Bloom
  prevRandao : Hash
  number : UInt64
  gasLimit : UInt64
  gasUsed : UInt64
  timestamp : UInt64
  extraData : Bytes
  baseFee : Word
  blockHash : Hash
  transactions : List Bytes
  withdrawals : Option (List Withdrawal)
  blobGasUsed : Option UInt64
  excessBlobGas : Option UInt64
  deriving DecidableEq, Inhabited

namespace ExecutionPayload

open Json FieldReader in
def ofJson (j : Json) : Json.Read ExecutionPayload :=
  readRecord (mk <$> required "parentHash" readFixed
    <*> required "feeRecipient" readFixed
    <*> required "stateRoot" readFixed
    <*> required "receiptsRoot" readFixed
    <*> required "logsBloom" readFixed
    <*> required "prevRandao" readFixed
    <*> required "blockNumber" readUInt64
    <*> required "gasLimit" readUInt64
    <*> required "gasUsed" readUInt64
    <*> required "timestamp" readUInt64
    <*> required "extraData" readBytes
    <*> required "baseFeePerGas" readWord
    <*> required "blockHash" readFixed
    <*> required "transactions" (readList readBytes)
    <*> optional "withdrawals" (readList Withdrawal.ofJson)
    <*> optional "blobGasUsed" readUInt64
    <*> optional "excessBlobGas" readUInt64) j

open Json in
def toJson (p : ExecutionPayload) : Json :=
  objectOf [
    ("parentHash", some (ofFixed p.parentHash)),
    ("feeRecipient", some (ofFixed p.feeRecipient)),
    ("stateRoot", some (ofFixed p.stateRoot)),
    ("receiptsRoot", some (ofFixed p.receiptsRoot)),
    ("logsBloom", some (ofFixed p.logsBloom)),
    ("prevRandao", some (ofFixed p.prevRandao)),
    ("blockNumber", some (ofUInt64 p.number)),
    ("gasLimit", some (ofUInt64 p.gasLimit)),
    ("gasUsed", some (ofUInt64 p.gasUsed)),
    ("timestamp", some (ofUInt64 p.timestamp)),
    ("extraData", some (ofBytes p.extraData)),
    ("baseFeePerGas", some (ofWord p.baseFee)),
    ("blockHash", some (ofFixed p.blockHash)),
    ("transactions", some (ofList ofBytes p.transactions)),
    ("withdrawals", p.withdrawals.map (ofList Withdrawal.toJson)),
    ("blobGasUsed", p.blobGasUsed.map ofUInt64),
    ("excessBlobGas", p.excessBlobGas.map ofUInt64)]

end ExecutionPayload

/-- Why the version that a payload states cannot be used. -/
inductive VersionFault where
  | belowFork (stated required : UInt8)
  | belowFields (stated warranted : UInt8)
  | aboveFields (stated warranted : UInt8)
  | preMerge (fork : Fork)
  deriving Repr, DecidableEq

def VersionFault.kind : VersionFault → String
  | belowFork _ _ => "BelowFork"
  | belowFields _ _ => "BelowFields"
  | aboveFields _ _ => "AboveFields"
  | preMerge _ => "PreMerge"

def VersionFault.message : VersionFault → String
  | belowFork stated required =>
    "declared newPayload version " ++ toString stated.toNat ++ " is below V" ++
      toString required.toNat ++ " required by the fork"
  | belowFields stated warranted =>
    "declared newPayload version " ++ toString stated.toNat ++ " is below V" ++
      toString warranted.toNat ++ " required by the payload fields"
  | aboveFields stated warranted =>
    "declared newPayload version " ++ toString stated.toNat ++ " is above V" ++
      toString warranted.toNat ++ " warranted by the payload fields"
  | preMerge fork => "fork " ++ fork.name ++ " has no Engine API"

/-- A payload with the version of its call, the fields that the call has beside it, and
what is expected of the answer. -/
structure PayloadEntry where
  payload : ExecutionPayload
  version : UInt8
  blobVersionedHashes : Option (List Hash)
  parentBeaconRoot : Option Hash
  executionRequests : Option (List Bytes)
  validationError : Option ExceptionSet
  errorCode : Option Int
  forkchoiceVersion : Option UInt8
  deriving DecidableEq

namespace PayloadEntry

open Json FieldReader in
def ofJson (j : Json) : Json.Read PayloadEntry :=
  readRecord (mk <$> required "executionPayload" ExecutionPayload.ofJson
    <*> named ["version", "newPayloadVersion"] none readLooseByte
    <*> optional "blobVersionedHashes" (readList readFixed)
    <*> optional "parentBeaconBlockRoot" readFixed
    <*> optional "executionRequests" (readList readBytes)
    <*> optional "validationError" ExceptionSet.ofJson
    <*> optional "errorCode" (readLooseInteger .signed64)
    <*> optional "forkchoiceUpdatedVersion" readLooseByte) j

def blockHash (e : PayloadEntry) : Hash := e.payload.blockHash

def fork (e : PayloadEntry) (network : Fork) : Fork := network.atTime e.payload.timestamp

def expectsValid (e : PayloadEntry) : Bool := e.validationError.isNone && e.errorCode.isNone

/-- The lowest version of the call that has room for every field that is there. -/
def fieldsVersion (e : PayloadEntry) : UInt8 :=
  if e.executionRequests.isSome then 4
  else if e.blobVersionedHashes.isSome || e.parentBeaconRoot.isSome ||
      e.payload.blobGasUsed.isSome || e.payload.excessBlobGas.isSome then 3
  else if e.payload.withdrawals.isSome then 2
  else 1

/-- Checks the stated version against the fork and the fields. Entries that expect an error
code may state any version. -/
def checkVersion (e : PayloadEntry) (network : Fork) : Except VersionFault Unit :=
  if e.errorCode.isSome then .ok ()
  else match (e.fork network).payloadVersion? with
    | none => .error (.preMerge (e.fork network))
    | some required =>
      let warranted := e.fieldsVersion
      if e.version < required then .error (.belowFork e.version required)
      else if e.version < warranted then .error (.belowFields e.version warranted)
      else if max warranted required < e.version then
        .error (.aboveFields e.version warranted)
      else .ok ()

open Json in
def params (e : PayloadEntry) : List Json :=
  [e.payload.toJson] ++
  (if 3 ≤ e.version then
    [ofList ofFixed (e.blobVersionedHashes.getD []),
      ofFixed (e.parentBeaconRoot.getD .zero)]
    else []) ++
  (if 4 ≤ e.version then [ofList ofBytes (e.executionRequests.getD [])] else [])

end PayloadEntry

end ChainConformance
