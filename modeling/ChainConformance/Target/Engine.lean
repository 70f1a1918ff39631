import ChainConformance.Call
import ChainConformance.RunFault
import ChainConformance.Json.Forms
import ChainConformance.Payload
import ChainConformance.Account

/-!
# Clients with an engine interface

A client is given payloads, is told which block is the head of its chain, and is asked for
blocks and accounts.
-/

namespace ChainConformance

/-- What a client says of a payload. -/
inductive PayloadVerdict where
  | valid
  | invalid
  | syncing
  | accepted
  | invalidBlockHash
  deriving Repr, DecidableEq

namespace PayloadVerdict

def isPending : PayloadVerdict → Bool
  | syncing | accepted => true
  | _ => false

def isInvalid : PayloadVerdict → Bool
  | invalid | invalidBlockHash => true
  | _ => false

def name : PayloadVerdict → String
  | valid => "Valid"
  | invalid => "Invalid"
  | syncing => "Syncing"
  | accepted => "Accepted"
  | invalidBlockHash => "InvalidBlockHash"

def wireName : PayloadVerdict → String
  | valid => "VALID"
  | invalid => "INVALID"
  | syncing => "SYNCING"
  | accepted => "ACCEPTED"
  | invalidBlockHash => "INVALID_BLOCK_HASH"

def all : List PayloadVerdict := [valid, invalid, syncing, accepted, invalidBlockHash]

/-- Reads the word from JSON, as text or as the name of a single field that is null. -/
def ofJson (j : Json) : Json.Read PayloadVerdict := do
  let word ← match j with
    | .object [(name, .null)] => pure name
    | j => Json.readText j
  .ofOption (all.find? fun v => v.wireName = word)

end PayloadVerdict

/-- The answer to a payload, or to the choice of a head. -/
structure PayloadStatus where
  verdict : PayloadVerdict
  latestValidHash : Option Hash := none
  validationError : Option String := none
  deriving DecidableEq

namespace PayloadStatus

open Json FieldReader in
def ofJson (j : Json) : Json.Read PayloadStatus :=
  readRecord (mk <$> required "status" PayloadVerdict.ofJson
    <*> optional "latestValidHash" readFixed
    <*> optional "validationError" readText) j

open Json in
def toJson (s : PayloadStatus) : Json :=
  object [
    ("status", .text s.verdict.wireName),
    ("latestValidHash", ofOption ofFixed s.latestValidHash),
    ("validationError", ofOption .text s.validationError)]

end PayloadStatus

instance : Json.Readable PayloadStatus := ⟨PayloadStatus.ofJson⟩

/-- The choice of a head, with the last blocks that are safe and final. -/
structure Forkchoice where
  head : Hash
  safe : Hash := .zero
  finalized : Hash := .zero
  deriving DecidableEq

namespace Forkchoice

open Json FieldReader in
def ofJson (j : Json) : Json.Read Forkchoice :=
  readRecord (mk <$> required "headBlockHash" readFixed
    <*> required "safeBlockHash" readFixed
    <*> required "finalizedBlockHash" readFixed) j

open Json in
def toJson (c : Forkchoice) : Json :=
  object [
    ("headBlockHash", ofFixed c.head),
    ("safeBlockHash", ofFixed c.safe),
    ("finalizedBlockHash", ofFixed c.finalized)]

end Forkchoice

instance : Json.Readable Forkchoice := ⟨Forkchoice.ofJson⟩

/-- Which block of the chain is asked for. -/
inductive BlockChoice where
  | latest
  | number (n : UInt64)
  deriving DecidableEq

/-- What a client tells of a block. -/
structure BlockSummary where
  hash : Hash
  number : UInt64
  stateRoot : Hash
  deriving DecidableEq

namespace BlockSummary

open Json FieldReader in
def ofJson (j : Json) : Json.Read BlockSummary :=
  readRecord (mk <$> required "hash" readFixed
    <*> required "number" readUInt64
    <*> required "stateRoot" readFixed) j

def head (b : BlockSummary) : ChainHead := ⟨b.hash, b.number⟩

end BlockSummary

instance : Json.Readable BlockSummary := ⟨BlockSummary.ofJson⟩

/-- A client with an engine interface. A payload goes with the version of its call, and so
does the choice of a head. Of an account only the given slots are read. -/
structure EngineTarget (σ : Type) where
  newPayload : UInt8 → PayloadEntry → Call σ (FaultOr PayloadStatus)
  chooseHead : UInt8 → Forkchoice → Call σ (FaultOr PayloadStatus)
  block : BlockChoice → Call σ (FaultOr (Option BlockSummary))
  account : Address → List Word → Call σ (FaultOr (Option Account))

instance {σ : Type} : Coe (EngineTarget σ) (Nat → EngineTarget σ) := ⟨fun t _ => t⟩

namespace EngineTarget

variable {σ : Type}

def blockHash (t : EngineTarget σ) (n : UInt64) : Call σ (FaultOr (Option Hash)) := do
  return (← t.block (.number n)).map fun b => b.map (·.hash)

def noLatestBlock : String := "client has no latest block"

def head (t : EngineTarget σ) : Call σ (FaultOr ChainHead) := do
  match ← t.block .latest with
  | .ok (some b) => return .ok b.head
  | .ok none => return .error (.other noLatestBlock)
  | .error e => return .error e

/-- Reads accounts with the given slots into a state, and stops at the first fault. -/
def readAccounts (t : EngineTarget σ) :
    List (Address × Account) → Alloc → Call σ (FaultOr Alloc)
  | [], read => return .ok read
  | (address, account) :: rest, read => do
    match ← t.account address account.storage.keys with
    | .ok (some a) => t.readAccounts rest (read.insert address a)
    | .ok none => t.readAccounts rest read
    | .error e => return .error e

def readState (t : EngineTarget σ) (hint : Alloc) : Call σ (FaultOr Alloc) :=
  t.readAccounts hint.entries .empty

end EngineTarget

def Storage.overlaid (base upper : Storage) : Storage :=
  upper.entries.foldl (fun s e => s.insert e.1 e.2) base

/-- The accounts and slots to read back after a fixture: those that were there before and
those that are expected, so that accounts and slots that should be gone are read too. -/
def Alloc.readingHint (pre expected : Alloc) : Alloc :=
  expected.entries.foldl
    (fun hint e =>
      let before := (hint.get? e.1).getD default
      hint.insert e.1 { before with storage := before.storage.overlaid e.2.storage })
    pre

end ChainConformance
