import ChainConformance.Http
import ChainConformance.Target.Engine
import ChainConformance.Token

/-!
# Clients over JSON-RPC

A client that is reached by JSON-RPC over HTTP. Every request has a number of its own, and a
token if there is a secret.
-/

namespace ChainConformance

structure RpcClient where
  url : String
  secret : Option TokenSecret := none
  nextId : Nat := 1

/-- The answer to a call: a result, or an error. -/
structure RpcResponse where
  result : Json
  error : Option (Int × String)

namespace RpcResponse

open Json FieldReader in
def errorOfJson (j : Json) : Json.Read (Int × String) :=
  readRecord (Prod.mk <$> required "code" (readIntegerIn .signed64)
    <*> required "message" readText) j

open Json FieldReader in
/-- Reads an answer from JSON. Without a result it is null. -/
def ofJson (j : Json) : Json.Read RpcResponse :=
  readRecord (mk <$> defaulted "result" .null .ok <*> optional "error" errorOfJson) j

def read {α : Type} (method : String) (f : Json → Json.Read α) (r : RpcResponse) :
    FaultOr α :=
  match r.error with
  | some (code, message) => .error (.rpc code message)
  | none => (f r.result).mapError fun e =>
      .transport ("unexpected " ++ method ++ " result: " ++
        e.message?.getD "not of the expected form")

end RpcResponse

namespace RpcClient

variable {ω α : Type}

abbrev Calls (ω : Type) := ExceptT RunFault (Call (ω × RpcClient))

open Json in
def document (id : Nat) (method : String) (params : List Json) : Json :=
  object [
    ("jsonrpc", .text "2.0"),
    ("id", .integer id),
    ("method", .text method),
    ("params", .array params)]

def takeId : Call (ω × RpcClient) Nat := .instantly fun (w, c) =>
  (c.nextId, w, { c with nextId := c.nextId + 1 })

def onWeb (c : Call ω α) : Call (ω × RpcClient) α := c.inside (·.1) fun w p => (w, p.2)

def call (web : Web ω) (method : String) (params : List Json) (f : Json → Json.Read α) :
    Calls ω α := ExceptT.mk do
  let id ← takeId
  let client := (← Call.look).2
  let token ← match client.secret with
    | none => pure none
    | some secret => do pure (some (secret.tokenAt (← onWeb web.clock)))
  let request : HttpRequest := {
    verb := "POST", url := client.url, body := .json (document id method params), token }
  return (← onWeb (Http.fetch web request RpcResponse.ofJson)) >>= RpcResponse.read method f

/-- What is asked for where the state at the last block is meant. -/
def latest : Json := .text "latest"

def choiceParam : BlockChoice → Json
  | .latest => latest
  | .number n => .text (hexOfUInt64 n)

open Json FieldReader in
def choiceOfJson (j : Json) : Json.Read PayloadStatus :=
  readRecord (required "payloadStatus" PayloadStatus.ofJson) j

def slotKey (key : Word) : Hash :=
  (FixedBytes.ofBytes? ((List.range 32).map fun i =>
    UInt8.ofNat (key.toNat >>> (8 * (31 - i))))).getD .zero

open Json in
/-- Reads slots of an account into its storage. -/
def readSlots (web : Web ω) (address : Address) : List Word → Storage → Calls ω Storage
  | [], read => return read
  | key :: rest, read => do
    let value ← call web "eth_getStorageAt" [ofFixed address, ofFixed (slotKey key), latest]
      (readFixed (n := 32))
    readSlots web address rest (read.insert key (BitVec.ofNat 256 (ofBigEndian value.bytes)))

open Json in
/-- Reads an account with the given slots. One that has nothing is none. -/
def readAccount (web : Web ω) (address : Address) (keys : List Word) :
    Calls ω (Option Account) := do
  let place := [ofFixed address, latest]
  let balance ← call web "eth_getBalance" place readWord
  let nonce ← call web "eth_getTransactionCount" place readWord
  let code ← call web "eth_getCode" place readBytes
  let account : Account := ⟨balance, code, nonce, ← readSlots web address keys .empty⟩
  return if account.isEmpty then none else some account

def target (web : Web ω) : EngineTarget (ω × RpcClient) where
  newPayload version e :=
    (call web ("engine_newPayloadV" ++ toString version.toNat) e.params PayloadStatus.ofJson).run
  chooseHead version choice :=
    (call web ("engine_forkchoiceUpdatedV" ++ toString version.toNat)
      [choice.toJson, .null] choiceOfJson).run
  block choice :=
    (call web "eth_getBlockByNumber" [choiceParam choice, .bool false]
      (Json.readOption BlockSummary.ofJson)).run
  account address keys := (readAccount web address keys).run

end RpcClient

end ChainConformance
