import ChainConformance.OrderedMap
import ChainConformance.Rpc
import ChainConformance.Target.Launcher

/-!
# Clients from hive

A launcher that has a hive simulator start clients. A suite is opened first; each client is
started in a test of its own, which is closed when the client is stopped or cannot be
started.
-/

namespace ChainConformance.Hive

def enginePort : Nat := 8551

/-- The variable that turns on a fork, for each fork that has one, in the order of forks. -/
def activations : List (Fork × String) := [
  (.homestead, "HIVE_FORK_HOMESTEAD"),
  (.tangerineWhistle, "HIVE_FORK_TANGERINE"),
  (.spuriousDragon, "HIVE_FORK_SPURIOUS"),
  (.byzantium, "HIVE_FORK_BYZANTIUM"),
  (.constantinople, "HIVE_FORK_CONSTANTINOPLE"),
  (.petersburg, "HIVE_FORK_PETERSBURG"),
  (.istanbul, "HIVE_FORK_ISTANBUL"),
  (.berlin, "HIVE_FORK_BERLIN"),
  (.london, "HIVE_FORK_LONDON"),
  (.paris, "HIVE_TERMINAL_TOTAL_DIFFICULTY"),
  (.shanghai, "HIVE_SHANGHAI_TIMESTAMP"),
  (.cancun, "HIVE_CANCUN_TIMESTAMP"),
  (.prague, "HIVE_PRAGUE_TIMESTAMP"),
  (.osaka, "HIVE_OSAKA_TIMESTAMP")]

/-- When a fork is turned on: at genesis, but for the new rules of a transition fork. -/
def activationTime (network fork : Fork) : UInt64 :=
  if network.resolved ≠ network ∧ fork = network.resolved then Fork.transitionTimestamp else 0

/-- The variables that a client is started with: those of its chain, and those of every fork
up to the rules that the network comes to. -/
def environment (network : Fork) (chainId : Word) : OrderedMap String String :=
  let reached := activations.filter fun a => a.1 ≤ network.resolved
  OrderedMap.ofList ([("HIVE_CHAIN_ID", chainId.toDecimal),
    ("HIVE_NETWORK_ID", chainId.toDecimal)] ++
    reached.map fun a => (a.2, toString (activationTime network a.1).toNat))

open Json in
/-- The document that a client takes its genesis block and state from. -/
def genesisDocument (h : Header) (pre : Alloc) (chainId : Word) : Json :=
  objectOf [
    ("config", some (object [("chainId", ofWord chainId)])),
    ("coinbase", some (ofFixed h.coinbase)),
    ("difficulty", some (ofWord h.difficulty)),
    ("extraData", some (ofBytes h.extraData)),
    ("gasLimit", some (ofWord h.gasLimit)),
    ("mixHash", some (ofFixed h.mixHash)),
    ("nonce", some (ofFixed h.nonce)),
    ("number", some (ofWord h.number)),
    ("parentHash", some (ofFixed h.parentHash)),
    ("timestamp", some (ofWord h.timestamp)),
    ("alloc", some pre.toJson),
    ("baseFeePerGas", h.baseFee.map ofWord),
    ("blobGasUsed", h.blobGasUsed.map ofWord),
    ("excessBlobGas", h.excessBlobGas.map ofWord),
    ("parentBeaconBlockRoot", h.parentBeaconRoot.map ofFixed)]

/-- An open suite of a simulator, the name that it has for the client, and the secret of the
clients that it starts. -/
structure Suite where
  simulator : String
  id : Nat
  client : String
  secret : TokenSecret

/-- A client that was started, with its test and its name in it. -/
structure Client where
  rpc : RpcClient
  test : Nat
  node : String

namespace Suite

variable {ω : Type}

def readId (j : Json) : Json.Read Nat := Json.readNatural j

def withoutSlashes (s : String) : String :=
  String.ofList (s.toList.reverse.dropWhile (· == '/')).reverse

open Json in
def start (web : Web ω) (simulator name client : String) : Call ω (FaultOr Suite) := do
  let simulator := withoutSlashes simulator
  let body := object [
    ("name", .text name), ("description", .text "blockchain fixture consumption")]
  match ← Http.fetch web
      { verb := "POST", url := simulator ++ "/testsuite", body := .json body } readId with
  | .error e => return .error e
  | .ok id => return (TokenSecret.ofText TokenSecret.hiveText).map fun secret =>
      { simulator, id, client, secret }

def url (s : Suite) : String := s.simulator ++ "/testsuite/" ++ toString s.id

def finish (web : Web ω) (s : Suite) : Call ω (FaultOr Unit) := do
  return (← Http.send web { verb := "DELETE", url := s.url }).map fun _ => ()

def testUrl (s : Suite) (test : Nat) : String := s.url ++ "/test/" ++ toString test

open Json in
def startTest (web : Web ω) (s : Suite) (spec : ClientSpec) : Call ω (FaultOr Nat) :=
  Http.fetch web {
    verb := "POST", url := s.url ++ "/test"
    body := .json (object [
      ("name", .text spec.label),
      ("description", .text (spec.client ++ " on " ++ spec.fork.name))]) } readId

open Json in
def endTest (web : Web ω) (s : Suite) (test : Nat) (pass : Bool) (details : String) :
    Call ω (FaultOr Unit) := do
  return (← Http.send web {
    verb := "POST", url := s.testUrl test
    body := .json (object [("pass", .bool pass), ("details", .text details)]) }).map fun _ => ()

open Json in
def nodeForm (s : Suite) (spec : ClientSpec) : List FormPart := [
  { name := "config"
    content := (object [
      ("client", .text s.client),
      ("environment",
        ofMap (fun name => name) .text (environment spec.fork spec.chainId))]).toCompact },
  { name := "/genesis.json", fileName := some "genesis.json"
    mediaType := some "application/json"
    content := (genesisDocument spec.genesis spec.pre spec.chainId).toCompact }]

open Json FieldReader in
def readNode (j : Json) : Json.Read (String × String) :=
  readRecord (Prod.mk <$> required "id" readText <*> required "ip" readText) j

def startNode (web : Web ω) (s : Suite) (test : Nat) (spec : ClientSpec) :
    Call ω (FaultOr (String × String)) :=
  Http.fetch web {
    verb := "POST", url := s.testUrl test ++ "/node", body := .form (s.nodeForm spec) } readNode

def clientAt (s : Suite) (test : Nat) (node address : String) : Client where
  rpc := {
    url := "http://" ++ address ++ ":" ++ toString enginePort, secret := some s.secret }
  test := test
  node := node

/-- Starts a client in a test of its own, which is closed if the client cannot be
started. -/
def startClient (web : Web ω) (s : Suite) (spec : ClientSpec) : Call ω (FaultOr Client) := do
  match ← s.startTest web spec with
  | .error e => return .error e
  | .ok test =>
    match ← s.startNode web test spec with
    | .ok (node, address) => return .ok (s.clientAt test node address)
    | .error e =>
      let _ ← s.endTest web test false e.message
      return .error e

/-- Stops a client, and closes its test if that went well. -/
def stopClient (web : Web ω) (s : Suite) (c : Client) : Call ω (FaultOr Unit) := do
  match ← Http.send web { verb := "DELETE", url := s.testUrl c.test ++ "/node/" ++ c.node } with
  | .error e => return .error e
  | .ok _ => s.endTest web c.test true "client stopped"

def onEndpoint {α : Type} (c : Call (ω × RpcClient) α) : Call (ω × Client) α :=
  c.inside (fun (w, client) => (w, client.rpc)) fun (w, rpc) p => (w, { p.2 with rpc := rpc })

def clientTarget (web : Web ω) : EngineTarget (ω × Client) :=
  let t := RpcClient.target web
  { newPayload := fun version e => onEndpoint (t.newPayload version e)
    chooseHead := fun version choice => onEndpoint (t.chooseHead version choice)
    block := fun choice => onEndpoint (t.block choice)
    account := fun address keys => onEndpoint (t.account address keys) }

def launcher (web : Web ω) (s : Suite) : Launcher ω Client where
  start := s.startClient web
  stop := s.stopClient web
  client := clientTarget web

end Suite

end ChainConformance.Hive
