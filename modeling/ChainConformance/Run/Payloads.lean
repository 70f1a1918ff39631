import ChainConformance.Fixture
import ChainConformance.Target.Engine
import ChainConformance.Terms

/-!
# Runs over payloads

A fixture of payloads is run on a client that has been started from its genesis. Each
payload is offered until the client decides on it; one that is valid becomes the head of the
chain before the next is offered, and the first one that is refused as expected ends it.
-/

namespace ChainConformance

abbrev PayloadStep (σ : Type) := ExceptT Failure (StateM (Moment σ))

namespace PayloadRun

variable {σ α : Type}

/-- Makes a call under the terms of a run, for the payload with the given index or for
none: the one that there is at the time. -/
def call (terms : Terms) (index : Option Nat) (c : Nat → Call σ α) : PayloadStep σ α := do
  match ← modifyGet fun m => m.guarded terms.cancelAt terms.callTimeout (c m.now) with
  | .done a => return a
  | .timedOut => throw { kind := .timeout, block := index }
  | .cancelled => throw { kind := .cancelled, block := index }

def clientFault (index : Option Nat) (e : RunFault) : Failure :=
  { kind := .clientFault, block := index, message := some e.message }

def ask (terms : Terms) (index : Option Nat) (c : Nat → Call σ (FaultOr α)) :
    PayloadStep σ α := do
  match ← call terms index c with
  | .ok a => return a
  | .error e => throw (clientFault index e)

def setupFailure (message : String) : Failure :=
  { kind := .setupError, message := some message }

/-- Compares the client's block at the number of the genesis block with the genesis of the
fixture. -/
def judgeGenesis (expected : ChainHead) : Option Hash → Except Failure Unit
  | some hash =>
    if hash = expected.hash then .ok ()
    else .error (setupFailure ("genesis hash mismatch: expected " ++ expected.hash.toHex ++
      ", got " ++ hash.toHex))
  | none => .error (setupFailure
      ("client has no block #" ++ toString expected.number.toNat))

def checkGenesis (terms : Terms) (f : Fixture) (target : Nat → EngineTarget σ) :
    PayloadStep σ Unit := do
  match ← call terms none fun now => (target now).blockHash f.genesisHead.number with
  | .ok hash => judgeGenesis f.genesisHead hash
  | .error e => throw (setupFailure e.message)

/-- What becomes of a payload: a decision of the client, or an error of the call. -/
inductive Response where
  | status (s : PayloadStatus)
  | refused (code : Int) (message : String)

/-- Offers a payload until the client decides on it or the deadline has passed. As time
goes by between two offers, a number of `rounds` above that of the milliseconds that are
left is never used up. -/
def offer (terms : Terms) (target : Nat → EngineTarget σ) (index : Nat) (e : PayloadEntry)
    (deadline : Nat) : Nat → PayloadStep σ Response
  | 0 => throw { kind := .timeout, block := some index }
  | rounds + 1 => do
    match ← call terms (some index) fun now => (target now).newPayload e.version e with
    | .error (.rpc code message) => return .refused code message
    | .error fault => throw (clientFault (some index) fault)
    | .ok status =>
      if !status.verdict.isPending then return .status status
      if deadline ≤ (← get).now then
        throw {
          kind := .timeout, block := some index
          message := some ("payload stayed " ++ status.verdict.name) }
      modify (Moment.pause (max 1 terms.pollInterval))
      offer terms target index e deadline rounds

inductive Decision where
  | accepted
  | refused
  deriving DecidableEq

def expectedAnswer : Option Int → String
  | some code => "error " ++ toString code
  | none => "a payload status"

/-- The failure of a call that is answered by an error where it should not be, or the other
way about. -/
def protocolFailure (index : Nat) (message : String) : Failure :=
  { kind := .protocolErrorMismatch, block := some index, message := some message }

def judgeResponse (terms : Terms) (network : Fork) (index : Nat) (e : PayloadEntry) :
    Response → Except Failure Decision
  | .refused code message =>
    if e.errorCode = some code then .ok .refused
    else .error (protocolFailure index ("expected " ++ expectedAnswer e.errorCode ++
      ", got JSON-RPC error " ++ toString code ++ ": " ++ message))
  | .status status =>
    match e.errorCode with
    | some code => .error (protocolFailure index ("expected JSON-RPC error " ++
        toString code ++ ", got status " ++ status.verdict.name))
    | none =>
      if status.verdict.isInvalid then
        let message := status.validationError.getD ""
        (terms.judgeRejection index e.validationError message
          (terms.classify message (e.fork network))).map fun _ => .refused
      else
        match e.validationError with
        | some set => .error {
            kind := .unexpectedAcceptance, block := some index, expected := some set }
        | none => .ok .accepted

def constructionFailure (index : Nat) (message : String) : Failure :=
  { kind := .fixtureConstruction, block := some index, message := some message }

/-- Judges the answer to the choice of a head, which must be valid. -/
def judgeChoice (index : Nat) (version : UInt8) (s : PayloadStatus) :
    Except Failure Unit :=
  if s.verdict = .valid then .ok ()
  else .error {
    kind := .unexpectedRejection, block := some index
    message := some ("engine_forkchoiceUpdatedV" ++ toString version.toNat ++
      " returned " ++ s.verdict.name ++
      (match s.validationError with
        | some text => ": " ++ text
        | none => "")) }

def choose (terms : Terms) (f : Fixture) (target : Nat → EngineTarget σ) (index : Nat)
    (e : PayloadEntry) : PayloadStep σ Unit := do
  match f.forkchoiceVersionFor e with
  | none => throw (constructionFailure index
      ("no forkchoiceUpdated version for " ++ f.network.name))
  | some version =>
    let s ← ask terms (some index) fun now =>
      (target now).chooseHead version { head := e.blockHash }
    judgeChoice index version s

def submit (terms : Terms) (f : Fixture) (target : Nat → EngineTarget σ) (index : Nat)
    (e : PayloadEntry) : PayloadStep σ Decision := do
  if isCancelled terms.cancelAt (← get).now then
    throw { kind := .cancelled, block := some index }
  ((e.checkVersion f.network).mapError fun v => constructionFailure index v.message)
  let deadline := (← get).now + terms.syncTimeout
  let response ← offer terms target index e deadline (terms.syncTimeout + 1)
  judgeResponse terms f.network index e response

/-- Extends the chain by payloads, of which the first has the given index, until they are
used up or one is refused as expected. -/
def extend (terms : Terms) (f : Fixture) (target : Nat → EngineTarget σ) :
    Nat → List PayloadEntry → PayloadStep σ Unit
  | _, [] => return
  | index, e :: rest => do
    match ← submit terms f target index e with
    | .refused => return
    | .accepted =>
      choose terms f target index e
      extend terms f target (index + 1) rest

def checkState (terms : Terms) (target : Nat → EngineTarget σ) (pre expected : Alloc) :
    PayloadStep σ Unit := do
  judgeState expected
    (← ask terms none fun now => (target now).readState (pre.readingHint expected))

def checkPost (terms : Terms) (f : Fixture) (pre : Alloc) (target : Nat → EngineTarget σ) :
    PayloadStep σ Unit :=
  match f.expectedPost? with
  | none => throw {
      kind := .fixtureConstruction, message := some Malformation.noPostState.display }
  | some (.full s) => checkState terms target pre s
  | some (.diff d) => checkState terms target pre (d.apply pre)
  | some (.root r) => do
    match ← ask terms none fun now => (target now).block .latest with
    | some b => judgeRoot r b.stateRoot
    | none => throw (clientFault none (.other EngineTarget.noLatestBlock))

def steps (terms : Terms) (f : Fixture) (pre : Alloc) (target : Nat → EngineTarget σ) :
    PayloadStep σ Unit := do
  checkGenesis terms f target
  extend terms f target 0 f.payloads
  judgeHead f.expectedHead (← ask terms none fun now => (target now).head)
  checkPost terms f pre target

/-- Runs a fixture of payloads from the given moment, on a client whose genesis has the
state `pre`. -/
def run (terms : Terms) (f : Fixture) (pre : Alloc) (target : Nat → EngineTarget σ)
    (m : Moment σ) : Verdict × Moment σ :=
  let (end?, final) := (steps terms f pre target).run.run m
  (.ofRun end?, final)

end PayloadRun

end ChainConformance
