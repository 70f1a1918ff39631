import ChainConformance.Group
import ChainConformance.Run.Member
import ChainConformance.Run.Payloads
import ChainConformance.Target.Launcher

/-!
# Groups of payload fixtures

Fixtures of payloads that share a genesis are run one after another on one client, which is
set back to the genesis block in between. A client that cannot be trusted any more, or that
cannot be set back, is stopped and another one is started.
-/

namespace ChainConformance

/-- What the fixtures of a group are run with: the launcher and what it starts clients with,
the state that they share, the genesis block to go back to, and the version of the call that
does so. -/
structure PayloadGroup (ω σ : Type) where
  terms : Terms
  launcher : Launcher ω σ
  spec : ClientSpec
  pre : Alloc
  genesisHash : Hash
  resetVersion : Option UInt8

namespace PayloadGroup

variable {ω σ α : Type}

/-- Makes a call that nothing cuts short. One that is never answered would never end: it is taken
for one that fails. -/
def wait (c : Call ω α) : StateM (Moment ω) (Option α) := modifyGet fun m => m.unguarded c

/-- Does something with a client that has the given state. -/
def withClient (s : σ) (act : Moment (ω × σ) → α × Moment (ω × σ)) :
    StateM (Moment ω) (α × σ) := fun m =>
  let (a, after) := act ⟨m.now, (m.state, s)⟩
  ((a, after.state.2), ⟨after.now, after.state.1⟩)

def start (g : PayloadGroup ω σ) : StateM (Moment ω) (Option σ) := do
  match ← wait (g.launcher.start g.spec) with
  | some (.ok s) => return some s
  | _ => return none

def stop (g : PayloadGroup ω σ) (s : σ) : StateM (Moment ω) Unit := do
  let _ ← wait (g.launcher.stop s)

def unavailable : Failure :=
  { kind := .clientFault, message := some "client could not be started" }

def foreignGenesis : Failure :=
  { kind := .setupError, message := some "fixture genesis differs from the group genesis" }

def judge (g : PayloadGroup ω σ) (f : Fixture) (m : Moment (ω × σ)) :
    Verdict × Moment (ω × σ) :=
  if f.genesisHash = g.genesisHash then PayloadRun.run g.terms f g.pre g.launcher.client m
  else (.fail foreignGenesis, m)

/-- The state that a fixture must end with, unless it gives no more than a root. -/
def expectedState? (pre : Alloc) (f : Fixture) : Option Alloc :=
  match f.expectedPost? with
  | some (.full s) => some s
  | some (.diff d) => some (d.apply pre)
  | _ => none

/-- The changes that a fixture made to the state of its group, as the client tells them. Nothing
cuts the reading short, and one that never ends is taken for one that fails. -/
def observedDiff (g : PayloadGroup ω σ) (f : Fixture) (m : Moment (ω × σ)) :
    Option AllocDiff × Moment (ω × σ) :=
  match expectedState? g.pre f with
  | none => (none, m)
  | some expected =>
    match m.unguarded (g.launcher.client.readState (g.pre.readingHint expected)) with
    | (some (.ok observed), after) => (some (AllocDiff.between g.pre observed), after)
    | (_, after) => (none, after)

def runMember (g : PayloadGroup ω σ) (member : Member) (m : Moment (ω × σ)) :
    (Verdict × CaseResult) × Moment (ω × σ) :=
  let (verdict, after) := g.judge member.fixture m
  let result := member.result (.ok verdict)
  if verdict.isPass then
    let (diff, read) := g.observedDiff member.fixture after
    ((verdict, { result with postDiff := diff }), read)
  else ((verdict, result), after)

/-- Sets a client back to the genesis block. Cancellation does not cut this short, since a
fixture that is cancelled must leave the client there too. -/
def reset (g : PayloadGroup ω σ) (m : Moment (ω × σ)) : Bool × Moment (ω × σ) :=
  match g.resetVersion with
  | none => (false, m)
  | some version =>
    match m.within g.terms.callTimeout
        (g.launcher.client.chooseHead version { head := g.genesisHash }) with
    | (.done (.ok s), after) => (s.verdict = .valid, after)
    | (_, after) => (false, after)

/-- Runs the fixtures on a client that is at the genesis block, or fails them all if there
is none. Gives back the client that is still to be stopped. -/
def runFrom (g : PayloadGroup ω σ) :
    List Member → Option σ → StateM (Moment ω) (List CaseResult × Option σ)
  | [], client => return ([], client)
  | member :: rest, none => return ((member :: rest).map (·.failed unavailable), none)
  | member :: rest, some s => do
    let ((verdict, result), s) ← withClient s (g.runMember member)
    if rest.isEmpty then return ([result], some s)
    let (isReset, s) ←
      if verdict.poisonsClient then pure (false, s) else withClient s g.reset
    if isCancelled g.terms.cancelAt (← get).now then
      return (result :: rest.map Member.cancelled, some s)
    let client ← if isReset then pure (some s) else do
      g.stop s
      g.start
    let (results, last) ← g.runFrom rest client
    return (result :: results, last)

/-- The group with the first of its members, which gives the genesis block, the chain and
the label. -/
def ofGroup (terms : Terms) (launcher : Launcher ω σ) (group : Group) (first : Member)
    (size : Nat) : PayloadGroup ω σ where
  terms := terms
  launcher := launcher
  spec := {
    client := terms.client
    fork := group.network
    genesis := first.fixture.genesis
    pre := group.pre
    chainId := first.chainId
    label := first.name ++ " (" ++ toString size ++ " fixtures)" }
  pre := group.pre
  genesisHash := first.fixture.genesisHash
  resetVersion := first.fixture.forkchoiceVersion <|> group.network.forkchoiceVersion?

def run (terms : Terms) (launcher : Launcher ω σ) (group : Group) :
    List Member → Moment ω → List CaseResult × Moment ω
  | [], m => ([], m)
  | first :: rest, m =>
    let g := ofGroup terms launcher group first (rest.length + 1)
    (do
      let (results, last) ← g.runFrom (first :: rest) (← g.start)
      if let some s := last then g.stop s
      return results : StateM (Moment ω) (List CaseResult)).run m

end PayloadGroup

end ChainConformance
