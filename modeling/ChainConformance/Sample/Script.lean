import ChainConformance.Address
import ChainConformance.Target.Blocks
import ChainConformance.Target.Launcher
import ChainConformance.Transition.Tool

/-!
# Scripted targets

Targets that hand out answers given beforehand, whatever they are asked, and keep a log of
the calls. Answers are handed out in order, the last one over and over.
-/

namespace ChainConformance

/-- An answer given beforehand, and the time that it takes. -/
structure Prepared (α : Type) where
  delay : Nat := 0
  answer : FaultOr α

abbrev Script (α : Type) := List (Prepared α)

def Script.left {α : Type} : Script α → Script α
  | _ :: next :: rest => next :: rest
  | last => last

/-- Gives an answer in its time, or another one if none was prepared. -/
def Script.give {σ α : Type} (s : Script α) (otherwise : FaultOr α) : Call σ (FaultOr α) :=
  match s with
  | [] => return otherwise
  | next :: _ => do
    Call.wait next.delay
    return next.answer

/-- What is prepared for a block: an outcome, or its acceptance with parts of what the
target says put in place of those of the block. -/
inductive PreparedOutcome where
  | outcome (o : BlockOutcome)
  | accepted (hash : Option Hash) (number : Option UInt64) (stateRoot : Option Hash)

def PreparedOutcome.forBlock (b : Block) : PreparedOutcome → BlockOutcome
  | outcome o => o
  | accepted hash number stateRoot =>
    .accepted ⟨hash.getD b.hash, number.getD b.number⟩ (stateRoot.getD b.header.stateRoot)

/-- A block target with its answers: for the start parts of the genesis block, for a state
the state that is read or none for the one that is asked for. The log has the last call
first. -/
structure ScriptedChain where
  starts : Script (Option Hash × Option Hash) := []
  outcomes : Script PreparedOutcome := []
  states : Script (Option Alloc) := []
  resets : Script Unit := []
  log : List String := []

namespace ScriptedChain

def target : BlockTarget ScriptedChain where
  start fork pre genesis := do
    let s ← Call.look
    Call.change fun c => { c with
      starts := c.starts.left
      log := ("init " ++ fork.name ++ " " ++ toString pre.size) :: c.log }
    return (← s.starts.give (.ok (none, none))).map fun (stateRoot, hash) =>
      ⟨stateRoot.getD (.replicate 0x11), hash.getD genesis.hash⟩
  apply b raw := do
    let s ← Call.look
    Call.change fun c => { c with
      outcomes := c.outcomes.left
      log := ("apply " ++ toString b.number.toNat ++ " " ++ toString raw.length) :: c.log }
    return (← s.outcomes.give (.ok (.accepted none none none))).map (·.forBlock b)
  readState hint := do
    let s ← Call.look
    Call.change fun c => { c with
      states := c.states.left
      log := ("state " ++ toString hint.size) :: c.log }
    return (← s.states.give (.ok none)).map (·.getD hint)
  resetTo hash := do
    let s ← Call.look
    Call.change fun c => { c with
      resets := c.resets.left, log := ("reset " ++ hash.toHex) :: c.log }
    s.resets.give (.ok ())

end ScriptedChain

structure ScriptedClient where
  payloads : Script PayloadStatus := []
  choices : Script PayloadStatus := []
  blocks : Script (Option BlockSummary) := []
  accounts : Script (Option Account) := []

namespace ScriptedClient

def noAnswer {α : Type} : FaultOr α := .error (.other "no answer")

def choiceText : BlockChoice → String
  | .latest => "Latest"
  | .number n => "Number(" ++ toString n.toNat ++ ")"

end ScriptedClient

/-- A launcher with its answers, each start with those of the client. The log has the last
call first, those of the clients among them. -/
structure ScriptedLauncher where
  starts : Script ScriptedClient := []
  stops : Script Unit := []
  log : List String := []

namespace ScriptedLauncher

/-- A scripted client, whose calls are in the log of its launcher. -/
def client : EngineTarget (ScriptedLauncher × ScriptedClient) where
  newPayload version e := do
    let s := (← Call.look).2
    let line := "newPayloadV" ++ toString version.toNat ++ " " ++ e.blockHash.toHex
    Call.change fun (l, c) =>
      ({ l with log := line :: l.log }, { c with payloads := c.payloads.left })
    s.payloads.give ScriptedClient.noAnswer
  chooseHead version choice := do
    let s := (← Call.look).2
    let line := "forkchoiceUpdatedV" ++ toString version.toNat ++ " " ++
      choice.head.toHex ++ " " ++ choice.safe.toHex ++ " " ++ choice.finalized.toHex
    Call.change fun (l, c) =>
      ({ l with log := line :: l.log }, { c with choices := c.choices.left })
    s.choices.give ScriptedClient.noAnswer
  block choice := do
    let s := (← Call.look).2
    let line := "block " ++ ScriptedClient.choiceText choice
    Call.change fun (l, c) =>
      ({ l with log := line :: l.log }, { c with blocks := c.blocks.left })
    s.blocks.give ScriptedClient.noAnswer
  account address keys := do
    let s := (← Call.look).2
    let line := "account " ++ address.checksummed ++ " [" ++
      ",".intercalate (keys.map Word.toDecimal) ++ "]"
    Call.change fun (l, c) =>
      ({ l with log := line :: l.log }, { c with accounts := c.accounts.left })
    s.accounts.give ScriptedClient.noAnswer

def specText (spec : ClientSpec) : String :=
  "start " ++ spec.client ++ " " ++ spec.fork.name ++ " chain " ++ spec.chainId.toDecimal ++
    " pre " ++ toString spec.pre.size ++ " genesis " ++ spec.genesis.hash.toHex ++ ": " ++
    spec.label

def launcher : Launcher ScriptedLauncher ScriptedClient where
  start spec := do
    let s ← Call.look
    Call.change fun l => { l with starts := l.starts.left, log := specText spec :: l.log }
    s.starts.give ScriptedClient.noAnswer
  stop _ := do
    let s ← Call.look
    Call.change fun l => { l with stops := l.stops.left, log := "stop" :: l.log }
    s.stops.give (.ok ())
  client := client

end ScriptedLauncher

/-- What is prepared for a transition: a state, or none for the one that it starts from, and
a summary, or none for one in which nothing happens. -/
structure PreparedTransition where
  alloc : Option Alloc := none
  result : Option TransitionResult := none

/-- A transition tool with its answers, and the transitions that it was asked for, the last
one first. -/
structure ScriptedTool where
  answers : Script PreparedTransition := []
  calls : List (TransitionInput × TransitionOptions) := []

namespace ScriptedTool

def tool : TransitionTool ScriptedTool := fun input options => do
  let s ← Call.look
  Call.change fun t => { t with
    answers := t.answers.left, calls := (input, options) :: t.calls }
  return (← s.answers.give (.ok {})).map fun p =>
    { alloc := p.alloc.getD input.alloc
      result := p.result.getD { stateRoot := .replicate 0x11 } }

end ScriptedTool

end ChainConformance
