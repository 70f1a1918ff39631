import ChainConformance.Json.Forms
import ChainConformance.Sample.Client
import ChainConformance.Sample.Script
import ChainConformance.Sample.Shell

/-!
# Samples described in JSON

Sample targets and scripted ones are described by JSON objects. An answer of a script may
be an error, and may have a delay.
-/

namespace ChainConformance

namespace Described

open Json

def field (j : Json) (name : String) : Json := (j.field? name).getD .null

/-- Reads a field, the value `d` if it is missing or null. -/
def fieldOr {α : Type} (j : Json) (name : String) (d : α) (f : Json → Read α) : Read α := do
  return (← readOption f (field j name)).getD d

def fieldOpt {α : Type} (j : Json) (name : String) (f : Json → Read α) : Read (Option α) :=
  readOption f (field j name)

def code (j : Json) : Read Int := readIntegerIn .signed64 j

def fault? (j : Json) : Read (Option RunFault) := do
  match j.field? "rpc", j.field? "transport", j.field? "failure", j.field? "other" with
  | some e, _, _, _ =>
    return some (.rpc (← code (field e "code")) (← readText (field e "message")))
  | none, some e, _, _ => return some (.transport (← readText e))
  | none, none, some e, _ => return some (.tool "evm" "exit status: 1" (← readText e))
  | none, none, none, some e => return some (.other (← readText e))
  | none, none, none, none => return none

def prepared {α : Type} (f : Json → Read α) (j : Json) : Read (Prepared α) := do
  let delay ← fieldOr j "delay_ms" 0 readNatural
  match ← fault? j with
  | some e => return ⟨delay, .error e⟩
  | none => return ⟨delay, .ok (← f j)⟩

/-- Reads a list of answers, which is empty if it is missing. -/
def script {α : Type} (j : Json) (name : String) (f : Json → Read α) : Read (Script α) :=
  fieldOr j name [] (readList (prepared f))

def tag (j : Json) : Read ExceptionTag := do
  (ExceptionSet.readTag (← readText j)).mapError .unknownException

def changesOf (j : Json) : Read (OrderedMap Hash Alloc) :=
  fieldOr j "changes" .empty (readMap fixedOfName Alloc.ofJson)

def errorPair : Json → Read (Int × String)
  | .array [c, message] => do return (← code c, ← readText message)
  | _ => .error .shape

end Described

open Json Described

def SampleChain.ofJson (j : Json) : Read SampleChain := do
  let rejection (r : Json) : Read (String × Option ExceptionTag) := do
    return (← readText (field r "message"), ← fieldOpt r "tag" tag)
  return {
    delay := ← fieldOpt j "delay_ms" readNatural
    rejection := ← fieldOpt j "rejection" rejection
    fault := ← fieldOpt j "fault" readText
    changes := ← changesOf j }

def SampleClient.describedBy (c : SampleClient) (j : Json) : Read SampleClient := do
  return { c with
    invalid := ← fieldOr j "invalid" .empty (readMap fixedOfName readText)
    rpcErrors := ← fieldOr j "rpc_errors" .empty (readMap fixedOfName errorPair)
    syncingRounds := ← fieldOr j "syncing_rounds" 0 readNatural
    refusesReset := ← fieldOr j "refuse_reset" false readBool
    changes := ← changesOf j }

def SampleLauncher.ofJson (j : Json) : Read SampleLauncher := do
  return {
    refusesReset := ← fieldOr j "refuse_reset" false readBool
    maxStarts := ← fieldOpt j "max_starts" readNatural
    changes := ← changesOf j }

def PreparedOutcome.ofJson (j : Json) : Read PreparedOutcome := do
  if let some said := j.field? "rejected" then
    return .outcome (.rejected (← readText said) (← fieldOpt j "tag" tag))
  if let some said := j.field? "decode_failed" then
    return .outcome (.undecodable (← readText said))
  if (j.field? "timed_out").isSome then return .outcome .timedOut
  let a := field j "accepted"
  return .accepted (← fieldOpt a "hash" readFixed)
    (← fieldOpt a "number" fun n => (readNatural n).map UInt64.ofNat)
    (← fieldOpt a "state_root" readFixed)

def ScriptedChain.ofJson (j : Json) : Read ScriptedChain := do
  let start (s : Json) : Read (Option Hash × Option Hash) := do
    return (← fieldOpt s "state_root" readFixed, ← fieldOpt s "hash" readFixed)
  return {
    starts := ← script j "init" start
    outcomes := ← script j "apply" PreparedOutcome.ofJson
    states := ← script j "state" fun s => fieldOpt s "alloc" Alloc.ofJson
    resets := ← script j "reset" fun _ => .ok () }

def ScriptedClient.ofJson (j : Json) : Read ScriptedClient := do
  return {
    payloads := ← script j "new_payload" PayloadStatus.ofJson
    choices := ← script j "forkchoice" PayloadStatus.ofJson
    blocks := ← script j "block" (readOption BlockSummary.ofJson)
    accounts := ← script j "account" (readOption Account.ofJson) }

def ScriptedLauncher.ofJson (j : Json) : Read ScriptedLauncher := do
  return {
    starts := ← script j "starts" ScriptedClient.ofJson
    stops := ← script j "stops" fun _ => .ok () }

def ScriptedTool.ofJson (j : Json) : Read ScriptedTool := do
  let transition (t : Json) : Read PreparedTransition := do
    return ⟨← fieldOpt t "alloc" Alloc.ofJson, ← fieldOpt t "result" TransitionResult.ofJson⟩
  return { answers := ← script j "answers" transition }

/-- Reads what a program prints. Its streams are texts, or JSON values that it prints
as such. -/
def ProgramOutput.ofJson (j : Json) : Read ProgramOutput := do
  let printed (stream : Json) : String :=
    match stream with
    | .text s => s
    | .null => ""
    | value => value.toCompact
  return ⟨← fieldOr j "code" 0 readNatural, printed (field j "stdout"),
    printed (field j "stderr")⟩

def ScriptedShell.ofJson (tools root : String) (j : Json) : Read ScriptedShell := do
  let reports : OrderedMap String ProgramOutput ←
    fieldOr j "reports" .empty (readMap (fun path => .ok (Path.join root path))
      ProgramOutput.ofJson)
  return {
    tool := Path.join tools "t8n.sh"
    outputs := ← fieldOr j "answers" [] (readList ProgramOutput.ofJson)
    reporter := Path.join tools "blocktest.sh"
    reports := reports
    hangs := ← fieldOr j "hang" false readBool }

instance : Readable SampleChain := ⟨SampleChain.ofJson⟩
instance : Readable SampleLauncher := ⟨SampleLauncher.ofJson⟩
instance : Readable ScriptedChain := ⟨ScriptedChain.ofJson⟩
instance : Readable ScriptedClient := ⟨ScriptedClient.ofJson⟩
instance : Readable ScriptedLauncher := ⟨ScriptedLauncher.ofJson⟩
instance : Readable ScriptedTool := ⟨ScriptedTool.ofJson⟩

end ChainConformance
