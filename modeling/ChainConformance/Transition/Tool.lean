import ChainConformance.Account
import ChainConformance.Call
import ChainConformance.RunFault
import ChainConformance.Json.Forms

/-!
# Transition tools

A transition tool computes what a block makes of a state: from a state, an environment and
transactions it gives the state afterwards and a summary of the execution.
-/

namespace ChainConformance

/-- What a transition starts from. The transactions are an encoded list. -/
structure TransitionInput where
  alloc : Alloc
  environment : Json
  transactions : Bytes

open Json in
def TransitionInput.toJson (i : TransitionInput) : Json :=
  object [
    ("alloc", i.alloc.toJson),
    ("env", i.environment),
    ("txsRlp", ofBytes i.transactions)]

/-- Under which rules a transition is made. Without a reward none is paid, not even one of
zero. -/
structure TransitionOptions where
  fork : Fork
  chainId : Word
  reward : Option Word
  deriving DecidableEq

/-- A transaction that the tool rejects. -/
structure RejectedTransaction where
  index : Nat
  error : String
  deriving Repr, DecidableEq

structure TransitionResult where
  stateRoot : Hash
  transactionsRoot : Hash := .zero
  receiptsRoot : Hash := .zero
  gasUsed : UInt64 := 0
  rejected : List RejectedTransaction := []
  deriving DecidableEq

open Json FieldReader in
def TransitionResult.ofJson (j : Json) : Json.Read TransitionResult :=
  readRecord (mk <$> required "stateRoot" readFixed
    <*> defaulted "txRoot" .zero readFixed
    <*> defaulted "receiptsRoot" .zero readFixed
    <*> defaulted "gasUsed" 0 readUInt64
    <*> defaulted "rejected" [] (readList (readRecord
      (RejectedTransaction.mk <$> required "index" readNatural
        <*> required "error" readText)))) j

structure TransitionOutput where
  alloc : Alloc
  result : TransitionResult
  deriving DecidableEq

open Json FieldReader in
def TransitionOutput.ofJson (j : Json) : Json.Read TransitionOutput :=
  readRecord (mk <$> required "alloc" Alloc.ofJson
    <*> required "result" TransitionResult.ofJson) j

instance : Json.Readable TransitionOutput := ⟨TransitionOutput.ofJson⟩

abbrev TransitionTool (ω : Type) :=
  TransitionInput → TransitionOptions → Call ω (FaultOr TransitionOutput)

namespace Transition

/-- Whether an item stands in a list with its lead: a nested list does, all else is a
string. -/
def isEncodedList : Bytes → Bool
  | b :: _ => 0xc0 ≤ b
  | [] => false

/-- The encoding of transactions as a list, in which typed transactions are strings. -/
def encodeTransactions (txs : List Bytes) : Bytes :=
  Rlp.encodeList (txs.flatMap fun tx => if isEncodedList tx then tx else Rlp.encodeString tx)

open Json in
/-- An empty block without rewards: nothing touches the state that is executed on. -/
def idleInput (alloc : Alloc) : TransitionInput where
  alloc := alloc
  environment := object [
    ("currentCoinbase", ofFixed (.zero : Address)),
    ("currentGasLimit", ofWord 5000),
    ("currentNumber", ofWord 0),
    ("currentTimestamp", ofWord 0),
    ("currentDifficulty", ofWord 0x20000)]
  transactions := encodeTransactions []

/-- The root of a state, which the tool computes by executing nothing on it. -/
def stateRoot {ω : Type} (tool : TransitionTool ω) (alloc : Alloc) (chainId : Word) :
    Call ω (FaultOr Hash) := do
  let output ← tool (idleInput alloc) ⟨.frontier, chainId, none⟩
  return output.map (·.result.stateRoot)

def etherReward? (fork : Fork) : Option Nat :=
  if fork < .byzantium then some 5
  else if fork < .constantinople then some 3
  else if fork < .paris then some 2
  else none

def reward? (fork : Fork) : Option Word :=
  (etherReward? fork).map fun ether => BitVec.ofNat 256 (ether * 1_000_000_000_000_000_000)

end Transition

end ChainConformance
