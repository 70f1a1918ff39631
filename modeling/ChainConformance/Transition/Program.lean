import ChainConformance.Json.Printer
import ChainConformance.Program
import ChainConformance.Transition.Tool

/-!
# Transition tools that are programs

A program that reads a transition as JSON, with its options on the command line, and prints
the outcome as JSON.
-/

namespace ChainConformance

/-- A program that makes transitions, with the words that stand before its options. -/
structure TransitionProgram where
  path : String
  subcommand : List String := ["t8n"]

namespace TransitionProgram

def forkName : Fork → String
  | .paris => "Merge"
  | fork => fork.name

/-- The reward on the command line, below zero if none is paid. -/
def rewardText : Option Word → String
  | some reward => reward.toDecimal
  | none => "-1"

def arguments (p : TransitionProgram) (o : TransitionOptions) : List String :=
  p.subcommand ++ [
    "--input.alloc=stdin",
    "--input.env=stdin",
    "--input.txs=stdin",
    "--output.result=stdout",
    "--output.alloc=stdout",
    "--state.fork=" ++ forkName o.fork,
    "--state.chainid=" ++ o.chainId.toDecimal,
    "--state.reward=" ++ rewardText o.reward]

def outcome (p : TransitionProgram) (o : ProgramOutput) : FaultOr TransitionOutput :=
  if o.isSuccess then
    (Json.readDocument TransitionOutput.ofJson o.stdout).mapError RunFault.ofJson
  else .error (o.fault p.path)

def tool {ω : Type} (p : TransitionProgram) (shell : Shell ω) : TransitionTool ω :=
  fun input options => do
    match ← shell ⟨p.path, p.arguments options, input.toJson.toCompact⟩ with
    | .error why => return .error (.ofFile p.path why)
    | .ok output => return p.outcome output

end TransitionProgram

end ChainConformance
