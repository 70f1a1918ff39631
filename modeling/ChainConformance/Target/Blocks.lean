import ChainConformance.Call
import ChainConformance.RunFault
import ChainConformance.Block
import ChainConformance.Account

/-!
# Targets that import blocks

A target is given whole blocks, one after another, from a genesis block on.
-/

namespace ChainConformance

/-- The genesis block that a target holds: the root of its state, and its hash. -/
structure Genesis where
  stateRoot : Hash
  hash : Hash
  deriving DecidableEq

/-- What becomes of a block. A target may know itself why it rejects one. -/
inductive BlockOutcome where
  | accepted (head : ChainHead) (stateRoot : Hash)
  | rejected (message : String) (tag : Option ExceptionTag)
  | undecodable (error : String)
  | timedOut
  deriving DecidableEq

/-- Something that imports blocks. It starts from a state and a genesis block, applies a
block to the parent that the block names, reads back the state at its head (all of it, or as
much as the hint names), and moves its head back to a block that it holds. -/
structure BlockTarget (σ : Type) where
  start : Fork → Alloc → Header → Call σ (FaultOr Genesis)
  apply : Block → Bytes → Call σ (FaultOr BlockOutcome)
  readState : Alloc → Call σ (FaultOr Alloc)
  resetTo : Hash → Call σ (FaultOr Unit)

instance {σ : Type} : Coe (BlockTarget σ) (Nat → BlockTarget σ) := ⟨fun t _ => t⟩

end ChainConformance
