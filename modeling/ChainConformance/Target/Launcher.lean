import ChainConformance.Target.Engine

/-!
# Launchers

A launcher starts clients and stops them. It has a state of its own beside those of its
clients; a call to a client is made on both.
-/

namespace ChainConformance

/-- What a client is started with. The label is for whatever keeps account of the clients. -/
structure ClientSpec where
  client : String
  fork : Fork
  genesis : Header
  pre : Alloc
  chainId : Word
  label : String

/-- Something that starts and stops clients. -/
structure Launcher (ω σ : Type) where
  start : ClientSpec → Call ω (FaultOr σ)
  stop : σ → Call ω (FaultOr Unit)
  client : EngineTarget (ω × σ)

end ChainConformance
