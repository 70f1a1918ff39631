import ChainConformance.Fixture.Fault

/-!
# Faults of runs

What can keep a fixture from being run, or a call to a target from being answered.
-/

namespace ChainConformance

/-- What can go wrong with a call, or with a fixture before it is run. -/
inductive RunFault where
  | fixture (fault : FixtureFault)
  | rpc (code : Int) (message : String)
  | transport (error : String)
  | tool (name status stderr : String)
  | skipped
  | other (error : String)
  deriving Repr, DecidableEq

namespace RunFault

def message : RunFault → String
  | fixture fault => fault.message
  | rpc code message => "JSON-RPC error " ++ toString code ++ ": " ++ message
  | transport error => "Transport error: " ++ error
  | tool name status stderr => name ++ " exited with " ++ status ++ ": " ++ stderr
  | skipped => "test skipped"
  | other error => error

def ofFile (path : String) (why : Files.Fault) : RunFault := fixture (.file path why.message)

def ofJson (fault : Json.Fault) : RunFault := other (Unreadable.json fault).message

end RunFault

abbrev FaultOr (α : Type) := Except RunFault α

end ChainConformance
