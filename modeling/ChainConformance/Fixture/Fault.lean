import ChainConformance.Exception.Tag
import ChainConformance.Files
import ChainConformance.Fork
import ChainConformance.Json.Reading
import ChainConformance.Rlp

/-!
# Faults of fixtures

What can be wrong with a fixture, with the file that holds it, or with the tables that
explain the messages of clients.
-/

namespace ChainConformance

/-- Which rule of its own a fixture breaks. -/
inductive Malformation where
  | noPreState
  | diffWithoutGroup
  | mixedForms
  | twoErrors (index : Nat)
  | noPostState
  | unknownPolicy (name : String)
  | described (text : String)
  deriving Repr, DecidableEq

def Malformation.message : Malformation → String
  | noPreState => "fixture has neither pre nor preHash"
  | diffWithoutGroup => "postStateDiff requires a preHash"
  | mixedForms => "fixture mixes blocks and engineNewPayloads"
  | twoErrors index =>
    "payload " ++ toString index ++ " carries both errorCode and validationError"
  | noPostState => "fixture has no postState, postStateDiff or postStateHash"
  | unknownPolicy name => "unknown exception matching policy " ++ name
  | described text => text

/-- What a broken rule of a fixture says of it. -/
def Malformation.display (m : Malformation) : String := "Malformed fixture: " ++ m.message

/-- Why a document cannot be used. -/
inductive Unreadable where
  | json (fault : Json.Fault)
  | yaml
  | fixture (name : String) (why : Malformation)
  | described (text : String)
  deriving Repr, DecidableEq

/-- The wording of the reason. The place in a JSON document is not kept. -/
def Unreadable.message : Unreadable → String
  | json fault => fault.message?.getD "not of the expected form" ++ " at line ? column ?"
  | yaml => "not of the expected form"
  | fixture name why => name ++ ": " ++ why.display
  | described text => text

/-- Why a rule for a client's messages cannot be used. -/
inductive RuleFault where
  | notOnePattern (tag : ExceptionTag)
  | badPattern
  | emptyForkRange (start stop : Fork)
  | described (text : String)
  deriving Repr, DecidableEq

def RuleFault.message : RuleFault → String
  | notOnePattern tag =>
    "rule for " ++ tag.display ++ " needs exactly one of substring or regex"
  | badPattern => "not a pattern"
  | emptyForkRange start stop => "empty fork range " ++ start.name ++ ".." ++ stop.name
  | described text => text

/-- What can be wrong with fixtures and the documents around them. -/
inductive FixtureFault where
  | file (path error : String)
  | unreadable (path : String) (why : Unreadable)
  | rlp (fault : Rlp.Fault)
  | unknownException (name : String)
  | badRule (client : String) (why : RuleFault)
  | malformed (why : Malformation)
  deriving Repr, DecidableEq

def FixtureFault.message : FixtureFault → String
  | file path error =>
    "An error occurred interacting with the file system at " ++ path ++ ": " ++ error
  | unreadable path why =>
    "An error occurred deserializing the fixture at " ++ path ++ ": " ++ why.message
  | rlp fault => "An error occurred deserializing RLP: " ++ fault.message
  | unknownException name => "Unknown exception " ++ name
  | badRule client why =>
    "Invalid exception mapper rule for client " ++ client ++ ": " ++ why.message
  | malformed why => why.display

/-- The text of a file, or the fault of the file. -/
def Files.load (files : Files) (path : String) : Except FixtureFault String :=
  (files.readText path).mapError fun e => .file path e.message

end ChainConformance
