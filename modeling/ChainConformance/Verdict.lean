import ChainConformance.Exception.Policy
import ChainConformance.RunFault
import ChainConformance.State.Mismatch

/-!
# Verdicts

A fixture passes, or fails for a reason that is kept with what is needed to look into it.
-/

namespace ChainConformance

inductive FailureKind where
  | setupError
  | decodeError (expected : Option ExceptionSet)
  | unexpectedAcceptance
  | unexpectedRejection
  | wrongExceptionReason
  | unmappedException
  | protocolErrorMismatch
  | headMismatch
  | stateMismatch
  | timeout
  | clientFault
  | fixtureConstruction
  | cancelled
  deriving DecidableEq

namespace FailureKind

def name : FailureKind → String
  | setupError => "SetupError"
  | decodeError _ => "DecodeError"
  | unexpectedAcceptance => "UnexpectedAcceptance"
  | unexpectedRejection => "UnexpectedRejection"
  | wrongExceptionReason => "WrongExceptionReason"
  | unmappedException => "UnmappedException"
  | protocolErrorMismatch => "ProtocolErrorMismatch"
  | headMismatch => "HeadMismatch"
  | stateMismatch => "StateMismatch"
  | timeout => "Timeout"
  | clientFault => "ClientFault"
  | fixtureConstruction => "FixtureConstruction"
  | cancelled => "Cancelled"

/-- Every kind, with what is expected where a block cannot be decoded. -/
def all (expected : Option ExceptionSet) : List FailureKind := [
  setupError, decodeError expected, unexpectedAcceptance, unexpectedRejection,
  wrongExceptionReason, unmappedException, protocolErrorMismatch, headMismatch,
  stateMismatch, timeout, clientFault, fixtureConstruction, cancelled]

def ofName? (expected : Option ExceptionSet) (s : String) : Option FailureKind :=
  (all expected).find? fun k => k.name = s

/-- Whether the client can no longer be trusted after the failure. -/
def poisonsClient : FailureKind → Bool
  | timeout | clientFault => true
  | _ => false

end FailureKind

/-- The failure of a fixture: its kind, the block or payload that was being processed, what
was said of it, what was expected and how it was classified, and what differs. -/
structure Failure where
  kind : FailureKind
  block : Option Nat := none
  message : Option String := none
  expected : Option ExceptionSet := none
  classification : Option Classification := none
  mismatches : Option (List Mismatch) := none
  deriving DecidableEq

namespace Failure

def display (f : Failure) : String :=
  f.kind.name ++
  (match f.block with
    | some index => " at block " ++ toString index
    | none => "") ++
  (match f.expected with
    | some set => ", expected " ++ set.display
    | none => "") ++
  (match f.classification with
    | some (.mapped tag) => ", classified as " ++ tag.display
    | some .unmapped => ", unmapped"
    | none => "") ++
  (match f.message with
    | some text => ": " ++ text
    | none => "") ++
  (match f.mismatches with
    | some ms => "\n" ++ Mismatch.report ms
    | none => "")

end Failure

inductive Verdict where
  | pass
  | fail (failure : Failure)
  deriving DecidableEq

namespace Verdict

def failure? : Verdict → Option Failure
  | pass => none
  | fail failure => some failure

def isPass (v : Verdict) : Bool := v.failure?.isNone

/-- Whether the client can no longer be trusted after the verdict. -/
def poisonsClient (v : Verdict) : Bool := v.failure?.any (·.kind.poisonsClient)

def ofRun : Except Failure Unit → Verdict
  | .ok () => pass
  | .error failure => fail failure

end Verdict

end ChainConformance
