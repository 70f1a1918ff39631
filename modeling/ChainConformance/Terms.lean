import ChainConformance.Exception.Mapper
import ChainConformance.Verdict

/-!
# Terms of a run

Under what terms fixtures are run: whose messages are read and how strictly they are judged,
how long calls may take, and when the run is cancelled.
-/

namespace ChainConformance

/-- The terms of a run. Times are in milliseconds; `cancelAt` is a time on the clock. -/
structure Terms where
  mapper : ExceptionMapper
  client : String
  policy : MatchPolicy := .strict
  callTimeout : Nat := 60000
  syncTimeout : Nat := 10000
  pollInterval : Nat := 100
  cancelAt : Option Nat := none

namespace Terms

def classify (t : Terms) (message : String) (fork : Fork) : Classification :=
  t.mapper.classify message t.client (some fork)

/-- Judges the rejection of a block: one that is expected and that the policy admits is no
failure. -/
def judgeRejection (t : Terms) (index : Nat) (expected : Option ExceptionSet)
    (message : String) (c : Classification) : Except Failure Unit :=
  match expected with
  | none => .error {
      kind := .unexpectedRejection, block := some index, message := some message
      classification := some c }
  | some set =>
    if t.policy.admits set c then .ok ()
    else .error {
      kind := if c = .unmapped then .unmappedException else .wrongExceptionReason
      block := some index, message := some message, expected := some set
      classification := some c }

end Terms

/-- Judges a state that was read back: every difference is a mismatch. -/
def judgeState (expected observed : Alloc) : Except Failure Unit :=
  let ms := Mismatch.ofStates expected observed
  if ms.isEmpty then .ok ()
  else .error {
    kind := .stateMismatch, message := some (toString ms.length ++ " mismatches")
    mismatches := some ms }

def judgeHead (expected observed : ChainHead) : Except Failure Unit :=
  match expected.mismatch? observed with
  | none => .ok ()
  | some text => .error { kind := .headMismatch, message := some text }

def judgeRoot (expected observed : Hash) : Except Failure Unit :=
  if expected = observed then .ok ()
  else .error {
    kind := .stateMismatch
    message := some ("post state root expected " ++ expected.toHex ++ ", got " ++
      observed.toHex) }

end ChainConformance
