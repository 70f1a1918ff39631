import ChainConformance.Exception.Set
import ChainConformance.Text.LowerCase

/-!
# Match policies

How an observed rejection is judged against the exceptions that a fixture expects.
-/

namespace ChainConformance

/-- What a client's message says: one of the tags, or nothing that is known. -/
inductive Classification where
  | mapped (tag : ExceptionTag)
  | unmapped
  deriving Repr, DecidableEq

def Classification.tag? : Classification → Option ExceptionTag
  | mapped t => some t
  | unmapped => none

/-- How strictly a rejection is judged. Under the strict policy its message must say one of
the expected tags. Under a relaxed policy any rejection will do, and a block that cannot be
decoded will do if the policy accepts decode failures. -/
inductive MatchPolicy where
  | strict
  | relaxed (acceptDecodeFailure : Bool)
  deriving Repr, DecidableEq, Inhabited

namespace MatchPolicy

/-- Reads a policy. One that is unknown is given back as it was compared. -/
def ofText (s : String) : Except String MatchPolicy :=
  let name := Text.toLower (Text.trim s)
  if name = "strict" then .ok strict
  else if name = "relaxed" then .ok (relaxed false)
  else if name = "relaxed-with-decode" then .ok (relaxed true)
  else .error name

def admits (p : MatchPolicy) (expected : ExceptionSet) (observed : Classification) : Bool :=
  match observed, p with
  | _, relaxed _ => true
  | .mapped t, strict => expected.contains t
  | .unmapped, strict => false

def admitsDecodeFailure (p : MatchPolicy) (expected : ExceptionSet) : Bool :=
  expected.admitsDecodeFailure || p == relaxed true

end MatchPolicy

end ChainConformance
