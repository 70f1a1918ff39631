import ChainConformance.OrderedMap

/-!
# Forks

The rule sets of the protocol in the order in which they came. A transition fork changes
from one rule set to the next at a fixed timestamp; what is asked of it without a timestamp
is answered for the rule set that it ends in.
-/

namespace ChainConformance

/-- A rule set, or the change from one rule set to the next. -/
inductive Fork where
  | frontier
  | homestead
  | tangerineWhistle
  | spuriousDragon
  | byzantium
  | constantinople
  | petersburg
  | istanbul
  | berlin
  | london
  | paris
  | shanghai
  | cancun
  | prague
  | osaka
  | parisToShanghai
  | shanghaiToCancun
  | cancunToPrague
  | pragueToOsaka
  deriving Repr, DecidableEq, Inhabited

namespace Fork

/-- The timestamp from which on a transition fork has its new rules. -/
def transitionTimestamp : UInt64 := 15000

def all : List Fork := [
  frontier, homestead, tangerineWhistle, spuriousDragon, byzantium, constantinople,
  petersburg, istanbul, berlin, london, paris, shanghai, cancun, prague, osaka,
  parisToShanghai, shanghaiToCancun, cancunToPrague, pragueToOsaka]

/-- The place of the fork in the order. Transition forks come after all others. -/
def rank : Fork → Nat
  | frontier => 0
  | homestead => 1
  | tangerineWhistle => 2
  | spuriousDragon => 3
  | byzantium => 4
  | constantinople => 5
  | petersburg => 6
  | istanbul => 7
  | berlin => 8
  | london => 9
  | paris => 10
  | shanghai => 11
  | cancun => 12
  | prague => 13
  | osaka => 14
  | parisToShanghai => 15
  | shanghaiToCancun => 16
  | cancunToPrague => 17
  | pragueToOsaka => 18

instance : LT Fork := ⟨fun a b => a.rank < b.rank⟩
instance : LE Fork := ⟨fun a b => a.rank ≤ b.rank⟩
instance (a b : Fork) : Decidable (a < b) := inferInstanceAs (Decidable (a.rank < b.rank))
instance (a b : Fork) : Decidable (a ≤ b) := inferInstanceAs (Decidable (a.rank ≤ b.rank))

def name : Fork → String
  | frontier => "Frontier"
  | homestead => "Homestead"
  | tangerineWhistle => "EIP150"
  | spuriousDragon => "EIP158"
  | byzantium => "Byzantium"
  | constantinople => "Constantinople"
  | petersburg => "ConstantinopleFix"
  | istanbul => "Istanbul"
  | berlin => "Berlin"
  | london => "London"
  | paris => "Paris"
  | shanghai => "Shanghai"
  | cancun => "Cancun"
  | prague => "Prague"
  | osaka => "Osaka"
  | parisToShanghai => "ParisToShanghaiAtTime15k"
  | shanghaiToCancun => "ShanghaiToCancunAtTime15k"
  | cancunToPrague => "CancunToPragueAtTime15k"
  | pragueToOsaka => "PragueToOsakaAtTime15k"

def otherName? : Fork → Option String
  | tangerineWhistle => some "TangerineWhistle"
  | spuriousDragon => some "SpuriousDragon"
  | petersburg => some "Petersburg"
  | paris => some "Merge"
  | _ => none

def ofName? (s : String) : Option Fork :=
  all.find? (fun f => f.name == s || f.otherName? == some s)

def transition? : Fork → Option (Fork × Fork)
  | parisToShanghai => some (paris, shanghai)
  | shanghaiToCancun => some (shanghai, cancun)
  | cancunToPrague => some (cancun, prague)
  | pragueToOsaka => some (prague, osaka)
  | _ => none

def resolved (f : Fork) : Fork :=
  match f.transition? with
  | some (_, target) => target
  | none => f

def atTime (f : Fork) (timestamp : UInt64) : Fork :=
  match f.transition? with
  | some (source, target) => if timestamp < transitionTimestamp then source else target
  | none => f

def isPostMerge (f : Fork) : Bool := paris ≤ f.resolved

def hasWithdrawals (f : Fork) : Bool := shanghai ≤ f.resolved

def hasBlobs (f : Fork) : Bool := cancun ≤ f.resolved

def hasParentBeaconRoot (f : Fork) : Bool := cancun ≤ f.resolved

def hasRequests (f : Fork) : Bool := prague ≤ f.resolved

/-- The lowest version of a new-payload call that has room for every field that the fork
asks for. Before the merge there is none. -/
def payloadVersion? (f : Fork) : Option UInt8 :=
  if !f.isPostMerge then none
  else some (if f.hasRequests then 4 else if f.hasBlobs then 3
    else if f.hasWithdrawals then 2 else 1)

/-- The version of the forkchoice call under the fork. Before the merge there is none. -/
def forkchoiceVersion? (f : Fork) : Option UInt8 :=
  if !f.isPostMerge then none
  else some (if f.hasParentBeaconRoot then 3 else if f.hasWithdrawals then 2 else 1)

end Fork

end ChainConformance
