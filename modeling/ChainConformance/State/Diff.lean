import ChainConformance.Account

/-!
# Changes between states

The changes that turn one state into another, and their application. Accounts that differ
in zero slots alone are not changed.
-/

namespace ChainConformance.AllocDiff

def isChanged (base : Alloc) (address : Address) (account : Account) : Bool :=
  match base.get? address with
  | some previous => previous.normalized ≠ account.normalized
  | none => true

def between (base target : Alloc) : AllocDiff :=
  let changed := (target.filter (isChanged base)).mapValues some
  base.keys.foldl
    (fun diff address =>
      if target.contains address then diff else diff.insert address none)
    changed

def applyChange (s : Alloc) (address : Address) : Option Account → Alloc
  | some account => s.insert address account
  | none => s.erase address

def apply (diff : AllocDiff) (base : Alloc) : Alloc :=
  diff.entries.foldl (fun s e => applyChange s e.1 e.2) base

def ofJson : Json → Json.Read AllocDiff :=
  Json.readMap Json.fixedOfName (Json.readOption Account.ofJson)

def toJson (diff : AllocDiff) : Json :=
  Json.ofMap FixedBytes.toHex (Json.ofOption Account.toJson) diff

end ChainConformance.AllocDiff
