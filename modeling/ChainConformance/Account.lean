import ChainConformance.Json.Reading

/-!
# Accounts

Accounts with their storage, and the states that are made of them. A slot that holds zero
counts as one that is absent.
-/

namespace ChainConformance

abbrev Storage := OrderedMap Word Word

structure Account where
  balance : Word
  code : Bytes
  nonce : Word
  storage : Storage
  deriving DecidableEq, Inhabited

abbrev Alloc := OrderedMap Address Account

/-- Changes to a state: an account that is new or differs, or none where one is gone. -/
abbrev AllocDiff := OrderedMap Address (Option Account)

namespace Account

def slot (a : Account) (key : Word) : Word := (a.storage.get? key).getD 0

def normalized (a : Account) : Account :=
  { a with storage := a.storage.filter fun _ v => v ≠ 0 }

def isEmpty (a : Account) : Bool :=
  a.balance == 0 && a.nonce == 0 && a.code.isEmpty && a.storage.values.all (· == 0)

open Json FieldReader in
def ofJson (j : Json) : Json.Read Account :=
  readRecord (mk <$> defaulted "balance" 0 readWord
    <*> defaulted "code" [] readBytes
    <*> defaulted "nonce" 0 readWord
    <*> defaulted "storage" .empty (readMap wordOfName readWord)) j

open Json in
def toJson (a : Account) : Json :=
  object [
    ("balance", ofWord a.balance),
    ("code", ofBytes a.code),
    ("nonce", ofWord a.nonce),
    ("storage", ofMap Word.toHex ofWord a.storage)]

end Account

namespace Alloc

def normalized (s : Alloc) : Alloc := s.mapValues Account.normalized

def ofJson : Json → Json.Read Alloc := Json.readMap Json.fixedOfName Account.ofJson

def toJson (s : Alloc) : Json := Json.ofMap FixedBytes.toHex Account.toJson s

end Alloc

end ChainConformance
