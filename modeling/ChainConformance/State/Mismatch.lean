import ChainConformance.Account
import ChainConformance.Address
import ChainConformance.Block

/-!
# Mismatches

What an observed state or head has other than the one expected: one entry for each
difference, in the order of addresses and, in an account, of balance, nonce, code and slots.
-/

namespace ChainConformance

/-- One difference between an expected and an observed state. -/
inductive Mismatch where
  | balance (address : Address) (expected observed : Word)
  | nonce (address : Address) (expected observed : Word)
  | code (address : Address) (expected observed : Bytes)
  | slot (address : Address) (key expected observed : Word)
  | missingAccount (address : Address)
  | unexpectedAccount (address : Address)
  deriving DecidableEq

namespace Mismatch

def display : Mismatch → String
  | balance a e o => a.checksummed ++ ": balance expected " ++ e.toDecimal ++
      ", got " ++ o.toDecimal
  | nonce a e o => a.checksummed ++ ": nonce expected " ++ e.toDecimal ++
      ", got " ++ o.toDecimal
  | code a e o => a.checksummed ++ ": code expected " ++ Hex.encode e ++
      ", got " ++ Hex.encode o
  | slot a k e o => a.checksummed ++ ": storage[" ++ k.toHex ++ "] expected " ++ e.toHex ++
      ", got " ++ o.toHex
  | missingAccount a => a.checksummed ++ ": account missing"
  | unexpectedAccount a => a.checksummed ++ ": unexpected account"

def ofSlot (address : Address) (expected observed : Account) (key : Word) : List Mismatch :=
  if expected.slot key = observed.slot key then []
  else [.slot address key (expected.slot key) (observed.slot key)]

def ofAccounts (address : Address) (expected observed : Account) : List Mismatch :=
  (if expected.balance = observed.balance then []
    else [.balance address expected.balance observed.balance]) ++
  (if expected.nonce = observed.nonce then []
    else [.nonce address expected.nonce observed.nonce]) ++
  (if expected.code = observed.code then []
    else [.code address expected.code observed.code]) ++
  (expected.storage.unionKeys observed.storage).flatMap (ofSlot address expected observed)

def ofAddress (expected observed : Alloc) (address : Address) : List Mismatch :=
  match expected.get? address, observed.get? address with
  | some e, some o => ofAccounts address e o
  | some _, none => [.missingAccount address]
  | none, some _ => [.unexpectedAccount address]
  | none, none => []

def ofStates (expected observed : Alloc) : List Mismatch :=
  (expected.unionKeys observed).flatMap (ofAddress expected observed)

def report (ms : List Mismatch) : String := "\n".intercalate (ms.map display)

end Mismatch

def ChainHead.mismatch? (expected observed : ChainHead) : Option String :=
  if expected = observed then none
  else some ("head mismatch: expected " ++ expected.display ++ ", got " ++ observed.display)

end ChainConformance
