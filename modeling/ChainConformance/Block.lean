import ChainConformance.Header.Encoding

/-!
# Blocks

A block is the list of its header, its transactions, the headers of its uncles and, after
Shanghai, its withdrawals. Transactions are kept as bytes: a nested list with its lead, a
string without.
-/

namespace ChainConformance

/-- A payment of the consensus layer to an account. -/
structure Withdrawal where
  index : UInt64
  validatorIndex : UInt64
  address : Address
  amount : UInt64
  deriving DecidableEq, Inhabited

namespace Withdrawal

open Json FieldReader in
def ofJson (j : Json) : Json.Read Withdrawal :=
  readRecord (mk <$> required "index" readUInt64
    <*> required "validatorIndex" readUInt64
    <*> required "address" readFixed
    <*> required "amount" readUInt64) j

open Json in
def toJson (w : Withdrawal) : Json :=
  object [
    ("index", ofUInt64 w.index),
    ("validatorIndex", ofUInt64 w.validatorIndex),
    ("address", ofFixed w.address),
    ("amount", ofUInt64 w.amount)]

open Rlp

def encode (w : Withdrawal) : Bytes :=
  encodeList (encodeUInt64 w.index ++ encodeUInt64 w.validatorIndex ++
    encodeFixed w.address ++ encodeUInt64 w.amount)

/-- Reads a withdrawal. Its fields are read from all the bytes that follow the lead, and
must then be as long as the lead says. -/
def decode (bs : Bytes) : Except Fault (Withdrawal × Bytes) := do
  let (lead, rest) ← decodeLead bs
  if !lead.isList then throw .unexpectedString
  let (index, left) ← decodeUInt64 rest
  let (validatorIndex, left) ← decodeUInt64 left
  let (address, left) ← decodeFixed left
  let (amount, left) ← decodeUInt64 left
  let used := rest.length - left.length
  if used = lead.length then return (⟨index, validatorIndex, address, amount⟩, left)
  else .error (.listLength lead.length used)

end Withdrawal

/-- The end of a chain: the hash and the number of its last block. -/
structure ChainHead where
  hash : Hash
  number : UInt64
  deriving DecidableEq, Inhabited

namespace ChainHead

def display (h : ChainHead) : String :=
  "#" ++ toString h.number.toNat ++ " (" ++ h.hash.toHex ++ ")"

open Json in
def toJson (h : ChainHead) : Json :=
  object [("hash", ofFixed h.hash), ("number", integer h.number.toNat)]

open Json FieldReader in
def ofJson (j : Json) : Json.Read ChainHead :=
  readRecord (mk <$> required "hash" readFixed
    <*> required "number" (fun j => (readNatural j).map UInt64.ofNat)) j

end ChainHead

structure Block where
  header : Header
  /-- The hash of the header's bytes as they stand in the encoding. -/
  hash : Hash
  transactions : List Bytes
  uncles : List Header
  withdrawals : Option (List Withdrawal)
  deriving DecidableEq, Inhabited

namespace Block

open Rlp

def number (b : Block) : UInt64 := b.header.number64

def parentHash (b : Block) : Hash := b.header.parentHash

def head (b : Block) : ChainHead := ⟨b.hash, b.number⟩

/-- Reads an item of any kind: a list with its lead, a string without. -/
def decodeRawItem (bs : Bytes) : Except Fault (Bytes × Bytes) := do
  let (lead, rest) ← decodeLead bs
  let leadLength := bs.length - rest.length
  if lead.isList then
    return (bs.take (leadLength + lead.length), rest.drop lead.length)
  else return (rest.take lead.length, rest.drop lead.length)

def decodeRawItems (bs : Bytes) : Except Fault (List Bytes × Bytes) := decodeList decodeRawItem bs

def decodeParts (bs : Bytes) : Except Fault Block := do
  let (header, rest) ← Header.decode bs
  let hash := keccak256 (bs.take (bs.length - rest.length))
  let (transactions, rest) ← decodeRawItems rest
  let (uncles, rest) ← decodeList Header.decode rest
  let (withdrawals, rest) ← Header.decodeOptional (decodeList Withdrawal.decode) rest
  if rest.isEmpty then return ⟨header, hash, transactions, uncles, withdrawals⟩
  else .error .trailingFields

def decode (bs : Bytes) : Except Fault Block := do
  let (lead, rest) ← decodeLead bs
  if !lead.isList then throw .unexpectedString
  if rest.length = lead.length then decodeParts rest else .error .blockLength

end Block

end ChainConformance
