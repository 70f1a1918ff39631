import ChainConformance.Bytes
import ChainConformance.Word

/-!
# Recursive length prefix

The encoding of strings of bytes and of lists. In front of an item stands its lead, which
says whether it is a list and how long its payload is; a single byte below 0x80 is its own
encoding. Each value has one encoding, and a decoder takes no other: it gives the value and
the bytes that follow it.
-/

namespace ChainConformance.Rlp

/-- Why bytes are not the encoding of what is wanted. -/
inductive Fault where
  | overflow
  | leadingZero
  | inputTooShort
  | nonCanonicalSingleByte
  | nonCanonicalSize
  | unexpectedLength
  | unexpectedString
  | unexpectedList
  | listLength (expected found : Nat)
  | blockLength
  | trailingFields
  deriving Repr, DecidableEq

def Fault.message : Fault → String
  | overflow => "overflow"
  | leadingZero => "leading zero"
  | inputTooShort => "input too short"
  | nonCanonicalSingleByte => "non-canonical single byte"
  | nonCanonicalSize => "non-canonical size"
  | unexpectedLength => "unexpected length"
  | unexpectedString => "unexpected string"
  | unexpectedList => "unexpected list"
  | listLength expected found =>
    "unexpected list length (got " ++ toString found ++ ", expected " ++
      toString expected ++ ")"
  | blockLength => "block length does not match payload"
  | trailingFields => "unexpected trailing block fields"

/-- What stands in front of an item. -/
structure Lead where
  isList : Bool
  length : Nat
  deriving Repr, DecidableEq

def encodeLead (l : Lead) : Bytes :=
  let base : Nat := if l.isList then 0xC0 else 0x80
  if l.length < 56 then [UInt8.ofNat (base + l.length)]
  else
    let size := toBigEndian l.length
    UInt8.ofNat (base + 55 + size.length) :: size

def lengthOfLead (length : Nat) : Nat :=
  if length < 56 then 1 else 1 + (toBigEndian length).length

/-- The lead of a long item: its length is given by the next `count` bytes. -/
def decodeLongLead (isList : Bool) (count : Nat) (rest : Bytes) : Except Fault (Lead × Bytes) :=
  if rest.length < count then .error .inputTooShort
  else
    let size := rest.take count
    if size.head? = some 0 then .error .leadingZero
    else if ofBigEndian size < 56 then .error .nonCanonicalSize
    else .ok (⟨isList, ofBigEndian size⟩, rest.drop count)

/-- Splits bytes after the lead of the item in front of them. A single byte below 0x80 has
an empty lead. -/
def decodeLeadOnly : Bytes → Except Fault (Lead × Bytes)
  | [] => .error .inputTooShort
  | b :: rest =>
    let n := b.toNat
    if n < 0x80 then .ok (⟨false, 1⟩, b :: rest)
    else if n < 0xB8 then
      if n = 0x81 then
        match rest with
        | [] => .error .inputTooShort
        | c :: _ =>
          if c.toNat < 0x80 then .error .nonCanonicalSingleByte
          else .ok (⟨false, 1⟩, rest)
      else .ok (⟨false, n - 0x80⟩, rest)
    else if n < 0xC0 then decodeLongLead false (n - 0xB7) rest
    else if n < 0xF8 then .ok (⟨true, n - 0xC0⟩, rest)
    else decodeLongLead true (n - 0xF7) rest

/-- The lead of the item in front, which must be there in full, and the bytes from its
payload on. -/
def decodeLead (bs : Bytes) : Except Fault (Lead × Bytes) := do
  let (lead, rest) ← decodeLeadOnly bs
  if rest.length < lead.length then .error .inputTooShort else return (lead, rest)

def decodeString (bs : Bytes) : Except Fault (Bytes × Bytes) := do
  let (lead, rest) ← decodeLead bs
  if lead.isList then .error .unexpectedList
  else return (rest.take lead.length, rest.drop lead.length)

def decodeListPayload (bs : Bytes) : Except Fault (Bytes × Bytes) := do
  let (lead, rest) ← decodeLead bs
  if lead.isList then return (rest.take lead.length, rest.drop lead.length)
  else .error .unexpectedString

def encodeString (bs : Bytes) : Bytes :=
  match bs with
  | [b] => if b.toNat < 0x80 then [b] else encodeLead ⟨false, 1⟩ ++ [b]
  | bs => encodeLead ⟨false, bs.length⟩ ++ bs

def lengthOfString (bs : Bytes) : Nat :=
  match bs with
  | [b] => if b.toNat < 0x80 then 1 else 2
  | bs => lengthOfLead bs.length + bs.length

def encodeList (payload : Bytes) : Bytes := encodeLead ⟨true, payload.length⟩ ++ payload

def encodeNatural (n : Nat) : Bytes := encodeString (toBigEndian n)

def lengthOfNatural (n : Nat) : Nat :=
  if n < 0x80 then 1 else 1 + (toBigEndian n).length

def decodeNatural (width : Nat) (bs : Bytes) : Except Fault (Nat × Bytes) := do
  let (payload, rest) ← decodeString bs
  if payload.head? = some 0 then .error .leadingZero
  else if width < payload.length then .error .overflow
  else return (ofBigEndian payload, rest)

def encodeWord (w : Word) : Bytes := encodeNatural w.toNat

def decodeWord (bs : Bytes) : Except Fault (Word × Bytes) := do
  let (n, rest) ← decodeNatural 32 bs
  return (BitVec.ofNat 256 n, rest)

def encodeUInt64 (n : UInt64) : Bytes := encodeNatural n.toNat

def decodeUInt64 (bs : Bytes) : Except Fault (UInt64 × Bytes) := do
  let (n, rest) ← decodeNatural 8 bs
  return (UInt64.ofNat n, rest)

def encodeFixed {n : Nat} (a : FixedBytes n) : Bytes := encodeString a.bytes

def decodeFixed {n : Nat} (bs : Bytes) : Except Fault (FixedBytes n × Bytes) := do
  let (payload, rest) ← decodeString bs
  match FixedBytes.ofBytes? payload with
  | some a => return (a, rest)
  | none => .error .unexpectedLength

def decodeItems {α : Type} (item : Bytes → Except Fault (α × Bytes)) :
    Nat → Bytes → Except Fault (List α)
  | _, [] => .ok []
  | 0, _ :: _ => .ok []
  | fuel + 1, bs => do
    let (a, rest) ← item bs
    let others ← decodeItems item fuel rest
    return a :: others

def decodeList {α : Type} (item : Bytes → Except Fault (α × Bytes)) (bs : Bytes) :
    Except Fault (List α × Bytes) := do
  let (payload, rest) ← decodeListPayload bs
  let items ← decodeItems item payload.length payload
  return (items, rest)

end ChainConformance.Rlp
