/-!
# Bytes in hexadecimal

Two digits for each byte, the high half first. Writing puts `0x` in front and uses small
letters; reading takes either case and does not ask for the `0x`.
-/

namespace ChainConformance

abbrev Bytes := List UInt8

namespace Hex

/-- Why a text is not the hexadecimal form of a string of bytes. The second reason holds
the offending byte and how many bytes after the `0x` stand before it. -/
inductive Fault where
  | oddLength
  | badByte (byte : UInt8) (position : Nat)
  deriving Repr, DecidableEq

def digit (n : Nat) : Char :=
  if n < 10 then Char.ofNat ('0'.toNat + n) else Char.ofNat ('a'.toNat + (n - 10))

def digits (b : UInt8) : List Char := [digit (b.toNat / 16), digit (b.toNat % 16)]

/-- The digits of the bytes in order, without a mark in front. -/
def plain (bs : Bytes) : List Char := bs.flatMap digits

def encode (bs : Bytes) : String := String.ofList ('0' :: 'x' :: plain bs)

def naturalDigits (n : Nat) : List Char := Nat.toDigits 16 n

def encodeNatural (n : Nat) : String := String.ofList ('0' :: 'x' :: naturalDigits n)

def digitValue? (b : UInt8) : Option UInt8 :=
  if 48 ≤ b ∧ b ≤ 57 then some (b - 48)
  else if 97 ≤ b ∧ b ≤ 102 then some (b - 87)
  else if 65 ≤ b ∧ b ≤ 70 then some (b - 55)
  else none

def decodePairs : Nat → List UInt8 → Except Fault Bytes
  | position, high :: low :: rest =>
    match digitValue? high, digitValue? low with
    | none, _ => .error (.badByte high position)
    | some _, none => .error (.badByte low (position + 1))
    | some h, some l => (decodePairs (position + 2) rest).map ((h * 16 + l) :: ·)
  | position, [b] => .error (.badByte b position)
  | _, [] => .ok []

def afterMark : List UInt8 → List UInt8
  | 48 :: 120 :: rest => rest
  | 48 :: 88 :: rest => rest
  | bytes => bytes

/-- Reads a string of bytes from the text whose UTF-8 form is given. -/
def decodeAscii (text : List UInt8) : Except Fault Bytes :=
  if text.length % 2 = 1 then .error .oddLength else decodePairs 0 (afterMark text)

def decode (text : String) : Except Fault Bytes := decodeAscii text.toUTF8.toList

def quoteMark : Char := Char.ofNat 39

/-- How the character with the code `b` is shown between quotes in a message: itself where
it is visible, an escape where it is not. -/
def quotedByte (b : UInt8) : String :=
  let shown : List Char :=
    if b = 0 then ['\\', '0']
    else if b = 9 then ['\\', 't']
    else if b = 10 then ['\\', 'n']
    else if b = 13 then ['\\', 'r']
    else if b = 39 then ['\\', quoteMark]
    else if b = 92 then ['\\', '\\']
    else if b < 32 ∨ (127 ≤ b ∧ b ≤ 160) ∨ b = 173 then
      ['\\', 'u', '\x7b'] ++ naturalDigits b.toNat ++ ['\x7d']
    else [Char.ofNat b.toNat]
  String.ofList (quoteMark :: (shown ++ [quoteMark]))

def Fault.message : Fault → String
  | oddLength => "odd number of digits"
  | badByte b position =>
    "invalid character " ++ quotedByte b ++ " at position " ++ toString position

end Hex

end ChainConformance
