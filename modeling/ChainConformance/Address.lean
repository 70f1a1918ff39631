import ChainConformance.Digest.Keccak

/-!
# Addresses in messages

Messages show an address with a checksum in the case of its letters: a letter is large when
the digit of the digest at the same place is eight or more.
-/

namespace ChainConformance.Address

def halves (bs : Bytes) : List Nat := bs.flatMap fun b => [b.toNat / 16, b.toNat % 16]

def checksummed (a : Address) : String :=
  let letters := Hex.plain a.bytes
  let digest := keccak256 (letters.map fun c => UInt8.ofNat c.toNat)
  let marked := (letters.zip (halves digest.bytes)).map fun (c, n) =>
    if 8 ≤ n then c.toUpper else c
  String.ofList ('0' :: 'x' :: marked)

end ChainConformance.Address
