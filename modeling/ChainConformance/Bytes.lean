import ChainConformance.OrderedMap
import ChainConformance.Text.Hex

/-!
# Strings of bytes

Numbers as bytes with the most significant one first, and strings of bytes whose length is
part of their type: hashes, addresses and the like.
-/

namespace ChainConformance

def bytesOfText (s : String) : Bytes := s.toUTF8.toList

def textOfBytes? (bs : Bytes) : Option String := String.fromUTF8? ⟨bs.toArray⟩

/-- The number whose digits to base 256 are the bytes, the first one the most significant. -/
def ofBigEndian (bs : Bytes) : Nat := bs.foldl (fun n b => n * 256 + b.toNat) 0

/-- The bytes of a number, the first one not zero. Zero has no bytes. -/
def toBigEndian (n : Nat) : Bytes :=
  if _ : n = 0 then [] else toBigEndian (n / 256) ++ [UInt8.ofNat (n % 256)]
termination_by n
decreasing_by omega

structure FixedBytes (n : Nat) where
  bytes : Bytes
  length_eq : bytes.length = n

namespace FixedBytes

variable {n : Nat}

theorem ext_iff {a b : FixedBytes n} : a = b ↔ a.bytes = b.bytes := by
  cases a; cases b; simp

instance : DecidableEq (FixedBytes n) := fun _ _ => decidable_of_iff _ ext_iff.symm

def zero : FixedBytes n := ⟨List.replicate n 0, by simp⟩

instance : Inhabited (FixedBytes n) := ⟨zero⟩

def ofBytes? (bs : Bytes) : Option (FixedBytes n) :=
  if h : bs.length = n then some ⟨bs, h⟩ else none

def replicate (b : UInt8) : FixedBytes n := ⟨List.replicate n b, by simp⟩

/-- Strings of one length are ordered by the first byte in which they differ. -/
instance : Key (FixedBytes n) where
  decEq := inferInstance
  before a b := a.bytes < b.bytes
  before_irrefl a := by simp [List.lt_irrefl]
  before_trans h h' := by
    simp only [decide_eq_true_eq] at *
    exact List.lt_trans h h'
  before_total a b h := by
    simp only [decide_eq_true_eq]
    by_cases hab : a.bytes < b.bytes
    · exact Or.inl hab
    · by_cases hba : b.bytes < a.bytes
      · exact Or.inr hba
      · exact absurd (ext_iff.2 (List.le_antisymm hba hab)) h

def toHex (a : FixedBytes n) : String := Hex.encode a.bytes

end FixedBytes

abbrev Hash := FixedBytes 32

abbrev Address := FixedBytes 20

abbrev Bloom := FixedBytes 256

abbrev SealNonce := FixedBytes 8

end ChainConformance
