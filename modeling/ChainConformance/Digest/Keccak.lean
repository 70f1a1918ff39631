import ChainConformance.Bytes

/-!
# Keccak-256

The Keccak sponge with 1088 bits of rate and a digest of 256 bits. The state is a square of
five by five lanes of 64 bits; the lane at column `x` and row `y` has the index `x + 5 y`.
-/

namespace ChainConformance

namespace Keccak

abbrev State := Vector UInt64 25

/-- The lane at a column and a row, both taken modulo five. -/
def State.lane (s : State) (x y : Nat) : UInt64 :=
  s.get ⟨x % 5 + 5 * (y % 5), by omega⟩

def rotate (w : UInt64) (n : UInt64) : UInt64 := (w <<< n) ||| (w >>> (64 - n))

def offsets : Vector UInt64 25 := #v[
  0, 1, 62, 28, 27,
  36, 44, 6, 55, 20,
  3, 10, 43, 25, 39,
  41, 45, 15, 21, 8,
  18, 2, 61, 56, 14]

def roundConstants : List UInt64 := [
  0x0000000000000001, 0x0000000000008082, 0x800000000000808A, 0x8000000080008000,
  0x000000000000808B, 0x0000000080000001, 0x8000000080008081, 0x8000000000008009,
  0x000000000000008A, 0x0000000000000088, 0x0000000080008009, 0x000000008000000A,
  0x000000008000808B, 0x800000000000008B, 0x8000000000008089, 0x8000000000008003,
  0x8000000000008002, 0x8000000000000080, 0x000000000000800A, 0x800000008000000A,
  0x8000000080008081, 0x8000000000008080, 0x0000000080000001, 0x8000000080008008]

def theta (s : State) : State :=
  let parity : Vector UInt64 5 := Vector.ofFn fun x =>
    s.lane x 0 ^^^ s.lane x 1 ^^^ s.lane x 2 ^^^ s.lane x 3 ^^^ s.lane x 4
  Vector.ofFn fun (i : Fin 25) =>
    s[i] ^^^ parity.get ⟨(i.val + 4) % 5, by omega⟩ ^^^
      rotate (parity.get ⟨(i.val + 1) % 5, by omega⟩) 1

def rhoPi (s : State) : State :=
  Vector.ofFn fun (i : Fin 25) =>
    let x := i.val % 5
    let y := i.val / 5
    rotate (s.lane (x + 3 * y) x) (State.lane offsets (x + 3 * y) x)

def chi (s : State) : State :=
  Vector.ofFn fun (i : Fin 25) =>
    let y := i.val / 5
    s[i] ^^^ (~~~ s.lane (i.val + 1) y &&& s.lane (i.val + 2) y)

def round (s : State) (constant : UInt64) : State :=
  let s := chi (rhoPi (theta s))
  s.set 0 (s[0] ^^^ constant)

def permute (s : State) : State := roundConstants.foldl round s

def rate : Nat := 136

def laneOfBytes (bs : Bytes) : UInt64 :=
  bs.foldr (fun b n => (n <<< 8) ||| b.toUInt64) 0

def bytesOfLane (w : UInt64) : Bytes :=
  (List.range 8).map fun i => (w >>> (8 * UInt64.ofNat i)).toUInt8

def absorb (s : State) (block : Bytes) : State :=
  permute (Vector.ofFn fun (i : Fin 25) =>
    s[i] ^^^ laneOfBytes ((block.drop (8 * i.val)).take 8))

def padding (length : Nat) : Bytes :=
  match rate - length % rate with
  | 1 => [0x81]
  | n => 1 :: (List.replicate (n - 2) 0 ++ [0x80])

def absorbBlocks : Nat → State → Bytes → State
  | 0, s, _ => s
  | n + 1, s, bs => absorbBlocks n (absorb s (bs.take rate)) (bs.drop rate)

def sponge (message : Bytes) : State :=
  let padded := message ++ padding message.length
  absorbBlocks (padded.length / rate) (Vector.replicate 25 0) padded

end Keccak

def keccak256 (message : Bytes) : Hash :=
  let s := Keccak.sponge message
  ⟨Keccak.bytesOfLane s[0] ++ Keccak.bytesOfLane s[1] ++ Keccak.bytesOfLane s[2] ++
    Keccak.bytesOfLane s[3], by simp [Keccak.bytesOfLane]⟩

end ChainConformance
