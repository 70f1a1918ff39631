import ChainConformance.Bytes

/-!
# SHA-256

The digest with blocks of 512 bits and 64 rounds on eight words of 32 bits, and the
authentication codes that are made with it.
-/

namespace ChainConformance

namespace Sha256

def rotate (w n : UInt32) : UInt32 := (w >>> n) ||| (w <<< (32 - n))

def roundConstants : List UInt32 := [
  0x428a2f98, 0x71374491, 0xb5c0fbcf, 0xe9b5dba5, 0x3956c25b, 0x59f111f1, 0x923f82a4,
  0xab1c5ed5, 0xd807aa98, 0x12835b01, 0x243185be, 0x550c7dc3, 0x72be5d74, 0x80deb1fe,
  0x9bdc06a7, 0xc19bf174, 0xe49b69c1, 0xefbe4786, 0x0fc19dc6, 0x240ca1cc, 0x2de92c6f,
  0x4a7484aa, 0x5cb0a9dc, 0x76f988da, 0x983e5152, 0xa831c66d, 0xb00327c8, 0xbf597fc7,
  0xc6e00bf3, 0xd5a79147, 0x06ca6351, 0x14292967, 0x27b70a85, 0x2e1b2138, 0x4d2c6dfc,
  0x53380d13, 0x650a7354, 0x766a0abb, 0x81c2c92e, 0x92722c85, 0xa2bfe8a1, 0xa81a664b,
  0xc24b8b70, 0xc76c51a3, 0xd192e819, 0xd6990624, 0xf40e3585, 0x106aa070, 0x19a4c116,
  0x1e376c08, 0x2748774c, 0x34b0bcb5, 0x391c0cb3, 0x4ed8aa4a, 0x5b9cca4f, 0x682e6ff3,
  0x748f82ee, 0x78a5636f, 0x84c87814, 0x8cc70208, 0x90befffa, 0xa4506ceb, 0xbef9a3f7,
  0xc67178f2]

structure State where
  a : UInt32
  b : UInt32
  c : UInt32
  d : UInt32
  e : UInt32
  f : UInt32
  g : UInt32
  h : UInt32

def State.initial : State := ⟨
  0x6a09e667, 0xbb67ae85, 0x3c6ef372, 0xa54ff53a,
  0x510e527f, 0x9b05688c, 0x1f83d9ab, 0x5be0cd19⟩

def round (s : State) (word constant : UInt32) : State :=
  let sum1 := rotate s.e 6 ^^^ rotate s.e 11 ^^^ rotate s.e 25
  let choice := (s.e &&& s.f) ^^^ (~~~ s.e &&& s.g)
  let t1 := s.h + sum1 + choice + constant + word
  let sum0 := rotate s.a 2 ^^^ rotate s.a 13 ^^^ rotate s.a 22
  let majority := (s.a &&& s.b) ^^^ (s.a &&& s.c) ^^^ (s.b &&& s.c)
  ⟨t1 + (sum0 + majority), s.a, s.b, s.c, s.d + t1, s.e, s.f, s.g⟩

def nextWord (w : Vector UInt32 16) : UInt32 :=
  let low := w[1]
  let high := w[14]
  let sigma0 := rotate low 7 ^^^ rotate low 18 ^^^ (low >>> 3)
  let sigma1 := rotate high 17 ^^^ rotate high 19 ^^^ (high >>> 10)
  w[0] + sigma0 + w[9] + sigma1

def shift (w : Vector UInt32 16) (last : UInt32) : Vector UInt32 16 :=
  Vector.ofFn fun (i : Fin 16) =>
    if h : i.val + 1 < 16 then w.get ⟨i.val + 1, h⟩ else last

def rounds (s : State) (w : Vector UInt32 16) : List UInt32 → State
  | [] => s
  | k :: rest => rounds (round s w[0] k) (shift w (nextWord w)) rest

def State.add (s t : State) : State :=
  ⟨s.a + t.a, s.b + t.b, s.c + t.c, s.d + t.d, s.e + t.e, s.f + t.f, s.g + t.g, s.h + t.h⟩

def wordOfBytes (bs : Bytes) : UInt32 := bs.foldl (fun n b => (n <<< 8) ||| b.toUInt32) 0

def bytesOfWord (w : UInt32) : Bytes :=
  [(w >>> 24).toUInt8, (w >>> 16).toUInt8, (w >>> 8).toUInt8, w.toUInt8]

def compress (s : State) (block : Bytes) : State :=
  let words := Vector.ofFn fun (i : Fin 16) => wordOfBytes ((block.drop (4 * i.val)).take 4)
  s.add (rounds s words roundConstants)

/-- The bytes after a message that fill its last block and tell its length in bits. -/
def padding (length : Nat) : Bytes :=
  let digits := toBigEndian (8 * length)
  0x80 :: (List.replicate ((119 - length % 64) % 64) 0 ++
    (List.replicate (8 - digits.length) 0 ++ digits))

def compressBlocks : Nat → State → Bytes → State
  | 0, s, _ => s
  | n + 1, s, bs => compressBlocks n (compress s (bs.take 64)) (bs.drop 64)

end Sha256

open Sha256 in
def sha256 (message : Bytes) : Hash :=
  let padded := message ++ padding message.length
  let s := compressBlocks (padded.length / 64) .initial padded
  ⟨bytesOfWord s.a ++ bytesOfWord s.b ++ bytesOfWord s.c ++ bytesOfWord s.d ++
    bytesOfWord s.e ++ bytesOfWord s.f ++ bytesOfWord s.g ++ bytesOfWord s.h,
    by simp [bytesOfWord]⟩

/-- The authentication code of a message under a secret that is no longer than a block. -/
def hmacSha256 (secret message : Bytes) : Hash :=
  let key := secret ++ List.replicate (64 - secret.length) 0
  let inner := sha256 (key.map (· ^^^ 0x36) ++ message)
  sha256 (key.map (· ^^^ 0x5c) ++ inner.bytes)

end ChainConformance
