import ChainConformance.OrderedMap
import ChainConformance.Text.Hex
import ChainConformance.Text.Integer

/-!
# Machine words

The 256-bit words of the execution layer: balances, storage slots, header quantities.
-/

namespace ChainConformance

abbrev Word := BitVec 256

namespace Word

instance : Key Word := Key.ofRank BitVec.toNat (fun _ _ h => BitVec.eq_of_toNat_eq h)

/-- The written form: `0x` and the hexadecimal digits without leading zeros. -/
def toHex (w : Word) : String := Hex.encodeNatural w.toNat

def toDecimal (w : Word) : String := toString w.toNat

/-- The value as a 64-bit number, the greatest of them if it is larger. -/
def saturated (w : Word) : UInt64 := UInt64.ofNat (min w.toNat (UInt64.size - 1))

/-- Sum of digits to `base` below `bound`. Underscores between digits do not count. -/
def readDigits (base bound : Nat) : Nat → List Char → Option Nat
  | n, [] => some n
  | n, '_' :: rest => readDigits base bound n rest
  | n, c :: rest =>
    match Text.digitIn? base c with
    | none => none
    | some d =>
      if n * base + d < bound then readDigits base bound (n * base + d) rest else none

/-- Reads a number below `bound`: the base is named by `0x`, `0o` or `0b` in front and is
ten without them; no digits at all make zero. -/
def readNatural (bound : Nat) : List Char → Option Nat
  | '0' :: 'x' :: rest => readDigits 16 bound 0 rest
  | '0' :: 'X' :: rest => readDigits 16 bound 0 rest
  | '0' :: 'o' :: rest => readDigits 8 bound 0 rest
  | '0' :: 'O' :: rest => readDigits 8 bound 0 rest
  | '0' :: 'b' :: rest => readDigits 2 bound 0 rest
  | '0' :: 'B' :: rest => readDigits 2 bound 0 rest
  | digits => readDigits 10 bound 0 digits

def ofText? (s : String) : Option Word :=
  (readNatural (Nat.pow 2 256) s.toList).map (BitVec.ofNat 256)

end Word

def hexOfUInt64 (n : UInt64) : String := Hex.encodeNatural n.toNat

def uint64OfText? (s : String) : Option UInt64 :=
  (Word.readNatural UInt64.size s.toList).map UInt64.ofNat

end ChainConformance
