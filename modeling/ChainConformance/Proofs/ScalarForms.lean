import ChainConformance.Rpc
import ChainConformance.Proofs.HexCodec
import ChainConformance.Proofs.LengthPrefix

/-!
# Scalars in JSON

Words, bytes and strings of fixed length are read back from the text in which they are written,
and so is a word whose bytes are written one for one.
-/

namespace ChainConformance

namespace Word

lemma digitIn?_digitChar {d : Nat} (h : d < 16) :
    Text.digitIn? 16 (Nat.digitChar d) = some d := by
  interval_cases d <;> decide

lemma readDigits_cons {bound n d : Nat} (hd : d < 16) (hbound : n * 16 + d < bound)
    (rest : List Char) :
    readDigits 16 bound n (Nat.digitChar d :: rest) = readDigits 16 bound (n * 16 + d) rest := by
  have hmark : Nat.digitChar d ≠ '_' := by
    intro heq
    have hdigit := digitIn?_digitChar hd
    rw [heq] at hdigit
    cases hdigit
  rw [readDigits.eq_3 _ _ _ _ _ hmark, digitIn?_digitChar hd]
  exact if_pos hbound

lemma readDigits_toDigits {n bound : Nat} (h : n < bound) (rest : List Char) :
    readDigits 16 bound 0 (Nat.toDigits 16 n ++ rest) = readDigits 16 bound n rest := by
  induction n using Nat.strong_induction_on generalizing rest with
  | h n ih =>
    rw [Nat.toDigits_eq_if (by decide)]
    by_cases hn : n < 16
    · rw [if_pos hn, List.singleton_append, readDigits_cons hn (by omega), Nat.zero_mul,
        Nat.zero_add]
    · have hquotient : n / 16 * 16 + n % 16 = n := Nat.div_add_mod' n 16
      have hlast : n % 16 < 16 := Nat.mod_lt n (by decide)
      rw [if_neg hn, List.append_assoc, ih (n / 16) (by omega) (by omega), List.singleton_append,
        readDigits_cons hlast (by omega), hquotient]

lemma readNatural_encodeNatural {n bound : Nat} (h : n < bound) :
    readNatural bound (Hex.encodeNatural n).toList = some n := by
  rw [Hex.encodeNatural, String.toList_ofList, readNatural, Hex.naturalDigits,
    ← List.append_nil (Nat.toDigits 16 n), readDigits_toDigits h, readDigits]

lemma ofText?_toHex (w : Word) : ofText? w.toHex = some w := by
  have hread : readNatural (Nat.pow 2 256) w.toHex.toList = some w.toNat :=
    readNatural_encodeNatural w.isLt
  rw [ofText?, hread, Option.map_some, BitVec.ofNat_toNat, BitVec.setWidth_eq]

end Word

lemma uint64OfText?_hexOfUInt64 (n : UInt64) : uint64OfText? (hexOfUInt64 n) = some n := by
  rw [uint64OfText?, hexOfUInt64, Word.readNatural_encodeNatural n.toNat_lt_size, Option.map_some,
    UInt64.ofNat_toNat]

namespace Json

@[simp] lemma readWord_ofWord (w : Word) : readWord (ofWord w) = .ok w := by
  rw [ofWord, readWord, Word.ofText?_toHex]
  rfl

@[simp] lemma readUInt64_ofUInt64 (n : UInt64) : readUInt64 (ofUInt64 n) = .ok n := by
  rw [ofUInt64, readUInt64, uint64OfText?_hexOfUInt64]
  rfl

@[simp] lemma readBytes_ofBytes (bs : Bytes) : readBytes (ofBytes bs) = .ok bs := by
  rw [ofBytes, readBytes, Hex.decode_encode]
  rfl

@[simp] lemma readFixed_ofFixed {n : Nat} (a : FixedBytes n) : readFixed (ofFixed a) = .ok a := by
  have hbytes : readBytes (ofFixed a) = .ok a.bytes := readBytes_ofBytes a.bytes
  have hfixed : FixedBytes.ofBytes? a.bytes = some a := dif_pos a.length_eq
  rw [readFixed, hbytes]
  change Read.ofOption (FixedBytes.ofBytes? a.bytes) = _
  rw [hfixed]
  rfl

end Json

lemma ofBigEndian_places (n k : Nat) :
    ofBigEndian ((List.range k).map fun i => UInt8.ofNat (n >>> (8 * (k - 1 - i)))) =
      n % 256 ^ k := by
  induction k generalizing n with
  | zero => simp [ofBigEndian, Nat.mod_one]
  | succ k ih =>
    have hfront : (List.range k).map (fun i => UInt8.ofNat (n >>> (8 * (k + 1 - 1 - i)))) =
        (List.range k).map fun i => UInt8.ofNat ((n / 256) >>> (8 * (k - 1 - i))) := by
      refine List.map_congr_left fun i hi => ?_
      have hplace : 8 * (k + 1 - 1 - i) = 8 + 8 * (k - 1 - i) := by
        have := List.mem_range.mp hi
        omega
      rw [hplace, Nat.shiftRight_add, Nat.shiftRight_eq_div_pow n 8]
    rw [List.range_succ, List.map_append, List.map_singleton, ofBigEndian_concat, hfront, ih]
    have hlast : n >>> (8 * (k + 1 - 1 - k)) = n := by simp
    have hbyte : n % 2 ^ 8 = n % 256 := rfl
    rw [hlast, UInt8.toNat_ofNat', hbyte, pow_succ', Nat.mod_mul, Nat.mul_comm, Nat.add_comm]

lemma RpcClient.bytes_slotKey (w : Word) : (slotKey w).bytes =
    (List.range 32).map fun i => UInt8.ofNat (w.toNat >>> (8 * (31 - i))) := by
  rw [slotKey, FixedBytes.ofBytes?, dif_pos (by simp)]
  rfl

/-- A word is what its bytes say. -/
@[simp] lemma RpcClient.ofBigEndian_slotKey (w : Word) :
    BitVec.ofNat 256 (ofBigEndian (slotKey w).bytes) = w := by
  have hplaces := ofBigEndian_places w.toNat 32
  have hfits : w.toNat % 256 ^ 32 = w.toNat := Nat.mod_eq_of_lt w.isLt
  rw [bytes_slotKey, hplaces, hfits, BitVec.ofNat_toNat, BitVec.setWidth_eq]

end ChainConformance
