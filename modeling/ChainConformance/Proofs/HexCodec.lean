import ChainConformance.Run.Blocks
import Mathlib.Tactic.Common
import Mathlib.Tactic.IntervalCases

/-!
# Hexadecimal text

Bytes that are written in hexadecimal are read back, and so the block of a fixture can be any
block that there is an encoding of.
-/

namespace ChainConformance

lemma loop_toList (bs : ByteArray) (i : Nat) (read : List UInt8) :
    ByteArray.toList.loop bs i read = read.reverse ++ bs.data.toList.drop i := by
  have hsize : bs.size = bs.data.toList.length := rfl
  induction h : bs.size - i generalizing i read with
  | zero =>
    have hi : ¬i < bs.size := by omega
    rw [ByteArray.toList.loop, if_neg hi, List.drop_of_length_le (by omega), List.append_nil]
  | succ n ih =>
    have hi : i < bs.size := by omega
    have hget : bs.get! i = bs.data.toList[i] := by
      change bs.data[i]! = _
      rw [getElem!_pos bs.data i hi]
      rfl
    have hdrop : bs.data.toList.drop i = bs.data.toList[i] :: bs.data.toList.drop (i + 1) :=
      List.drop_eq_getElem_cons hi
    rw [ByteArray.toList.loop, if_pos hi, ih (i + 1) _ (by omega), hget, List.reverse_cons,
      List.append_assoc, hdrop]
    rfl

lemma toList_toUTF8 (cs : List Char) :
    (String.ofList cs).toUTF8.toList = cs.flatMap String.utf8EncodeChar := by
  change (String.ofList cs).toByteArray.toList = _
  rw [String.toByteArray_ofList, List.utf8Encode, ByteArray.toList, loop_toList]
  exact List.toList_data_toByteArray

namespace Hex

def digitByte (n : Nat) : UInt8 := (digit n).toUInt8

lemma utf8EncodeChar_digit {n : Nat} (h : n < 16) :
    String.utf8EncodeChar (digit n) = [digitByte n] := by
  interval_cases n <;> decide

lemma digitValue?_digitByte {n : Nat} (h : n < 16) :
    digitValue? (digitByte n) = some (UInt8.ofNat n) := by
  interval_cases n <;> decide

lemma isBlank_digit {n : Nat} (h : n < 16) : Text.isBlank (digit n) = false := by
  interval_cases n <;> decide

lemma halves (b : UInt8) : UInt8.ofNat (b.toNat / 16) * 16 + UInt8.ofNat (b.toNat % 16) = b := by
  have hb := b.toNat_lt
  apply UInt8.toNat_inj.mp
  simp only [UInt8.toNat_add, UInt8.toNat_mul, UInt8.toNat_ofNat']
  simp
  omega

lemma bytes_plain (bs : Bytes) : (plain bs).flatMap String.utf8EncodeChar =
    bs.flatMap fun b => [digitByte (b.toNat / 16), digitByte (b.toNat % 16)] := by
  have hdigits (b : UInt8) : (digits b).flatMap String.utf8EncodeChar =
      [digitByte (b.toNat / 16), digitByte (b.toNat % 16)] := by
    have hb := b.toNat_lt
    have hhigh : b.toNat / 16 < 16 := by omega
    have hlow : b.toNat % 16 < 16 := by omega
    simp only [digits, List.flatMap_cons, List.flatMap_nil, utf8EncodeChar_digit hhigh,
      utf8EncodeChar_digit hlow, List.cons_append, List.nil_append]
  rw [plain, List.flatMap_assoc]
  exact congrArg (bs.flatMap ·) (funext hdigits)

lemma decodePairs_bytes (bs : Bytes) (position : Nat) :
    decodePairs position
      (bs.flatMap fun b => [digitByte (b.toNat / 16), digitByte (b.toNat % 16)]) = .ok bs := by
  induction bs generalizing position with
  | nil => rfl
  | cons b rest ih =>
    have hb := b.toNat_lt
    have hhigh : b.toNat / 16 < 16 := by omega
    have hlow : b.toNat % 16 < 16 := by omega
    rw [List.flatMap_cons, List.cons_append, List.cons_append, List.nil_append]
    simp only [decodePairs, digitValue?_digitByte hhigh, digitValue?_digitByte hlow, ih,
      Except.map, halves]

lemma decode_encode (bs : Bytes) : decode (encode bs) = .ok bs := by
  let pairs := bs.flatMap fun b => [digitByte (b.toNat / 16), digitByte (b.toNat % 16)]
  have hbytes : (encode bs).toUTF8.toList = 48 :: 120 :: pairs := by
    rw [encode, toList_toUTF8, List.flatMap_cons, List.flatMap_cons, bytes_plain]
    rfl
  have hlength : pairs.length = bs.length * 2 := by
    rw [List.length_flatMap]
    change (bs.map fun _ => 2).sum = _
    rw [List.map_const', List.sum_replicate_nat]
  have heven : ¬(48 :: 120 :: pairs).length % 2 = 1 := by
    rw [List.length_cons, List.length_cons, hlength]
    omega
  rw [decode, hbytes, decodeAscii, if_neg heven, afterMark]
  exact decodePairs_bytes bs 0

lemma exists_digit {bs : Bytes} {c : Char} (h : c ∈ plain bs) : ∃ n < 16, c = digit n := by
  obtain ⟨b, -, hc⟩ := List.mem_flatMap.mp h
  have hb := b.toNat_lt
  simp only [digits, List.mem_cons, List.not_mem_nil, or_false] at hc
  rcases hc with rfl | rfl
  · exact ⟨_, by omega, rfl⟩
  · exact ⟨_, by omega, rfl⟩

lemma isBlank_encode (bs : Bytes) : ∀ c ∈ '0' :: 'x' :: plain bs, Text.isBlank c = false := by
  intro c hc
  rcases List.mem_cons.mp hc with rfl | hc
  · decide
  rcases List.mem_cons.mp hc with rfl | hc
  · decide
  obtain ⟨n, hn, rfl⟩ := exists_digit hc
  exact isBlank_digit hn

end Hex

lemma Text.trim_of_not_blank {cs : List Char} (h : ∀ c ∈ cs, isBlank c = false) :
    trim (String.ofList cs) = String.ofList cs := by
  have hdrop (l : List Char) (hl : ∀ c ∈ l, isBlank c = false) : l.dropWhile isBlank = l := by
    cases l with
    | nil => rfl
    | cons c rest =>
      have hc := hl c List.mem_cons_self
      rw [List.dropWhile_cons, hc]
      rfl
  rw [trim, String.toList_ofList, trimEnd, trimStart, hdrop cs h,
    hdrop cs.reverse (by simpa using h), List.reverse_reverse]

lemma decoded_encoded {b : FixtureBlock} {raw : Bytes} {block : Block}
    (written : b.rlp = Hex.encode raw) (decodes : Block.decode raw = .ok block) :
    BlockRun.decoded b = .ok (block, raw) := by
  have hbytes : b.bytes = .ok raw := by
    rw [FixtureBlock.bytes, written, ← Hex.decode_encode raw]
    exact congrArg Hex.decode (Text.trim_of_not_blank (Hex.isBlank_encode raw))
  rw [BlockRun.decoded, hbytes]
  change (do
    let block ← (Block.decode raw).mapError Rlp.Fault.message
    return (block, raw)) = _
  rw [decodes]
  rfl

end ChainConformance
