import ChainConformance.Header.Encoding
import ChainConformance.Proofs.LengthPrefix

/-!
# Exactness of the header encoding

The decoder of headers takes what the encoder writes for a header that its encoding tells in
full, and nothing else.
-/

namespace ChainConformance.Header

open Rlp

/-- Which of the optional fields are present, in the order of the forks that brought them. -/
def presence (h : Header) : List Bool := [
  h.baseFee.isSome, h.withdrawalsRoot.isSome, h.blobGasUsed.isSome, h.excessBlobGas.isSome,
  h.parentBeaconRoot.isSome, h.requestsHash.isSome]

/-- A header that its encoding tells in full: no hash is stated for it, and an optional field
is present only if those before it are. -/
structure Canonical (h : Header) : Prop where
  unstated : h.statedHash = none
  ordered : h.presence.Pairwise fun (earlier later : Bool) => later = true → earlier = true

section Optional

variable {α β : Type} {item : Bytes → Except Fault (α × Bytes)} {encode : α → Bytes}
  {valid : α → Prop}

lemma optional_append_eq_nil (hencode : ∀ a, encode a ≠ []) {o : Option α} {rest : Bytes} :
    (o.map encode).getD [] ++ rest = [] ↔ o = none ∧ rest = [] := by
  cases o with
  | none => simp
  | some a => simp [hencode a]

lemma decodeOptional_eq_ok (h : Exact item encode valid) (hencode : ∀ a, encode a ≠ [])
    {bs rest : Bytes} {o : Option α} :
    decodeOptional item bs = .ok (o, rest) ↔
      (∀ a ∈ o, valid a) ∧ bs = (o.map encode).getD [] ++ rest ∧ (o = none → rest = []) := by
  unfold decodeOptional
  cases bs with
  | nil =>
    constructor
    · intro hnone
      cases hnone
      exact ⟨nofun, rfl, fun _ => rfl⟩
    · rintro ⟨_, hbs, _⟩
      obtain ⟨rfl, rfl⟩ := (optional_append_eq_nil hencode).mp hbs.symm
      rfl
  | cons b t =>
    rw [List.isEmpty_cons, if_neg Bool.false_ne_true, bind_eq_ok]
    constructor
    · rintro ⟨⟨a, rest'⟩, ha, hpure⟩
      cases hpure
      obtain ⟨hvalid, hbs⟩ := (h _ _ _).mp ha
      refine ⟨?_, hbs, nofun⟩
      rintro _ ⟨⟩
      exact hvalid
    · rintro ⟨hvalid, hbs, hnone⟩
      cases o with
      | none =>
        rw [hnone rfl] at hbs
        cases hbs
      | some a => exact ⟨(a, rest), (h _ _ _).mpr ⟨hvalid a rfl, hbs⟩, rfl⟩

lemma decodeOptional_bind_iff (h : Exact item encode valid) (hencode : ∀ a, encode a ≠ [])
    {next : Option α × Bytes → Except Fault β} {bs : Bytes} {b : β} :
    decodeOptional item bs >>= next = .ok b ↔
      ∃ o rest, ((∀ a ∈ o, valid a) ∧ bs = (o.map encode).getD [] ++ rest ∧
        (o = none → rest = [])) ∧ next (o, rest) = .ok b := by
  rw [bind_eq_ok, Prod.exists]
  simp only [decodeOptional_eq_ok h hencode]

lemma absent_iff {a : Option α} {b : Option β} :
    (b.isSome = true → a.isSome = true) ↔ (a = none → b = none) := by
  cases a <;> cases b <;> simp

end Optional

lemma ordered_iff {h : Header} :
    h.presence.Pairwise (fun (earlier later : Bool) => later = true → earlier = true) ↔
      (h.baseFee = none → h.withdrawalsRoot = none ∧ h.blobGasUsed = none ∧
        h.excessBlobGas = none ∧ h.parentBeaconRoot = none ∧ h.requestsHash = none) ∧
      (h.withdrawalsRoot = none → h.blobGasUsed = none ∧ h.excessBlobGas = none ∧
        h.parentBeaconRoot = none ∧ h.requestsHash = none) ∧
      (h.blobGasUsed = none →
        h.excessBlobGas = none ∧ h.parentBeaconRoot = none ∧ h.requestsHash = none) ∧
      (h.excessBlobGas = none → h.parentBeaconRoot = none ∧ h.requestsHash = none) ∧
      (h.parentBeaconRoot = none → h.requestsHash = none) := by
  simp only [presence, List.pairwise_cons, List.mem_cons, List.not_mem_nil, or_false,
    forall_eq_or_imp, forall_eq, absent_iff, imp_and, IsEmpty.forall_iff, implies_true,
    List.Pairwise.nil, and_true]

lemma encodeFields_eq (h : Header) : encodeFields h = encodeFixed h.parentHash ++
    (encodeFixed h.unclesHash ++ (encodeFixed h.coinbase ++ (encodeFixed h.stateRoot ++
    (encodeFixed h.transactionsRoot ++ (encodeFixed h.receiptsRoot ++
    (encodeFixed h.bloom ++ (encodeWord h.difficulty ++ (encodeWord h.number ++
    (encodeWord h.gasLimit ++ (encodeWord h.gasUsed ++ (encodeWord h.timestamp ++
    (encodeString h.extraData ++ (encodeFixed h.mixHash ++ (encodeFixed h.nonce ++
    ((h.baseFee.map encodeWord).getD [] ++ ((h.withdrawalsRoot.map encodeFixed).getD [] ++
    ((h.blobGasUsed.map encodeWord).getD [] ++ ((h.excessBlobGas.map encodeWord).getD [] ++
    ((h.parentBeaconRoot.map encodeFixed).getD [] ++
    ((h.requestsHash.map encodeFixed).getD [] ++ [])))))))))))))))))))) := by
  unfold encodeFields
  simp only [List.append_assoc, List.append_nil]

lemma decodeFields_eq_ok {bs : Bytes} {h : Header} :
    decodeFields bs = .ok (h, []) ↔
      h.Canonical ∧ Statable h.extraData.length ∧ bs = encodeFields h := by
  have h32 := exact_fixed 32 (by decide)
  have h20 := exact_fixed 20 (by decide)
  have h256 := exact_fixed 256 (by decide)
  have h8 := exact_fixed 8 (by decide)
  have hword : ∀ w, encodeWord w ≠ [] := fun w => encodeString_ne_nil _
  have hhash : ∀ a : Hash, encodeFixed a ≠ [] := fun a => encodeString_ne_nil _
  -- An optional field is absent only where nothing is left to read.
  have absent_word : ∀ {o : Option Word} {rest : Bytes},
      (o.map encodeWord).getD [] ++ rest = [] ↔ o = none ∧ rest = [] :=
    optional_append_eq_nil hword
  have absent_hash : ∀ {o : Option Hash} {rest : Bytes},
      (o.map encodeFixed).getD [] ++ rest = [] ↔ o = none ∧ rest = [] :=
    optional_append_eq_nil hhash
  have optional_word := @decodeOptional_bind_iff _ (Header × Bytes) _ _ _ exact_word hword
  have optional_hash := @decodeOptional_bind_iff _ (Header × Bytes) _ _ _ h32 hhash
  rw [encodeFields_eq]
  unfold decodeFields
  constructor
  · intro hd
    obtain ⟨parentHash, _, -, e₁, hd⟩ := h32.bind_iff.mp hd
    obtain ⟨unclesHash, _, -, e₂, hd⟩ := h32.bind_iff.mp hd
    obtain ⟨coinbase, _, -, e₃, hd⟩ := h20.bind_iff.mp hd
    obtain ⟨stateRoot, _, -, e₄, hd⟩ := h32.bind_iff.mp hd
    obtain ⟨transactionsRoot, _, -, e₅, hd⟩ := h32.bind_iff.mp hd
    obtain ⟨receiptsRoot, _, -, e₆, hd⟩ := h32.bind_iff.mp hd
    obtain ⟨bloom, _, -, e₇, hd⟩ := h256.bind_iff.mp hd
    obtain ⟨difficulty, _, -, e₈, hd⟩ := exact_word.bind_iff.mp hd
    obtain ⟨number, _, -, e₉, hd⟩ := exact_word.bind_iff.mp hd
    obtain ⟨gasLimit, _, -, e₁₀, hd⟩ := exact_word.bind_iff.mp hd
    obtain ⟨gasUsed, _, -, e₁₁, hd⟩ := exact_word.bind_iff.mp hd
    obtain ⟨timestamp, _, -, e₁₂, hd⟩ := exact_word.bind_iff.mp hd
    obtain ⟨extraData, _, hextra, e₁₃, hd⟩ := exact_string.bind_iff.mp hd
    obtain ⟨mixHash, _, -, e₁₄, hd⟩ := h32.bind_iff.mp hd
    obtain ⟨nonce, _, -, e₁₅, hd⟩ := h8.bind_iff.mp hd
    obtain ⟨baseFee, _, ⟨-, e₁₆, h₁⟩, hd⟩ := optional_word.mp hd
    obtain ⟨withdrawalsRoot, _, ⟨-, e₁₇, h₂⟩, hd⟩ := optional_hash.mp hd
    obtain ⟨blobGasUsed, _, ⟨-, e₁₈, h₃⟩, hd⟩ := optional_word.mp hd
    obtain ⟨excessBlobGas, _, ⟨-, e₁₉, h₄⟩, hd⟩ := optional_word.mp hd
    obtain ⟨parentBeaconRoot, _, ⟨-, e₂₀, h₅⟩, hd⟩ := optional_hash.mp hd
    obtain ⟨requestsHash, _, ⟨-, e₂₁, -⟩, hd⟩ := optional_hash.mp hd
    cases hd
    subst e₂₁ e₂₀ e₁₉ e₁₈ e₁₇ e₁₆ e₁₅ e₁₄ e₁₃ e₁₂ e₁₁ e₁₀ e₉ e₈ e₇ e₆ e₅ e₄ e₃ e₂ e₁
    simp only [absent_word, absent_hash, and_true] at h₁ h₂ h₃ h₄ h₅
    exact ⟨⟨rfl, ordered_iff.mpr ⟨h₁, h₂, h₃, h₄, h₅⟩⟩, hextra, rfl⟩
  · rintro ⟨⟨unstated, ordered⟩, hextra, rfl⟩
    obtain ⟨h₁, h₂, h₃, h₄, h₅⟩ := ordered_iff.mp ordered
    refine h32.bind_iff.mpr ⟨h.parentHash, _, trivial, rfl, ?_⟩
    refine h32.bind_iff.mpr ⟨h.unclesHash, _, trivial, rfl, ?_⟩
    refine h20.bind_iff.mpr ⟨h.coinbase, _, trivial, rfl, ?_⟩
    refine h32.bind_iff.mpr ⟨h.stateRoot, _, trivial, rfl, ?_⟩
    refine h32.bind_iff.mpr ⟨h.transactionsRoot, _, trivial, rfl, ?_⟩
    refine h32.bind_iff.mpr ⟨h.receiptsRoot, _, trivial, rfl, ?_⟩
    refine h256.bind_iff.mpr ⟨h.bloom, _, trivial, rfl, ?_⟩
    refine exact_word.bind_iff.mpr ⟨h.difficulty, _, trivial, rfl, ?_⟩
    refine exact_word.bind_iff.mpr ⟨h.number, _, trivial, rfl, ?_⟩
    refine exact_word.bind_iff.mpr ⟨h.gasLimit, _, trivial, rfl, ?_⟩
    refine exact_word.bind_iff.mpr ⟨h.gasUsed, _, trivial, rfl, ?_⟩
    refine exact_word.bind_iff.mpr ⟨h.timestamp, _, trivial, rfl, ?_⟩
    refine exact_string.bind_iff.mpr ⟨h.extraData, _, hextra, rfl, ?_⟩
    refine h32.bind_iff.mpr ⟨h.mixHash, _, trivial, rfl, ?_⟩
    refine h8.bind_iff.mpr ⟨h.nonce, _, trivial, rfl, ?_⟩
    refine optional_word.mpr ⟨h.baseFee, _, ⟨fun _ _ => trivial, rfl, ?_⟩, ?_⟩
    · simpa only [absent_word, absent_hash, and_true] using h₁
    refine optional_hash.mpr ⟨h.withdrawalsRoot, _, ⟨fun _ _ => trivial, rfl, ?_⟩, ?_⟩
    · simpa only [absent_word, absent_hash, and_true] using h₂
    refine optional_word.mpr ⟨h.blobGasUsed, _, ⟨fun _ _ => trivial, rfl, ?_⟩, ?_⟩
    · simpa only [absent_word, absent_hash, and_true] using h₃
    refine optional_word.mpr ⟨h.excessBlobGas, _, ⟨fun _ _ => trivial, rfl, ?_⟩, ?_⟩
    · simpa only [absent_word, absent_hash, and_true] using h₄
    refine optional_hash.mpr ⟨h.parentBeaconRoot, _, ⟨fun _ _ => trivial, rfl, ?_⟩, ?_⟩
    · simpa only [absent_word, absent_hash, and_true] using h₅
    refine optional_hash.mpr ⟨h.requestsHash, [], ⟨fun _ _ => trivial, rfl, fun _ => rfl⟩, ?_⟩
    cases h
    cases unstated
    rfl

lemma length_extraData_le (h : Header) : h.extraData.length ≤ h.encodeFields.length := by
  refine (length_le_encodeString h.extraData).trans ?_
  rw [encodeFields_eq]
  simp only [List.length_append]
  iterate 12 refine Nat.le_add_left_of_le ?_
  exact Nat.le_add_right _ _

/-- The decoder takes the encodings of canonical headers, whatever follows them, and nothing
else. -/
lemma exact_header : Exact decode encode fun h => h.Canonical ∧ Statable h.encodeFields.length := by
  intro bs h rest
  have hdecode : decode bs = decodeListPayload bs >>= fun p => decodeFields p.1 >>= fun q =>
      if q.2.isEmpty then .ok (q.1, p.2)
      else .error (.listLength p.1.length (p.1.length - q.2.length)) := rfl
  rw [hdecode, exact_listPayload.bind_iff]
  constructor
  · rintro ⟨payload, tail, statable, hbs, hd⟩
    obtain ⟨⟨h', left⟩, hfields, hend⟩ := bind_eq_ok.mp hd
    cases left with
    | nil =>
      have hpair : (h', tail) = (h, rest) := Except.ok.inj hend
      rw [Prod.mk.injEq] at hpair
      obtain ⟨hh, ht⟩ := hpair
      rw [hh] at hfields
      obtain ⟨canonical, -, hpayload⟩ := decodeFields_eq_ok.mp hfields
      change payload = h.encodeFields at hpayload
      rw [ht] at hbs
      rw [hpayload] at hbs statable
      exact ⟨⟨canonical, statable⟩, hbs⟩
    | cons b t => exact absurd hend (by simp)
  · rintro ⟨⟨canonical, statable⟩, hbs⟩
    have hextra : Statable h.extraData.length := lt_of_le_of_lt h.length_extraData_le statable
    have hfields : decodeFields h.encodeFields = .ok (h, []) :=
      decodeFields_eq_ok.mpr ⟨canonical, hextra, rfl⟩
    exact ⟨h.encodeFields, rest, statable, hbs, bind_eq_ok.mpr ⟨(h, []), hfields, rfl⟩⟩

lemma length_encodeFixed {n : Nat} (a : FixedBytes n) :
    (encodeFixed a).length = lengthOfFixed a := length_encodeString a.bytes

lemma length_optional {α : Type} {encode : α → Bytes} {size : α → Nat}
    (h : ∀ a, (encode a).length = size a) (o : Option α) :
    ((o.map encode).getD []).length = (o.map size).getD 0 := by
  cases o with
  | none => rfl
  | some a => exact h a

lemma length_encodeFields (h : Header) : h.encodeFields.length = h.payloadLength := by
  have hword : ∀ w, (encodeWord w).length = lengthOfWord w := length_encodeWord
  unfold encodeFields payloadLength
  simp only [List.length_append, length_encodeFixed, length_encodeString, hword,
    length_optional hword, length_optional length_encodeFixed]

/-- What the decoder takes is what the encoder writes for a header that its encoding tells in
full, with anything behind it; and the length that is told of an encoding is its length,
whatever the header. -/
theorem decode_iff_encode :
    (∀ (bs rest : Bytes) (h : Header), decode bs = .ok (h, rest) ↔
      h.Canonical ∧ h.encodeFields.length < UInt64.size ∧ bs = h.encode ++ rest) ∧
    ∀ h : Header, h.length = h.encode.length := by
  refine ⟨fun bs rest h => ?_, fun h => ?_⟩
  · rw [exact_header bs h rest, and_assoc]
    exact Iff.rfl
  · rw [encode, length_encodeList, length_encodeFields, length, Nat.add_comm]

end ChainConformance.Header
