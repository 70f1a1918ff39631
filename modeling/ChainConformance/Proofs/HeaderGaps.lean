import ChainConformance.Proofs.BlockCodec
import Mathlib.Data.List.ReduceOption

/-!
# Headers with gaps

An optional field is to be encoded only if all those before it are present. The encoder puts down
whatever is present, and as the items of a list have no names, those behind a gap move up: the
reader takes them for the fields that are missing. A header is read back as what it is if and
only if it has no gap.
-/

namespace ChainConformance

open Rlp

section Gaps

variable {α : Type}

/-- What is present in a list stands before all that is missing. -/
def Gapless (l : List (Option α)) : Prop := l.Pairwise fun a b => b.isSome → a.isSome

lemma reduceOption_eq_nil_iff {l : List (Option α)} :
    l.reduceOption = [] ↔ ∀ a ∈ l, a.isSome = false := by
  simp [List.reduceOption, List.filterMap_eq_nil_iff]

lemma gapless_iff_dropWhile {l : List (Option α)} :
    Gapless l ↔ (l.dropWhile Option.isSome).reduceOption = [] := by
  induction l with
  | nil => simp [Gapless]
  | cons o rest ih =>
    rw [Gapless, List.pairwise_cons]
    cases o with
    | none =>
      rw [List.dropWhile_cons_of_neg (by simp), reduceOption_eq_nil_iff, List.forall_mem_cons]
      constructor
      · exact fun h => ⟨rfl, fun b hb => by simpa using h.1 b hb⟩
      · rintro ⟨-, h⟩
        exact ⟨fun b hb hsome => absurd hsome (by simp [h b hb]),
          List.pairwise_of_forall_mem_list fun a _ b hb hsome => absurd hsome (by simp [h b hb])⟩
    | some a =>
      rw [List.dropWhile_cons_of_pos (by simp), ← ih]
      exact and_iff_right fun _ _ _ => rfl

lemma eq_of_own_or_none {l l' : List (Option α)}
    (h : List.Forall₂ (fun own read => read = own ∨ read = none) l l')
    (hlength : l'.reduceOption.length = l.reduceOption.length) : l' = l := by
  have hle : ∀ {l l' : List (Option α)},
      List.Forall₂ (fun own read => read = own ∨ read = none) l l' →
        l'.reduceOption.length ≤ l.reduceOption.length := by
    intro l l' h
    induction h with
    | nil => exact le_rfl
    | @cons own read _ _ hfirst _ ih =>
      rcases hfirst with rfl | rfl
      · cases read <;> simp [ih]
      · cases own <;> simp <;> omega
  induction h with
  | nil => rfl
  | @cons own read l l' hfirst hrest ih =>
    have hothers := hle hrest
    rcases hfirst with rfl | rfl
    · rw [ih (by cases read <;> simpa using hlength)]
    · cases own with
      | none => rw [ih (by simpa using hlength)]
      | some a =>
        simp at hlength
        omega

end Gaps

namespace Rlp

lemma lengthOfLead_mono {m n : Nat} (h : m ≤ n) : lengthOfLead m ≤ lengthOfLead n := by
  have hsize : (toBigEndian m).length ≤ (toBigEndian n).length :=
    length_toBigEndian_le.mpr (lt_of_le_of_lt h (length_toBigEndian_le.mp le_rfl))
  unfold lengthOfLead
  split <;> split <;> omega

lemma length_of_encodeList {bs bs' : Bytes} (h : encodeList bs = encodeList bs') :
    bs.length = bs'.length := by
  have hlength := congrArg List.length h
  rw [length_encodeList, length_encodeList] at hlength
  rcases Nat.le_total bs.length bs'.length with hle | hle
  · have := lengthOfLead_mono hle
    omega
  · have := lengthOfLead_mono hle
    omega

lemma encodeList_inj {bs bs' : Bytes} (h : Statable bs'.length) :
    encodeList bs = encodeList bs' ↔ bs = bs' := by
  refine ⟨fun heq => ?_, congrArg encodeList⟩
  have h' : Statable bs.length := by rwa [length_of_encodeList heq]
  exact (exact_listPayload.inj h' h (congrArg (· ++ []) heq)).1

lemma flatMap_encodeString_inj {ss ss' : List Bytes}
    (h : Statable (ss'.flatMap encodeString).length)
    (heq : ss.flatMap encodeString = ss'.flatMap encodeString) : ss = ss' := by
  have hstatable : ∀ {ss : List Bytes}, Statable (ss.flatMap encodeString).length →
      ∀ s ∈ ss, Statable s.length := by
    intro ss h s hs
    exact lt_of_le_of_lt
      ((length_le_encodeString s).trans (Block.length_le_flatMap encodeString hs)) h
  have hread := (decodeItems_eq_ok exact_string encodeString_ne_nil le_rfl).mpr
    ⟨hstatable h, rfl⟩
  rw [← heq] at h hread
  have hread' := (decodeItems_eq_ok exact_string encodeString_ne_nil le_rfl).mpr
    ⟨hstatable h, rfl⟩
  rw [hread'] at hread
  exact Except.ok.inj hread

end Rlp

namespace Header

/-- No optional field is present after one that is missing. -/
def Ordered (h : Header) : Prop :=
  h.presence.Pairwise fun (earlier later : Bool) => later = true → earlier = true

instance (h : Header) : Decidable h.Ordered :=
  inferInstanceAs (Decidable (h.presence.Pairwise fun (earlier later : Bool) =>
    later = true → earlier = true))

def required (h : Header) : Header :=
  { h with
    baseFee := none, withdrawalsRoot := none, blobGasUsed := none, excessBlobGas := none
    parentBeaconRoot := none, requestsHash := none, statedHash := none }

/-- The bytes of the optional fields, in the order of the forks that brought them. -/
def optionalFields (h : Header) : List (Option Bytes) := [
  h.baseFee.map fun w => toBigEndian w.toNat, h.withdrawalsRoot.map (·.bytes),
  h.blobGasUsed.map fun w => toBigEndian w.toNat,
  h.excessBlobGas.map fun w => toBigEndian w.toNat,
  h.parentBeaconRoot.map (·.bytes), h.requestsHash.map (·.bytes)]

/-- The encoding in which an optional field stands only if all those before it are present. -/
def encodeInOrder (h : Header) : Bytes :=
  encodeList (h.required.encodeFields ++
    (h.optionalFields.takeWhile Option.isSome).reduceOption.flatMap encodeString)

/-- Each optional field has been read as what it is, or as none. -/
structure OwnOrNone (h read : Header) : Prop where
  baseFee : read.baseFee = h.baseFee ∨ read.baseFee = none
  withdrawalsRoot : read.withdrawalsRoot = h.withdrawalsRoot ∨ read.withdrawalsRoot = none
  blobGasUsed : read.blobGasUsed = h.blobGasUsed ∨ read.blobGasUsed = none
  excessBlobGas : read.excessBlobGas = h.excessBlobGas ∨ read.excessBlobGas = none
  parentBeaconRoot : read.parentBeaconRoot = h.parentBeaconRoot ∨ read.parentBeaconRoot = none
  requestsHash : read.requestsHash = h.requestsHash ∨ read.requestsHash = none

variable {h read : Header}

lemma ordered_iff_gapless : h.Ordered ↔ Gapless h.optionalFields := by
  have hpresence : h.presence = h.optionalFields.map Option.isSome := by
    simp [presence, optionalFields]
  rw [Ordered, hpresence, List.pairwise_map, Gapless]

lemma OwnOrNone.optionalFields (hread : OwnOrNone h read) :
    List.Forall₂ (fun own read => read = own ∨ read = none) h.optionalFields
      read.optionalFields := by
  have hmap : ∀ {α : Type} {f : α → Bytes} {own read : Option α}, read = own ∨ read = none →
      read.map f = own.map f ∨ read.map f = none := by
    rintro α f own read (rfl | rfl)
    · exact .inl rfl
    · exact .inr rfl
  exact .cons (hmap hread.baseFee) <| .cons (hmap hread.withdrawalsRoot) <|
    .cons (hmap hread.blobGasUsed) <| .cons (hmap hread.excessBlobGas) <|
    .cons (hmap hread.parentBeaconRoot) <| .cons (hmap hread.requestsHash) .nil

lemma flatMap_reduceOption_cons {α : Type} (f : α → Bytes) (o : Option α)
    (rest : List (Option Bytes)) :
    ((o.map f) :: rest).reduceOption.flatMap encodeString =
      (o.map fun a => encodeString (f a)).getD [] ++
        rest.reduceOption.flatMap encodeString := by
  cases o <;> simp

lemma encodeFields_eq_append (h : Header) : h.encodeFields =
    h.required.encodeFields ++ h.optionalFields.reduceOption.flatMap encodeString := by
  have hoptional : h.optionalFields.reduceOption.flatMap encodeString =
      (h.baseFee.map encodeWord).getD [] ++ ((h.withdrawalsRoot.map encodeFixed).getD [] ++
        ((h.blobGasUsed.map encodeWord).getD [] ++ ((h.excessBlobGas.map encodeWord).getD [] ++
          ((h.parentBeaconRoot.map encodeFixed).getD [] ++
            ((h.requestsHash.map encodeFixed).getD [] ++ []))))) := by
    simp only [optionalFields, flatMap_reduceOption_cons]
    rfl
  rw [hoptional]
  unfold encodeFields required
  simp only [List.append_assoc, Option.map_none, Option.getD_none, List.append_nil]

lemma encode_eq_encodeInOrder_iff (h : Header) : h.encode = h.encodeInOrder ↔ h.Ordered := by
  have hsplit : h.optionalFields.reduceOption =
      (h.optionalFields.takeWhile Option.isSome).reduceOption ++
        (h.optionalFields.dropWhile Option.isSome).reduceOption := by
    rw [← List.reduceOption_append, List.takeWhile_append_dropWhile]
  rw [ordered_iff_gapless, gapless_iff_dropWhile, encode, encodeInOrder, encodeFields_eq_append,
    hsplit, List.flatMap_append, ← List.append_assoc]
  generalize (h.optionalFields.dropWhile Option.isSome).reduceOption = moved
  constructor
  · intro heq
    have hlength := length_of_encodeList heq
    rw [List.length_append] at hlength
    have hnone : moved.flatMap encodeString = [] := List.length_eq_zero_iff.mp (by omega)
    exact List.eq_nil_iff_forall_not_mem.mpr fun s hs =>
      encodeString_ne_nil s (List.flatMap_eq_nil_iff.mp hnone s hs)
  · rintro rfl
    rw [List.flatMap_nil, List.append_nil]

/-- What an encoding tells of a header: the fields of every block, and the values of the
optional fields without their names. -/
lemma encodeFields_eq_iff (hsize : Statable h.encodeFields.length) :
    read.encodeFields = h.encodeFields ↔ read.required = h.required ∧
      read.optionalFields.reduceOption = h.optionalFields.reduceOption := by
  have h32 := exact_fixed 32 (by decide)
  have h20 := exact_fixed 20 (by decide)
  have h256 := exact_fixed 256 (by decide)
  have h8 := exact_fixed 8 (by decide)
  constructor
  · intro heq
    have hextra : Statable h.extraData.length := lt_of_le_of_lt h.length_extraData_le hsize
    have hextra' : Statable read.extraData.length := by
      have hle := read.length_extraData_le
      rw [heq] at hle
      exact lt_of_le_of_lt hle hsize
    have hrequired : read.required = h.required := by
      -- The fields of every block are read off one after another, whatever follows them.
      rw [encodeFields_eq, encodeFields_eq] at heq
      obtain ⟨e₁, heq⟩ := h32.inj trivial trivial heq
      obtain ⟨e₂, heq⟩ := h32.inj trivial trivial heq
      obtain ⟨e₃, heq⟩ := h20.inj trivial trivial heq
      obtain ⟨e₄, heq⟩ := h32.inj trivial trivial heq
      obtain ⟨e₅, heq⟩ := h32.inj trivial trivial heq
      obtain ⟨e₆, heq⟩ := h32.inj trivial trivial heq
      obtain ⟨e₇, heq⟩ := h256.inj trivial trivial heq
      obtain ⟨e₈, heq⟩ := exact_word.inj trivial trivial heq
      obtain ⟨e₉, heq⟩ := exact_word.inj trivial trivial heq
      obtain ⟨e₁₀, heq⟩ := exact_word.inj trivial trivial heq
      obtain ⟨e₁₁, heq⟩ := exact_word.inj trivial trivial heq
      obtain ⟨e₁₂, heq⟩ := exact_word.inj trivial trivial heq
      obtain ⟨e₁₃, heq⟩ := exact_string.inj hextra' hextra heq
      obtain ⟨e₁₄, heq⟩ := h32.inj trivial trivial heq
      obtain ⟨e₁₅, -⟩ := h8.inj trivial trivial heq
      simp only [required, e₁, e₂, e₃, e₄, e₅, e₆, e₇, e₈, e₉, e₁₀, e₁₁, e₁₂, e₁₃, e₁₄, e₁₅]
    have hvalues : Statable (h.optionalFields.reduceOption.flatMap encodeString).length := by
      refine lt_of_le_of_lt ?_ hsize
      rw [encodeFields_eq_append h, List.length_append]
      exact Nat.le_add_left _ _
    rw [encodeFields_eq_append, encodeFields_eq_append h, hrequired] at heq
    exact ⟨hrequired, flatMap_encodeString_inj hvalues (List.append_cancel_left heq)⟩
  · rintro ⟨hrequired, hoptional⟩
    rw [encodeFields_eq_append, hrequired, hoptional, ← encodeFields_eq_append]

lemma decode_encode_eq_ok (h read : Header) (rest : Bytes) :
    decode (h.encode ++ rest) = .ok (read, rest) ↔
      read.Canonical ∧ h.encodeFields.length < UInt64.size ∧ read.required = h.required ∧
        read.optionalFields.reduceOption = h.optionalFields.reduceOption := by
  rw [exact_header, and_assoc, List.append_cancel_right_eq]
  refine and_congr_right fun _ => ?_
  constructor
  · rintro ⟨hsize, hencode⟩
    have hfields := (encodeList_inj hsize).mp hencode
    rw [← hfields] at hsize
    exact ⟨hsize, (encodeFields_eq_iff hsize).mp hfields.symm⟩
  · rintro ⟨hsize, hfields⟩
    have heq := (encodeFields_eq_iff hsize).mpr hfields
    exact ⟨by rwa [heq], by rw [encode, encode, heq]⟩

/-- The values of a header with a gap are more than those that a header without it has where
each is its own or none. -/
lemma OwnOrNone.ordered (hread : OwnOrNone h read) (canonical : read.Canonical)
    (hvalues : read.optionalFields.reduceOption = h.optionalFields.reduceOption) : h.Ordered := by
  rw [ordered_iff_gapless, ← eq_of_own_or_none hread.optionalFields (congrArg List.length hvalues),
    ← ordered_iff_gapless]
  exact canonical.ordered

/-- A header is encoded with each optional field only after all those before it, and is read
back with each as its own value or as none, if and only if it has no gap. What is read back of
any header is the one without a gap that has its values in their order, so that those behind a
gap are those of other fields; and if there is none, reading fails. -/
theorem encode_in_order_iff (h : Header) :
    (h.encode = h.encodeInOrder ↔ h.Ordered) ∧ ∀ rest : Bytes,
      ((∃ read, decode (h.encode ++ rest) = .ok (read, rest) ∧ OwnOrNone h read) ↔
        h.Ordered ∧ h.encodeFields.length < UInt64.size) ∧
      ∀ read, decode (h.encode ++ rest) = .ok (read, rest) ↔
        read.Canonical ∧ h.encodeFields.length < UInt64.size ∧ read.required = h.required ∧
          read.optionalFields.reduceOption = h.optionalFields.reduceOption := by
  refine ⟨h.encode_eq_encodeInOrder_iff, fun rest => ⟨⟨?_, ?_⟩, fun read =>
    decode_encode_eq_ok h read rest⟩⟩
  · rintro ⟨read, hdecode, hread⟩
    obtain ⟨canonical, hsize, -, hvalues⟩ := (decode_encode_eq_ok h read rest).mp hdecode
    exact ⟨hread.ordered canonical hvalues, hsize⟩
  · rintro ⟨hordered, hsize⟩
    refine ⟨{ h with statedHash := none }, ?_, ⟨.inl rfl, .inl rfl, .inl rfl, .inl rfl, .inl rfl,
      .inl rfl⟩⟩
    exact (decode_encode_eq_ok h _ rest).mpr ⟨⟨rfl, hordered⟩, hsize, rfl, rfl⟩

/-- Withdrawals without a base fee: the root stands in the place of the fee and is read as it,
or cannot be read if it begins with a zero. -/
theorem encode_root_misplaced :
    let rootOnly (root : Hash) : Header := { (default : Header) with withdrawalsRoot := some root }
    (rootOnly (.replicate 0x11)).encode ≠ (rootOnly (.replicate 0x11)).encodeInOrder ∧
    decode (rootOnly (.replicate 0x11)).encode =
      .ok ({ (default : Header) with
        baseFee := some 0x1111111111111111111111111111111111111111111111111111111111111111#256 },
        []) ∧
    decode (rootOnly .zero).encode = .error .leadingZero := by
  refine ⟨?_, ?_, ?_⟩
  · rw [Ne, encode_eq_encodeInOrder_iff]
    decide
  · rw [← List.append_nil (encode _), decode_encode_eq_ok]
    exact ⟨⟨rfl, by decide⟩, by decide +kernel, rfl, by decide +kernel⟩
  · decide +kernel

end Header

end ChainConformance
