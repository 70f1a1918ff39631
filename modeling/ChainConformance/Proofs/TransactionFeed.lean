import ChainConformance.Proofs.BlockCodec
import ChainConformance.Transition.Chain

/-!
# What a transition tool is fed

A tool executes the transactions of a block from their encoding as a list. The block does not
say of a transaction whether it stood as a list or as a string, and so it is told from the
first byte. The encoding is that of the block unless a string begins as a list does.
-/

namespace ChainConformance

open Rlp

namespace Transition

/-- A string that is taken for a list. -/
def Masked (i : Item) : Prop := i.isList = false ∧ isEncodedList i.payload = true

instance (i : Item) : Decidable (Masked i) :=
  inferInstanceAs (Decidable (i.isList = false ∧ isEncodedList i.payload = true))

def refed (i : Item) : Bytes :=
  if isEncodedList i.kept then i.kept else encodeString i.kept

lemma encodeTransactions_kept (items : List Item) :
    encodeTransactions (items.map Item.kept) = encodeList (items.flatMap refed) := by
  unfold encodeTransactions
  rw [List.flatMap_map]
  rfl

lemma isEncodedList_encodeList {bs : Bytes} (h : Statable bs.length) :
    isEncodedList (encodeList bs) = true := by
  have hbyte : ∀ (n : Nat) (t : Bytes), 0xC0 ≤ n → n < 256 →
      isEncodedList (UInt8.ofNat n :: t) = true := by
    intro n t hlow hhigh
    rw [isEncodedList, decide_eq_true_iff, UInt8.le_iff_toNat_le, toNat_ofNat_of_lt hhigh]
    exact hlow
  unfold encodeList
  by_cases hshort : bs.length < 56
  · rw [encodeLead_short hshort, leadBase_list, List.singleton_append]
    exact hbyte _ _ (by omega) (by omega)
  · have hsize : (toBigEndian bs.length).length ≤ 8 := statable_iff.mp h
    rw [encodeLead_long (Nat.not_lt.mp hshort), leadBase_list, List.cons_append]
    exact hbyte _ _ (by omega) (by omega)

lemma refed_of_not_masked {i : Item} (h : Statable i.payload.length) (hmasked : ¬Masked i) :
    refed i = i.encode := by
  obtain ⟨_ | _, payload⟩ := i
  · have hplain : isEncodedList payload = false := by simpa [Masked] using hmasked
    simp [refed, Item.kept, hplain]
  · simp [refed, Item.kept, isEncodedList_encodeList h]

lemma length_refed_of_masked {i : Item} (hmasked : Masked i) :
    (refed i).length < i.encode.length := by
  obtain ⟨isList, payload⟩ := i
  obtain ⟨rfl, hlist⟩ := hmasked
  have hrefed : refed ⟨false, payload⟩ = payload := by simp [refed, Item.kept, hlist]
  rw [hrefed, Item.encode_string]
  by_cases hone : payload.length = 1
  · obtain ⟨b, rfl⟩ := List.length_eq_one_iff.mp hone
    have hb : 0xC0 ≤ b.toNat := UInt8.le_iff_toNat_le.mp (decide_eq_true_iff.mp hlist)
    rw [encodeString_singleton, if_neg (by omega), List.length_append]
    exact Nat.lt_add_of_pos_left (List.length_pos_iff.mpr (encodeLead_ne_nil _))
  · rw [encodeString_of_length hone, List.length_append]
    exact Nat.lt_add_of_pos_left (List.length_pos_iff.mpr (encodeLead_ne_nil _))

lemma length_refed_le {i : Item} (h : Statable i.payload.length) :
    (refed i).length ≤ i.encode.length := by
  by_cases hmasked : Masked i
  · exact (length_refed_of_masked hmasked).le
  · rw [refed_of_not_masked h hmasked]

lemma length_flatMap_refed_le {items : List Item}
    (h : ∀ i ∈ items, Statable i.payload.length) :
    (items.flatMap refed).length ≤ (items.flatMap Item.encode).length := by
  induction items with
  | nil => exact le_rfl
  | cons i items ih =>
    obtain ⟨hi, hitems⟩ := List.forall_mem_cons.mp h
    simp only [List.flatMap_cons, List.length_append]
    exact Nat.add_le_add (length_refed_le hi) (ih hitems)

/-- One masked string is enough to make all the bytes fewer, since none becomes more. -/
lemma flatMap_refed_eq_iff {items : List Item} (h : ∀ i ∈ items, Statable i.payload.length) :
    items.flatMap refed = items.flatMap Item.encode ↔ ∀ i ∈ items, ¬Masked i := by
  induction items with
  | nil => simp
  | cons i items ih =>
    obtain ⟨hi, hitems⟩ := List.forall_mem_cons.mp h
    rw [List.flatMap_cons, List.flatMap_cons, List.forall_mem_cons, ← ih hitems]
    constructor
    · intro heq
      have hlength := congrArg List.length heq
      simp only [List.length_append] at hlength
      have hrest := length_flatMap_refed_le hitems
      have hmasked : ¬Masked i := by
        intro hmasked
        have := length_refed_of_masked hmasked
        omega
      rw [refed_of_not_masked hi hmasked] at heq
      exact ⟨hmasked, List.append_cancel_left heq⟩
    · rintro ⟨hmasked, heq⟩
      rw [refed_of_not_masked hi hmasked, heq]

/-- A tool is fed the transactions of a block as the block has them if and only if none of
them is a masked string. Blocks without such strings are fed alike only if they have the same
transactions. -/
theorem encodeTransactions_iff {raw : Bytes} {b : Block} (h : Block.decode raw = .ok b) :
    ∃ l : Block.Layout, l.Canonical ∧ raw = l.encode ∧ b = l.block ∧
      (encodeTransactions b.transactions = l.transactionList ↔ ∀ i ∈ l.items, ¬Masked i) ∧
      ∀ l' : Block.Layout, l'.Canonical → (∀ i ∈ l.items ++ l'.items, ¬Masked i) →
        encodeTransactions l'.block.transactions = encodeTransactions b.transactions →
          l'.items = l.items := by
  have hfaithful : ∀ l : Block.Layout, l.Canonical →
      (encodeTransactions l.block.transactions = l.transactionList ↔
        ∀ i ∈ l.items, ¬Masked i) := by
    intro l hl
    have hsize := (Block.Layout.statable_parts hl.size).2.1
    have hitems := Block.statable_items hsize
    have hrefed : Statable (l.items.flatMap refed).length :=
      lt_of_le_of_lt (length_flatMap_refed_le hitems) hsize
    rw [← flatMap_refed_eq_iff hitems]
    change encodeTransactions (l.items.map Item.kept) = _ ↔ _
    rw [encodeTransactions_kept]
    constructor
    · exact fun hfed => (exact_listPayload.inj hrefed hsize (congrArg (· ++ []) hfed)).1
    · exact congrArg encodeList
  obtain ⟨l, hl, hb, hraw⟩ := Block.decode_eq_ok.mp h
  rw [hb]
  refine ⟨l, hl, hraw, rfl, hfaithful l hl, fun l' hl' hplain hfed => ?_⟩
  obtain ⟨hplain, hplain'⟩ := List.forall_mem_append.mp hplain
  rw [(hfaithful l hl).mpr hplain, (hfaithful l' hl').mpr hplain'] at hfed
  have hsize := (Block.Layout.statable_parts hl.size).2.1
  have hsize' := (Block.Layout.statable_parts hl'.size).2.1
  exact (Block.exact_items.inj hsize' hsize (congrArg (· ++ []) hfed)).1

def bare (items : List Item) : Block.Layout := ⟨default, items, [], none⟩

lemma canonical_default : (default : Header).Canonical := ⟨rfl, by decide⟩

lemma canonical_bare {items : List Item} (h : (bare items).payload.length < UInt64.size) :
    (bare items).Canonical where
  header := canonical_default
  uncles := nofun
  size := h

lemma decode_bare {items : List Item} (h : (bare items).payload.length < UInt64.size) :
    Block.decode (bare items).encode = .ok (bare items).block :=
  Block.decode_eq_ok.mpr ⟨bare items, canonical_bare h, rfl, rfl⟩

theorem encodeTransactions_nested :
    encodeTransactions (bare [⟨true, []⟩]).block.transactions =
      (bare [⟨true, []⟩]).transactionList := by
  have hsize : (bare [⟨true, []⟩]).payload.length < UInt64.size := by decide +kernel
  obtain ⟨l, hl, hraw, -, hfed, -⟩ := encodeTransactions_iff (decode_bare hsize)
  obtain rfl := Block.Layout.encode_inj (canonical_bare hsize) hl hraw
  exact hfed.mpr (by decide)

/-- The byte of the empty list as a string is masked: a block with it is fed as one that has
the empty list in its place. -/
theorem encodeTransactions_masked :
    Block.decode (bare [⟨false, [0xC0]⟩]).encode = .ok (bare [⟨false, [0xC0]⟩]).block ∧
    Block.decode (bare [⟨true, []⟩]).encode = .ok (bare [⟨true, []⟩]).block ∧
    (bare [⟨false, [0xC0]⟩]).transactionList ≠ (bare [⟨true, []⟩]).transactionList ∧
    encodeTransactions (bare [⟨false, [0xC0]⟩]).block.transactions ≠
      (bare [⟨false, [0xC0]⟩]).transactionList ∧
    encodeTransactions (bare [⟨false, [0xC0]⟩]).block.transactions =
      encodeTransactions (bare [⟨true, []⟩]).block.transactions := by
  have hstring : (bare [⟨false, [0xC0]⟩]).payload.length < UInt64.size := by decide +kernel
  have hlist : (bare [⟨true, []⟩]).payload.length < UInt64.size := by decide +kernel
  exact ⟨decode_bare hstring, decode_bare hlist, by decide, by decide, by decide⟩

/-- The bytes that stand for a transaction in what a tool is fed. -/
def fed (tx : Bytes) : Bytes := if isEncodedList tx then tx else encodeString tx

/-- A transaction that tells by its first byte how it is to be encoded: a list with its lead, or
bytes that do not begin as a list does. -/
def Plain (tx : Bytes) : Prop := (∃ payload, tx = encodeList payload) ∨ ∀ b ∈ tx.head?, b < 0xC0

lemma flatMap_fed_kept (items : List Item) :
    (items.map Item.kept).flatMap fed = items.flatMap refed := by
  rw [List.flatMap_map]
  rfl

lemma length_le_fed (tx : Bytes) : tx.length ≤ (fed tx).length := by
  unfold fed
  split
  · exact le_rfl
  · exact length_le_encodeString tx

lemma isEncodedList_eq_false_iff {tx : Bytes} :
    isEncodedList tx = false ↔ ∀ b ∈ tx.head?, b < 0xC0 := by
  cases tx <;> simp [isEncodedList]

lemma plain_iff_kept {tx : Bytes} : Plain tx ↔ ∃ i : Item, ¬Masked i ∧ i.kept = tx := by
  rw [Plain, ← isEncodedList_eq_false_iff]
  constructor
  · rintro (⟨payload, rfl⟩ | hplain)
    · exact ⟨⟨true, payload⟩, by simp [Masked], rfl⟩
    · exact ⟨⟨false, tx⟩, by simp [Masked, hplain], rfl⟩
  · rintro ⟨⟨_ | _, payload⟩, hmasked, rfl⟩
    · exact .inr (by simpa [Masked, Item.kept] using hmasked)
    · exact .inl ⟨payload, rfl⟩

lemma plain_iff_map_kept {txs : List Bytes} : (∀ tx ∈ txs, Plain tx) ↔
    ∃ items : List Item, (∀ i ∈ items, ¬Masked i) ∧ items.map Item.kept = txs := by
  constructor
  · intro h
    induction txs with
    | nil => exact ⟨[], nofun, rfl⟩
    | cons tx txs ih =>
      obtain ⟨htx, htxs⟩ := List.forall_mem_cons.mp h
      obtain ⟨i, hi, rfl⟩ := plain_iff_kept.mp htx
      obtain ⟨items, hitems, rfl⟩ := ih htxs
      exact ⟨i :: items, List.forall_mem_cons.mpr ⟨hi, hitems⟩, rfl⟩
  · rintro ⟨items, hitems, rfl⟩
    exact List.forall_mem_map.mpr fun i hi => plain_iff_kept.mpr ⟨i, hitems i hi, rfl⟩

lemma statable_of_fed {items : List Item}
    (h : Statable ((items.map Item.kept).flatMap fed).length) :
    ∀ i ∈ items, Statable i.payload.length := by
  intro i hi
  have hkept : i.payload.length ≤ i.kept.length := by
    unfold Item.kept
    split
    · exact i.length_payload_le_encode
    · exact le_rfl
  have hfed := Block.length_le_flatMap fed (List.mem_map_of_mem (f := Item.kept) hi)
  exact lt_of_le_of_lt (hkept.trans ((length_le_fed i.kept).trans hfed)) h

/-- The transactions that a tool is fed are read back, whatever follows them, if and only if each
of them is a list with its lead or does not begin as a list does, and their size can be stated. -/
theorem encodeTransactions_read_iff (txs : List Bytes) (rest : Bytes) :
    Block.decodeRawItems (encodeTransactions txs ++ rest) = .ok (txs, rest) ↔
      (∀ tx ∈ txs, (∃ payload, tx = encodeList payload) ∨ ∀ b ∈ tx.head?, b < 0xC0) ∧
        (txs.flatMap fed).length < UInt64.size := by
  change _ ↔ (∀ tx ∈ txs, Plain tx) ∧ _
  rw [Block.decodeRawItems_eq, map_eq_ok, plain_iff_map_kept]
  constructor
  · rintro ⟨⟨items, rest'⟩, hread, hkept⟩
    obtain ⟨rfl, rfl⟩ := Prod.mk.inj hkept
    obtain ⟨hsize, hbytes⟩ := (Block.exact_items _ _ _).mp hread
    have hfed := List.append_cancel_right hbytes
    rw [encodeTransactions_kept] at hfed
    have hitems := Block.statable_items hsize
    have hrefed : Statable (items.flatMap refed).length :=
      lt_of_le_of_lt (length_flatMap_refed_le hitems) hsize
    have hsame := (exact_listPayload.inj hrefed hsize (congrArg (· ++ []) hfed)).1
    rw [← flatMap_fed_kept] at hrefed
    exact ⟨⟨items, (flatMap_refed_eq_iff hitems).mp hsame, rfl⟩, hrefed⟩
  · rintro ⟨⟨items, hplain, rfl⟩, hsize⟩
    have hitems := statable_of_fed hsize
    have hsame := (flatMap_refed_eq_iff hitems).mpr hplain
    rw [flatMap_fed_kept, hsame] at hsize
    rw [encodeTransactions_kept, hsame]
    exact ⟨(items, rest), Block.exact_items.decode_append hsize rest, rfl⟩

end Transition

end ChainConformance
