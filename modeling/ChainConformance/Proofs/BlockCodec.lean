import ChainConformance.Block
import ChainConformance.Proofs.HeaderCodec
import Mathlib.Data.List.Flatten

/-!
# Exactness of the block encoding

A block is laid out as its header, its transactions, its uncles and perhaps its withdrawals.
The decoder takes the encodings of such layouts and nothing else. The block that it gives
keeps less than the layout: of a transaction it is not known whether it stood as a list or
as a string.
-/

namespace ChainConformance

open Rlp

/-- What is kept of an item: a list with its lead, a string without. -/
def Rlp.Item.kept (i : Item) : Bytes := if i.isList then i.encode else i.payload

namespace Withdrawal

def encodeFields (w : Withdrawal) : Bytes :=
  encodeUInt64 w.index ++ (encodeUInt64 w.validatorIndex ++
    (encodeFixed w.address ++ encodeUInt64 w.amount))

lemma encode_eq (w : Withdrawal) : w.encode = encodeList w.encodeFields := by
  unfold encode encodeFields
  simp only [List.append_assoc]

lemma encodeFields_append (w : Withdrawal) (rest : Bytes) :
    w.encodeFields ++ rest = encodeUInt64 w.index ++ (encodeUInt64 w.validatorIndex ++
      (encodeFixed w.address ++ (encodeUInt64 w.amount ++ rest))) := by
  unfold encodeFields
  simp only [List.append_assoc]

lemma statable_fields (w : Withdrawal) : Statable w.encodeFields.length := by
  have hnumber : ∀ n : UInt64, (encodeUInt64 n).length ≤ 9 := by
    intro n
    have hbytes : (toBigEndian n.toNat).length ≤ 8 := length_toBigEndian_le.mpr n.toNat_lt
    exact (length_encodeString_le (by omega)).trans (Nat.succ_le_succ hbytes)
  have haddress : (encodeFixed w.address).length ≤ 21 := by
    have hbytes : w.address.bytes.length ≤ 20 := w.address.length_eq.le
    exact (length_encodeString_le (by omega)).trans (Nat.succ_le_succ hbytes)
  have hlength : w.encodeFields.length ≤ 9 + (9 + (21 + 9)) := by
    unfold encodeFields
    simp only [List.length_append]
    exact Nat.add_le_add (hnumber _) (Nat.add_le_add (hnumber _)
      (Nat.add_le_add haddress (hnumber _)))
  exact lt_of_le_of_lt hlength (by decide)

/-- The fields are read from all that follows the lead. They end with the payload because
they are as long as it. -/
lemma exact_withdrawal : Exact decode encode fun _ => True := by
  have h20 : Exact (decodeFixed (n := 20)) encodeFixed fun _ => True :=
    exact_fixed 20 (by decide)
  intro bs w rest
  unfold decode
  rw [encode_eq, bind_eq_ok]
  constructor
  · rintro ⟨⟨⟨isList, n⟩, fields⟩, hlead, hd⟩
    cases isList with
    | false => cases hd
    | true =>
      obtain ⟨payload, tail, -, rfl, hfields, hbs⟩ := decodeLead_eq_ok_list.mp hlead
      obtain ⟨index, _, -, e₁, hd⟩ := exact_uint64.bind_iff.mp hd
      obtain ⟨validatorIndex, _, -, e₂, hd⟩ := exact_uint64.bind_iff.mp hd
      obtain ⟨address, _, -, e₃, hd⟩ := h20.bind_iff.mp hd
      obtain ⟨amount, left, -, e₄, hd⟩ := exact_uint64.bind_iff.mp hd
      let read : Withdrawal := ⟨index, validatorIndex, address, amount⟩
      have hread : payload ++ tail = read.encodeFields ++ left := by
        rw [← hfields, e₁, e₂, e₃, e₄, encodeFields_append]
      by_cases hused : fields.length - left.length = payload.length
      -- The payload and what was read begin the same bytes and are of one length.
      · have hlength : payload.length = read.encodeFields.length := by
          rw [← hused, hfields, hread, List.length_append, Nat.add_sub_cancel]
        obtain ⟨hpayload, htail⟩ := List.append_inj hread hlength
        have hpair : (read, left) = (w, rest) := by
          dsimp only at hd
          rw [if_pos hused] at hd
          exact Except.ok.inj hd
        obtain ⟨hw, hrest⟩ := Prod.mk.inj hpair
        rw [hpayload, htail, hw, hrest] at hbs
        exact ⟨trivial, hbs⟩
      · dsimp only at hd
        rw [if_neg hused] at hd
        cases hd
  · rintro ⟨-, hbs⟩
    refine ⟨(⟨true, w.encodeFields.length⟩, w.encodeFields ++ rest), ?_, ?_⟩
    · exact decodeLead_eq_ok_list.mpr ⟨_, rest, w.statable_fields, rfl, rfl, hbs⟩
    · have hused : (w.encodeFields ++ rest).length - rest.length = w.encodeFields.length := by
        rw [List.length_append, Nat.add_sub_cancel]
      refine exact_uint64.bind_iff.mpr ⟨w.index, _, trivial, w.encodeFields_append rest, ?_⟩
      refine exact_uint64.bind_iff.mpr ⟨w.validatorIndex, _, trivial, rfl, ?_⟩
      refine h20.bind_iff.mpr ⟨w.address, _, trivial, rfl, ?_⟩
      refine exact_uint64.bind_iff.mpr ⟨w.amount, rest, trivial, rfl, ?_⟩
      dsimp only
      rw [if_pos hused]
      rfl

end Withdrawal

namespace Block

/-- What a block is written from. A transaction stands in it as an item of any kind. -/
structure Layout where
  header : Header
  items : List Item
  uncles : List Header
  withdrawals : Option (List Withdrawal)

namespace Layout

/-- The transactions as they stand in the encoding. -/
def transactionList (l : Layout) : Bytes := encodeList (l.items.flatMap Item.encode)

def payload (l : Layout) : Bytes :=
  l.header.encode ++ (l.transactionList ++
    (encodeList (l.uncles.flatMap Header.encode) ++
      (l.withdrawals.map fun ws => encodeList (ws.flatMap Withdrawal.encode)).getD []))

def encode (l : Layout) : Bytes := encodeList l.payload

def block (l : Layout) : Block :=
  ⟨l.header, l.header.hash, l.items.map Item.kept, l.uncles, l.withdrawals⟩

/-- A layout that its encoding tells in full. -/
structure Canonical (l : Layout) : Prop where
  header : l.header.Canonical
  uncles : ∀ u ∈ l.uncles, u.Canonical
  size : l.payload.length < UInt64.size

end Layout

lemma decodeRawItem_eq (bs : Bytes) :
    decodeRawItem bs = (decodeItem bs).map (Prod.map Item.kept id) := by
  unfold decodeRawItem decodeItem
  cases hlead : decodeLead bs with
  | error e => rfl
  | ok p =>
    obtain ⟨⟨isList, payload⟩, tail, -, hl, hrest, hbs⟩ := decodeLead_eq_ok_item.mp hlead
    obtain rfl : p = (⟨isList, payload.length⟩, payload ++ tail) := Prod.ext hl hrest
    cases isList with
    | false => rfl
    | true =>
      have hsize : bs.length - (payload ++ tail).length + payload.length =
          (encodeList payload).length := by
        rw [hbs, Item.encode_list, length_encodeList]
        simp only [List.length_append, length_encodeList]
        omega
      have htake : bs.take (bs.length - (payload ++ tail).length + payload.length) =
          encodeList ((payload ++ tail).take payload.length) := by
        rw [hsize, hbs, Item.encode_list, List.take_left, List.take_left]
      exact congrArg (fun kept => Except.ok (kept, (payload ++ tail).drop payload.length)) htake

lemma decodeRawItems_eq (bs : Bytes) :
    decodeRawItems bs = (decodeList decodeItem bs).map (Prod.map (List.map Item.kept) id) := by
  rw [← decodeList_map, decodeRawItems, funext decodeRawItem_eq]

lemma length_le_flatMap {α : Type} (encode : α → Bytes) {a : α} {as : List α} (h : a ∈ as) :
    (encode a).length ≤ (as.flatMap encode).length := by
  have hpart := ((List.singleton_sublist.mpr h).flatMap encode).length_le
  rwa [List.flatMap_singleton] at hpart

lemma statable_items {items : List Item} (h : Statable (items.flatMap Item.encode).length) :
    ∀ i ∈ items, Statable i.payload.length := by
  intro i hi
  have hpart := i.length_payload_le_encode.trans (length_le_flatMap Item.encode hi)
  exact lt_of_le_of_lt hpart h

lemma exact_items :
    Exact (decodeList decodeItem) (fun items => encodeList (items.flatMap Item.encode))
      fun items => Statable (items.flatMap Item.encode).length := by
  intro bs items rest
  refine (exact_list exact_item Item.encode_ne_nil bs items rest).trans (and_congr_left' ?_)
  exact and_iff_right_of_imp statable_items

lemma decodeRawItems_bind_iff {β : Type} {next : List Bytes × Bytes → Except Fault β}
    {bs : Bytes} {b : β} :
    decodeRawItems bs >>= next = .ok b ↔
      ∃ (items : List Item) (rest : Bytes), Statable (items.flatMap Item.encode).length ∧
        bs = encodeList (items.flatMap Item.encode) ++ rest ∧
          next (items.map Item.kept, rest) = .ok b := by
  rw [decodeRawItems_eq, bind_eq_ok]
  constructor
  · rintro ⟨_, hread, hnext⟩
    obtain ⟨⟨items, rest⟩, hitems, rfl⟩ := map_eq_ok.mp hread
    obtain ⟨statable, hbs⟩ := (exact_items _ _ _).mp hitems
    exact ⟨items, rest, statable, hbs, hnext⟩
  · rintro ⟨items, rest, statable, hbs, hnext⟩
    have hitems : decodeList decodeItem bs = .ok (items, rest) :=
      (exact_items _ _ _).mpr ⟨statable, hbs⟩
    exact ⟨_, map_eq_ok.mpr ⟨(items, rest), hitems, rfl⟩, hnext⟩

lemma encode_withdrawal_ne_nil (w : Withdrawal) : w.encode ≠ [] := encodeList_ne_nil _

lemma encode_header_ne_nil (h : Header) : h.encode ≠ [] := encodeList_ne_nil _

lemma Layout.length_payload (l : Layout) : l.payload.length = l.header.encode.length +
    (l.transactionList.length +
      ((encodeList (l.uncles.flatMap Header.encode)).length +
        ((l.withdrawals.map fun ws => encodeList (ws.flatMap Withdrawal.encode)).getD []).length))
    := by
  unfold payload
  simp only [List.length_append]

lemma Layout.statable_parts {l : Layout} (h : Statable l.payload.length) :
    Statable l.header.encodeFields.length ∧ Statable (l.items.flatMap Item.encode).length ∧
      (∀ u ∈ l.uncles, Statable u.encodeFields.length) ∧
      Statable (l.uncles.flatMap Header.encode).length ∧
      ∀ ws ∈ l.withdrawals, Statable (ws.flatMap Withdrawal.encode).length := by
  have hlength := l.length_payload
  have hsmall : ∀ {n : Nat}, n ≤ l.payload.length → Statable n := fun hn => lt_of_le_of_lt hn h
  have hheader : l.header.encode.length ≤ l.payload.length := by
    rw [hlength]
    exact Nat.le_add_right _ _
  have hitems : l.transactionList.length ≤ l.payload.length := by omega
  have huncles : (l.uncles.flatMap Header.encode).length ≤ l.payload.length :=
    (length_le_encodeList _).trans (by omega)
  refine ⟨hsmall ((length_le_encodeList _).trans hheader),
    hsmall ((length_le_encodeList _).trans hitems), fun u hu => ?_, hsmall huncles, ?_⟩
  · have hpart := length_le_flatMap Header.encode hu
    exact hsmall ((length_le_encodeList _).trans (hpart.trans huncles))
  · intro ws hws
    rw [hws] at hlength
    have hlast : (encodeList (ws.flatMap Withdrawal.encode)).length ≤ l.payload.length := by
      rw [hlength]
      exact Nat.le_add_left_of_le (Nat.le_add_left_of_le (Nat.le_add_left _ _))
    exact hsmall ((length_le_encodeList _).trans hlast)

lemma decodeParts_eq_ok {bs : Bytes} {b : Block} (hsize : Statable bs.length) :
    decodeParts bs = .ok b ↔ ∃ l : Layout, (l.header.Canonical ∧ ∀ u ∈ l.uncles, u.Canonical) ∧
      b = l.block ∧ bs = l.payload := by
  have hfront : ∀ a rest : Bytes, (a ++ rest).take ((a ++ rest).length - rest.length) = a := by
    intro a rest
    rw [List.length_append, Nat.add_sub_cancel, List.take_left]
  have huncles := exact_list Header.exact_header encode_header_ne_nil
  have hwithdrawals := exact_list Withdrawal.exact_withdrawal encode_withdrawal_ne_nil
  unfold decodeParts
  rw [Header.exact_header.bind_iff]
  constructor
  · rintro ⟨header, rest, ⟨hheader, -⟩, e₁, hd⟩
    obtain ⟨items, _, -, e₂, hd⟩ := decodeRawItems_bind_iff.mp hd
    obtain ⟨uncles, _, ⟨hall, -⟩, e₃, hd⟩ := huncles.bind_iff.mp hd
    obtain ⟨withdrawals, left, ⟨-, e₄, -⟩, hd⟩ :=
      (Header.decodeOptional_bind_iff hwithdrawals fun _ => encodeList_ne_nil _).mp hd
    -- What is left of the bytes tells where the header ends.
    have hhash : keccak256 (bs.take (bs.length - rest.length)) = header.hash := by
      rw [e₁, hfront]
      rfl
    cases left with
    | nil =>
      have hb := Except.ok.inj hd
      refine ⟨⟨header, items, uncles, withdrawals⟩, ⟨hheader, fun u hu => (hall u hu).1⟩, ?_, ?_⟩
      · rw [← hb, hhash]
        rfl
      · rw [e₁, e₂, e₃, e₄, List.append_nil]
        rfl
    | cons b t => cases hd
  · rintro ⟨l, ⟨hheader, hall⟩, hb, hbs⟩
    have hstatable := hsize
    rw [hbs] at hstatable
    obtain ⟨h₁, h₂, h₃, h₄, h₅⟩ := Layout.statable_parts hstatable
    refine ⟨l.header, _, ⟨hheader, h₁⟩, hbs, ?_⟩
    refine decodeRawItems_bind_iff.mpr ⟨l.items, _, h₂, rfl, ?_⟩
    refine huncles.bind_iff.mpr ⟨l.uncles, _, ⟨fun u hu => ⟨hall u hu, h₃ u hu⟩, h₄⟩, rfl, ?_⟩
    refine (Header.decodeOptional_bind_iff hwithdrawals fun _ => encodeList_ne_nil _).mpr
      ⟨l.withdrawals, [], ⟨fun ws hws => ⟨fun _ _ => trivial, h₅ ws hws⟩,
        (List.append_nil _).symm, fun _ => rfl⟩, ?_⟩
    dsimp only
    rw [hbs, Layout.payload, hfront, hb]
    rfl

lemma decode_eq_ok {raw : Bytes} {b : Block} :
    decode raw = .ok b ↔ ∃ l : Layout, l.Canonical ∧ b = l.block ∧ raw = l.encode := by
  unfold decode
  rw [bind_eq_ok]
  constructor
  · rintro ⟨⟨⟨isList, n⟩, rest⟩, hlead, hd⟩
    cases isList with
    | false => cases hd
    | true =>
      obtain ⟨payload, tail, statable, rfl, hrest, hraw⟩ := decodeLead_eq_ok_list.mp hlead
      by_cases hlength : rest.length = payload.length
      · have htail : tail = [] := by
          rw [hrest, List.length_append] at hlength
          exact List.length_eq_zero_iff.mp (by omega)
        rw [htail, List.append_nil] at hrest hraw
        have hparts : decodeParts payload = .ok b := by
          rw [← hrest]
          simpa [hlength] using hd
        obtain ⟨l, ⟨hheader, huncles⟩, hb, hpayload⟩ := (decodeParts_eq_ok statable).mp hparts
        rw [hpayload] at statable hraw
        exact ⟨l, ⟨hheader, huncles, statable⟩, hb, hraw⟩
      · simp [hlength] at hd
  · rintro ⟨l, canonical, hb, hraw⟩
    have hlead : decodeLead raw = .ok (⟨true, l.payload.length⟩, l.payload) :=
      decodeLead_eq_ok_list.mpr ⟨l.payload, [], canonical.size, rfl,
        (List.append_nil _).symm, by rw [hraw, List.append_nil]; rfl⟩
    have hparts : decodeParts l.payload = .ok b :=
      (decodeParts_eq_ok canonical.size).mpr ⟨l, ⟨canonical.header, canonical.uncles⟩, hb, rfl⟩
    refine ⟨_, hlead, ?_⟩
    simpa using hparts

lemma Layout.encode_inj {l l' : Layout} (h : l.Canonical) (h' : l'.Canonical)
    (hencode : l.encode = l'.encode) : l = l' := by
  have hpayload : l.payload = l'.payload :=
    (exact_listPayload.inj h.size h'.size (congrArg (· ++ []) hencode)).1
  obtain ⟨h₁, h₂, -⟩ := statable_parts h.size
  obtain ⟨h₁', h₂', -⟩ := statable_parts h'.size
  obtain ⟨-, hrest⟩ := Header.exact_header.inj ⟨h.header, h₁⟩ ⟨h'.header, h₁'⟩ hpayload
  obtain ⟨hitems, -⟩ := exact_items.inj h₂ h₂' hrest
  have hblock : l.block = l'.block := by
    have hdecode := decode_eq_ok.mpr ⟨l, h, rfl, rfl⟩
    have hdecode' := decode_eq_ok.mpr ⟨l', h', rfl, rfl⟩
    rw [hencode, hdecode'] at hdecode
    exact (Except.ok.inj hdecode).symm
  obtain ⟨header, items, uncles, withdrawals⟩ := l
  obtain ⟨header', items', uncles', withdrawals'⟩ := l'
  obtain ⟨hheader, -, -, huncles, hwithdrawals⟩ := Block.mk.inj hblock
  rw [Layout.mk.injEq]
  exact ⟨hheader, hitems, huncles, hwithdrawals⟩

/-- The decoder takes the encodings of layouts and nothing else, and an encoding has one
layout. -/
theorem decode_iff_layout :
    (∀ (raw : Bytes) (b : Block), decode raw = .ok b ↔
      ∃ l : Layout, l.Canonical ∧ b = l.block ∧ raw = l.encode) ∧
    ∀ l l' : Layout, l.Canonical → l'.Canonical → l.encode = l'.encode → l = l' :=
  ⟨fun _ _ => decode_eq_ok, fun _ _ => Layout.encode_inj⟩

end Block

end ChainConformance
