import ChainConformance.Proofs.Steps
import ChainConformance.Rlp
import Mathlib.Data.List.Basic
import Mathlib.Data.List.Induction
import Mathlib.Tactic.Common
import Mathlib.Tactic.NormNum
import Mathlib.Tactic.Ring

/-!
# Exactness of the length prefix

A decoder is exact if it takes the encodings of values, whatever follows them, and nothing
else. Numbers as bytes and the leads of items come first, then each kind of item, and then
lists of items of one kind.
-/

namespace ChainConformance

lemma ofBigEndian_concat (bs : Bytes) (b : UInt8) :
    ofBigEndian (bs ++ [b]) = ofBigEndian bs * 256 + b.toNat := by
  simp [ofBigEndian, List.foldl_append]

lemma toBigEndian_zero : toBigEndian 0 = [] := by
  rw [toBigEndian]
  simp

lemma toBigEndian_of_ne_zero {n : Nat} (h : n ≠ 0) :
    toBigEndian n = toBigEndian (n / 256) ++ [UInt8.ofNat (n % 256)] := by
  rw [toBigEndian]
  simp [h]

lemma toNat_ofNat_of_lt {n : Nat} (h : n < 256) : (UInt8.ofNat n).toNat = n := by
  rw [UInt8.toNat_ofNat']
  exact Nat.mod_eq_of_lt h

lemma ofBigEndian_toBigEndian (n : Nat) : ofBigEndian (toBigEndian n) = n := by
  induction n using Nat.strong_induction_on with
  | _ n ih =>
    by_cases h : n = 0
    · rw [h, toBigEndian_zero]
      rfl
    · have hlast : (UInt8.ofNat (n % 256)).toNat = n % 256 := toNat_ofNat_of_lt (by omega)
      rw [toBigEndian_of_ne_zero h, ofBigEndian_concat, ih (n / 256) (by omega), hlast]
      omega

lemma toBigEndian_ne_nil {n : Nat} (h : n ≠ 0) : toBigEndian n ≠ [] := by
  rw [toBigEndian_of_ne_zero h]
  simp

lemma toBigEndian_ofBigEndian {bs : Bytes} (h : bs.head? ≠ some 0) :
    toBigEndian (ofBigEndian bs) = bs := by
  induction bs using List.reverseRecOn with
  | nil => exact toBigEndian_zero
  | append_singleton bs b ih =>
    have hb : b.toNat < 256 := b.toNat_lt
    -- The first byte is not zero, so neither is the number, and its last byte can be split off.
    have hvalue : ofBigEndian (bs ++ [b]) ≠ 0 := by
      rw [ofBigEndian_concat]
      cases bs with
      | nil =>
        have hne : b ≠ 0 := by simpa using h
        have : b.toNat ≠ 0 := fun h0 => hne (UInt8.toNat_inj.mp h0)
        omega
      | cons c cs =>
        have hhead : (c :: cs).head? ≠ some 0 := by simpa using h
        have : ofBigEndian (c :: cs) ≠ 0 := by
          intro h0
          have := ih hhead
          rw [h0, toBigEndian_zero] at this
          cases this
        omega
    have hinit : toBigEndian (ofBigEndian bs) = bs := by
      cases bs with
      | nil => exact toBigEndian_zero
      | cons c cs => exact ih (by simpa using h)
    rw [toBigEndian_of_ne_zero hvalue, ofBigEndian_concat]
    have hdiv : (ofBigEndian bs * 256 + b.toNat) / 256 = ofBigEndian bs := by omega
    have hmod : (ofBigEndian bs * 256 + b.toNat) % 256 = b.toNat := by omega
    rw [hdiv, hmod, hinit, UInt8.ofNat_toNat]

lemma head?_toBigEndian (n : Nat) : (toBigEndian n).head? ≠ some 0 := by
  induction n using Nat.strong_induction_on with
  | _ n ih =>
    by_cases h : n = 0
    · rw [h, toBigEndian_zero]
      simp
    · rw [toBigEndian_of_ne_zero h]
      by_cases hsmall : n / 256 = 0
      · have hlast : (UInt8.ofNat (n % 256)).toNat = n % 256 := toNat_ofNat_of_lt (by omega)
        rw [hsmall, toBigEndian_zero]
        intro h0
        have hzero : UInt8.ofNat (n % 256) = 0 := by simpa using h0
        rw [hzero, UInt8.toNat_zero] at hlast
        omega
      · rw [List.head?_append_of_ne_nil _ (toBigEndian_ne_nil hsmall)]
        exact ih (n / 256) (by omega)

lemma ofBigEndian_lt (bs : Bytes) : ofBigEndian bs < 256 ^ bs.length := by
  induction bs using List.reverseRecOn with
  | nil => simp [ofBigEndian]
  | append_singleton bs b ih =>
    have hb : b.toNat < 256 := b.toNat_lt
    have hlength : 256 ^ (bs ++ [b]).length = 256 ^ bs.length * 256 := by
      rw [List.length_append, List.length_singleton, pow_succ]
    rw [ofBigEndian_concat, hlength]
    omega

lemma length_toBigEndian_le {n k : Nat} : (toBigEndian n).length ≤ k ↔ n < 256 ^ k := by
  constructor
  · intro h
    calc n = ofBigEndian (toBigEndian n) := (ofBigEndian_toBigEndian n).symm
      _ < 256 ^ (toBigEndian n).length := ofBigEndian_lt _
      _ ≤ 256 ^ k := Nat.pow_le_pow_right (by decide) h
  · intro h
    induction k generalizing n with
    | zero =>
      obtain rfl : n = 0 := by simpa using h
      rw [toBigEndian_zero]
      simp
    | succ k ih =>
      by_cases h0 : n = 0
      · rw [h0, toBigEndian_zero]
        simp
      · have hdiv : n / 256 < 256 ^ k := by
          rw [pow_succ] at h
          omega
        rw [toBigEndian_of_ne_zero h0, List.length_append, List.length_singleton]
        exact Nat.succ_le_succ (ih hdiv)

namespace Rlp

/-! ### Leads -/

/-- A length that can be stated: one that eight bytes hold. -/
def Statable (n : Nat) : Prop := n < UInt64.size

instance (n : Nat) : Decidable (Statable n) := inferInstanceAs (Decidable (n < UInt64.size))

lemma statable_iff {n : Nat} : Statable n ↔ (toBigEndian n).length ≤ 8 := by
  rw [length_toBigEndian_le]
  exact Iff.rfl

lemma length_encodeLead (l : Lead) : (encodeLead l).length = lengthOfLead l.length := by
  unfold encodeLead lengthOfLead
  by_cases h : l.length < 56
  · simp [h]
  · simp [h]
    omega

lemma encodeLead_ne_nil (l : Lead) : encodeLead l ≠ [] := by
  unfold encodeLead
  by_cases h : l.length < 56 <;> simp [h]

lemma decodeLongLead_eq_ok {isList : Bool} {count : Nat} {bs rest : Bytes} {l : Lead} :
    decodeLongLead isList count bs = .ok (l, rest) ↔
      l.isList = isList ∧ 56 ≤ l.length ∧ (toBigEndian l.length).length = count ∧
        bs = toBigEndian l.length ++ rest := by
  unfold decodeLongLead
  constructor
  · intro h
    by_cases hshort : bs.length < count
    · simp only [hshort, if_true, reduceCtorEq] at h
    by_cases hzero : (bs.take count).head? = some 0
    · simp only [hshort, hzero, if_true, if_false, reduceCtorEq] at h
    by_cases hsmall : ofBigEndian (bs.take count) < 56
    · simp only [hshort, hzero, hsmall, if_true, if_false, reduceCtorEq] at h
    simp only [hshort, hzero, hsmall, if_false, Except.ok.injEq, Prod.mk.injEq] at h
    obtain ⟨rfl, rfl⟩ := h
    have hsize : toBigEndian (ofBigEndian (bs.take count)) = bs.take count :=
      toBigEndian_ofBigEndian hzero
    refine ⟨rfl, Nat.not_lt.mp hsmall, ?_, ?_⟩
    · rw [hsize, List.length_take]
      omega
    · rw [hsize, List.take_append_drop]
  · rintro ⟨rfl, hlong, rfl, rfl⟩
    have hlength : ¬(toBigEndian l.length ++ rest).length < (toBigEndian l.length).length := by
      rw [List.length_append]
      omega
    simp only [hlength, if_false, List.take_left, head?_toBigEndian, ofBigEndian_toBigEndian,
      List.drop_left]
    rw [if_neg (by omega)]

def leadBase (isList : Bool) : Nat := if isList then 0xC0 else 0x80

@[simp] lemma leadBase_string : leadBase false = 0x80 := rfl

@[simp] lemma leadBase_list : leadBase true = 0xC0 := rfl

lemma encodeLead_short {isList : Bool} {n : Nat} (h : n < 56) :
    encodeLead ⟨isList, n⟩ = [UInt8.ofNat (leadBase isList + n)] := by
  simp [encodeLead, leadBase, h]

lemma encodeLead_long {isList : Bool} {n : Nat} (h : 56 ≤ n) :
    encodeLead ⟨isList, n⟩ =
      UInt8.ofNat (leadBase isList + 55 + (toBigEndian n).length) :: toBigEndian n := by
  simp [encodeLead, leadBase, Nat.not_lt.mpr h]

/-- The lead of an item in front of bytes that begin with its payload. Only a single byte
below 0x80 stands without one. -/
inductive Leads : Lead → Bytes → Bytes → Prop
  | byte {b : UInt8} {t : Bytes} (small : b.toNat < 0x80) : Leads ⟨false, 1⟩ (b :: t) (b :: t)
  | lead {l : Lead} {rest : Bytes} (statable : Statable l.length)
      (needed : l = ⟨false, 1⟩ → ∃ b t, rest = b :: t ∧ 0x80 ≤ b.toNat) :
      Leads l rest (encodeLead l ++ rest)

lemma leads_of_decodeLeadOnly {bs rest : Bytes} {l : Lead}
    (h : decodeLeadOnly bs = .ok (l, rest)) : Leads l rest bs := by
  cases bs with
  | nil => cases h
  | cons b t =>
    have hb : b.toNat < 256 := b.toNat_lt
    have hofNat : ∀ n, n = b.toNat → UInt8.ofNat n = b := by
      rintro _ rfl
      exact UInt8.ofNat_toNat
    -- A short lead is the byte itself, and a long one is the byte that counts its size.
    have hshort : ∀ isList n, leadBase isList + n = b.toNat → n < 56 →
        (⟨isList, n⟩ = (⟨false, 1⟩ : Lead) → ∃ c u, t = c :: u ∧ 0x80 ≤ c.toNat) →
        Leads ⟨isList, n⟩ t (b :: t) := by
      intro isList n hbyte hn needed
      have hlead : b :: t = encodeLead ⟨isList, n⟩ ++ t := by
        rw [encodeLead_short hn, hofNat _ hbyte, List.singleton_append]
      have hsize : n < UInt64.size := lt_trans hn (by decide)
      rw [hlead]
      exact .lead hsize needed
    have hlong : ∀ isList count, leadBase isList + 55 + count = b.toNat → count ≤ 8 →
        decodeLongLead isList count t = .ok (l, rest) → Leads l rest (b :: t) := by
      intro isList count hbyte hcount hdecode
      obtain ⟨rfl, hn, rfl, rfl⟩ := decodeLongLead_eq_ok.mp hdecode
      have hlead : b :: (toBigEndian l.length ++ rest) = encodeLead l ++ rest := by
        rw [encodeLead_long hn, hofNat _ hbyte, List.cons_append]
      rw [hlead]
      refine .lead (statable_iff.mpr hcount) fun hone => ?_
      rw [hone] at hn
      exact absurd hn (by decide)
    unfold decodeLeadOnly at h
    by_cases h80 : b.toNat < 0x80
    · simp only [h80, if_true, Except.ok.injEq, Prod.mk.injEq] at h
      obtain ⟨rfl, rfl⟩ := h
      exact .byte h80
    by_cases hB8 : b.toNat < 0xB8
    · by_cases h81 : b.toNat = 0x81
      · cases t with
        | nil => simp [h81] at h
        | cons c u =>
          by_cases hc : c.toNat < 0x80
          · simp [h81, hc] at h
          · simp only [h81, hc, Nat.reduceLT, if_true, if_false, Except.ok.injEq,
              Prod.mk.injEq] at h
            obtain ⟨rfl, rfl⟩ := h
            exact hshort false 1 h81.symm (by decide) fun _ => ⟨c, u, rfl, Nat.not_lt.mp hc⟩
      · simp only [h80, hB8, h81, if_true, if_false, Except.ok.injEq, Prod.mk.injEq] at h
        obtain ⟨rfl, rfl⟩ := h
        refine hshort false _ (by simp; omega) (by omega) fun hone => ?_
        simp only [Lead.mk.injEq, true_and] at hone
        omega
    by_cases hC0 : b.toNat < 0xC0
    · simp only [h80, hB8, hC0, if_true, if_false] at h
      exact hlong false _ (by simp; omega) (by omega) h
    by_cases hF8 : b.toNat < 0xF8
    · simp only [h80, hB8, hC0, hF8, if_true, if_false, Except.ok.injEq, Prod.mk.injEq] at h
      obtain ⟨rfl, rfl⟩ := h
      refine hshort true _ (by simp; omega) (by omega) fun hone => ?_
      cases congrArg Lead.isList hone
    · simp only [h80, hB8, hC0, hF8, if_false] at h
      exact hlong true _ (by simp; omega) (by omega) h

lemma decodeLeadOnly_of_leads {bs rest : Bytes} {l : Lead} (h : Leads l rest bs) :
    decodeLeadOnly bs = .ok (l, rest) := by
  cases h with
  | byte small => simp [decodeLeadOnly, small]
  | lead statable needed =>
    obtain ⟨isList, n⟩ := l
    have hsize : (toBigEndian n).length ≤ 8 := statable_iff.mp statable
    have hbase : leadBase isList ≤ 0xC0 := by cases isList <;> decide
    by_cases hn : n < 56
    · have hbyte : (UInt8.ofNat (leadBase isList + n)).toNat = leadBase isList + n :=
        toNat_ofNat_of_lt (by omega)
      rw [encodeLead_short hn, List.singleton_append]
      unfold decodeLeadOnly
      simp only [hbyte]
      cases isList with
      | false =>
        rw [leadBase_string, if_neg (by omega), if_pos (by omega)]
        by_cases hone : n = 1
        · subst hone
          obtain ⟨c, u, rfl, hc⟩ := needed rfl
          simp only [if_true, Nat.not_lt.mpr hc, if_false]
        · rw [if_neg (by omega), Nat.add_sub_cancel_left]
      | true =>
        rw [leadBase_list, if_neg (by omega), if_neg (by omega), if_neg (by omega),
          if_pos (by omega), Nat.add_sub_cancel_left]
    · have hpos : 0 < (toBigEndian n).length :=
        List.length_pos_iff.mpr (toBigEndian_ne_nil (by omega))
      have hbyte : (UInt8.ofNat (leadBase isList + 55 + (toBigEndian n).length)).toNat =
          leadBase isList + 55 + (toBigEndian n).length := toNat_ofNat_of_lt (by omega)
      have hlong : ∀ count, count = (toBigEndian n).length →
          decodeLongLead isList count (toBigEndian n ++ rest) = .ok (⟨isList, n⟩, rest) :=
        fun count hcount =>
          decodeLongLead_eq_ok.mpr ⟨rfl, Nat.not_lt.mp hn, hcount.symm, rfl⟩
      rw [encodeLead_long (Nat.not_lt.mp hn), List.cons_append]
      unfold decodeLeadOnly
      simp only [hbyte]
      cases isList with
      | false =>
        rw [leadBase_string, if_neg (by omega), if_neg (by omega), if_pos (by omega)]
        exact hlong _ (by omega)
      | true =>
        rw [leadBase_list, if_neg (by omega), if_neg (by omega), if_neg (by omega),
          if_neg (by omega)]
        exact hlong _ (by omega)

lemma decodeLead_eq_ok {bs rest : Bytes} {l : Lead} :
    decodeLead bs = .ok (l, rest) ↔ Leads l rest bs ∧ l.length ≤ rest.length := by
  unfold decodeLead
  rw [bind_eq_ok]
  constructor
  · rintro ⟨⟨l', rest'⟩, hlead, h⟩
    by_cases hshort : rest'.length < l'.length
    · simp only [hshort, if_true, reduceCtorEq] at h
    · simp only [hshort, if_false] at h
      cases h
      exact ⟨leads_of_decodeLeadOnly hlead, Nat.not_lt.mp hshort⟩
  · rintro ⟨hleads, hlength⟩
    refine ⟨(l, rest), decodeLeadOnly_of_leads hleads, ?_⟩
    simp only [Nat.not_lt.mpr hlength, if_false]
    rfl

/-! ### Items -/

/-- A decoder takes the encodings of its valid values, whatever follows them, and no other
bytes. -/
def Exact {α : Type} (item : Bytes → Except Fault (α × Bytes)) (encode : α → Bytes)
    (valid : α → Prop) : Prop :=
  ∀ bs a rest, item bs = .ok (a, rest) ↔ valid a ∧ bs = encode a ++ rest

/-- An item of any kind: a string of bytes, or a list with its encoded items as payload. -/
structure Item where
  isList : Bool
  payload : Bytes
  deriving DecidableEq

namespace Item

def lead (i : Item) : Lead := ⟨i.isList, i.payload.length⟩

def encode (i : Item) : Bytes :=
  if i.isList then encodeList i.payload else encodeString i.payload

@[simp] lemma encode_list (bs : Bytes) : encode ⟨true, bs⟩ = encodeList bs := rfl

@[simp] lemma encode_string (bs : Bytes) : encode ⟨false, bs⟩ = encodeString bs := rfl

end Item

lemma encodeString_singleton (b : UInt8) :
    encodeString [b] = if b.toNat < 0x80 then [b] else encodeLead ⟨false, 1⟩ ++ [b] := rfl

lemma encodeString_of_length {bs : Bytes} (h : bs.length ≠ 1) :
    encodeString bs = encodeLead ⟨false, bs.length⟩ ++ bs := by
  match bs with
  | [] => rfl
  | [b] => exact absurd rfl h
  | b :: c :: t => rfl

lemma leads_item {i : Item} (h : Statable i.payload.length) (tail : Bytes) :
    Leads i.lead (i.payload ++ tail) (i.encode ++ tail) := by
  obtain ⟨_ | _, payload⟩ := i
  · by_cases hone : payload.length = 1
    · obtain ⟨b, rfl⟩ := List.length_eq_one_iff.mp hone
      rw [Item.encode_string, encodeString_singleton]
      by_cases hb : b.toNat < 0x80
      · rw [if_pos hb]
        exact .byte hb
      · rw [if_neg hb, List.append_assoc]
        exact .lead h fun _ => ⟨b, tail, rfl, Nat.not_lt.mp hb⟩
    · rw [Item.encode_string, encodeString_of_length hone, List.append_assoc]
      exact .lead h fun hlead => absurd (congrArg Lead.length hlead) hone
  · rw [Item.encode_list, encodeList, List.append_assoc]
    exact .lead h fun hlead => by cases congrArg Lead.isList hlead

lemma Leads.exists_item {l : Lead} {rest bs : Bytes} (h : Leads l rest bs)
    (hlength : l.length ≤ rest.length) :
    ∃ (i : Item) (tail : Bytes), Statable i.payload.length ∧ l = i.lead ∧
      rest = i.payload ++ tail ∧ bs = i.encode ++ tail := by
  cases h with
  | @byte b t small =>
    refine ⟨⟨false, [b]⟩, t, (by decide : Statable 1), rfl, rfl, ?_⟩
    rw [Item.encode_string, encodeString_singleton, if_pos small]
    rfl
  | lead statable needed =>
    obtain ⟨isList, n⟩ := l
    have hn : (rest.take n).length = n := by
      rw [List.length_take]
      exact min_eq_left hlength
    refine ⟨⟨isList, rest.take n⟩, rest.drop n, by rwa [hn], by rw [Item.lead, hn],
      (List.take_append_drop n rest).symm, ?_⟩
    cases isList with
    | false =>
      rw [Item.encode_string]
      by_cases hone : n = 1
      · subst hone
        obtain ⟨b, t, rfl, hb⟩ := needed rfl
        rw [List.take_succ_cons, List.take_zero, encodeString_singleton,
          if_neg (Nat.not_lt.mpr hb), List.append_assoc]
        rfl
      · rw [encodeString_of_length (by rw [hn]; exact hone), hn, List.append_assoc,
          List.take_append_drop]
    | true => rw [Item.encode_list, encodeList, hn, List.append_assoc, List.take_append_drop]

lemma decodeLead_eq_ok_item {bs rest : Bytes} {l : Lead} :
    decodeLead bs = .ok (l, rest) ↔
      ∃ (i : Item) (tail : Bytes), Statable i.payload.length ∧ l = i.lead ∧
        rest = i.payload ++ tail ∧ bs = i.encode ++ tail := by
  rw [decodeLead_eq_ok]
  constructor
  · exact fun ⟨hleads, hlength⟩ => hleads.exists_item hlength
  · rintro ⟨i, tail, statable, rfl, rfl, rfl⟩
    refine ⟨leads_item statable tail, ?_⟩
    rw [List.length_append]
    exact Nat.le_add_right _ _

lemma decodeLead_eq_ok_list {bs rest : Bytes} {n : Nat} :
    decodeLead bs = .ok (⟨true, n⟩, rest) ↔
      ∃ payload tail : Bytes, Statable payload.length ∧ n = payload.length ∧
        rest = payload ++ tail ∧ bs = encodeList payload ++ tail := by
  rw [decodeLead_eq_ok_item]
  constructor
  · rintro ⟨⟨_, payload⟩, tail, statable, hlead, hrest, hbs⟩
    obtain ⟨rfl, hn⟩ := Lead.mk.inj hlead
    exact ⟨payload, tail, statable, hn, hrest, hbs⟩
  · rintro ⟨payload, tail, statable, rfl, hrest, hbs⟩
    exact ⟨⟨true, payload⟩, tail, statable, rfl, hrest, hbs⟩

lemma decodeLead_item {i : Item} (h : Statable i.payload.length) (tail : Bytes) :
    decodeLead (i.encode ++ tail) = .ok (i.lead, i.payload ++ tail) :=
  decodeLead_eq_ok_item.mpr ⟨i, tail, h, rfl, rfl, rfl⟩

def decodeItem (bs : Bytes) : Except Fault (Item × Bytes) := do
  let (lead, rest) ← decodeLead bs
  return (⟨lead.isList, rest.take lead.length⟩, rest.drop lead.length)

lemma exact_item : Exact decodeItem Item.encode fun i => Statable i.payload.length := by
  intro bs i rest
  unfold decodeItem
  rw [bind_eq_ok]
  constructor
  · rintro ⟨⟨l, rest'⟩, hlead, h⟩
    obtain ⟨j, tail, statable, rfl, rfl, rfl⟩ := decodeLead_eq_ok_item.mp hlead
    simp only [Item.lead, List.take_left, List.drop_left] at h
    cases h
    exact ⟨statable, rfl⟩
  · rintro ⟨statable, rfl⟩
    refine ⟨_, decodeLead_item statable rest, ?_⟩
    simp only [Item.lead, List.take_left, List.drop_left]
    rfl

section Kinds

variable {α β : Type} {item : Bytes → Except Fault (α × Bytes)} {encode : α → Bytes}
  {valid : α → Prop}

lemma Exact.decode_append (h : Exact item encode valid) {a : α} (ha : valid a)
    (rest : Bytes) : item (encode a ++ rest) = .ok (a, rest) := (h _ a rest).mpr ⟨ha, rfl⟩

lemma Exact.bind_iff (h : Exact item encode valid) {next : α × Bytes → Except Fault β}
    {bs : Bytes} {b : β} :
    item bs >>= next = .ok b ↔
      ∃ a rest, valid a ∧ bs = encode a ++ rest ∧ next (a, rest) = .ok b := by
  rw [bind_eq_ok]
  constructor
  · rintro ⟨⟨a, rest⟩, ha, hnext⟩
    obtain ⟨hvalid, hbs⟩ := (h _ _ _).mp ha
    exact ⟨a, rest, hvalid, hbs, hnext⟩
  · rintro ⟨a, rest, hvalid, hbs, hnext⟩
    exact ⟨(a, rest), (h _ _ _).mpr ⟨hvalid, hbs⟩, hnext⟩

lemma Exact.inj (h : Exact item encode valid) {a a' : α} {rest rest' : Bytes} (ha : valid a)
    (ha' : valid a') (hbs : encode a ++ rest = encode a' ++ rest') : a = a' ∧ rest = rest' := by
  have hread : item (encode a ++ rest) = .ok (a', rest') := (h _ _ _).mpr ⟨ha', hbs⟩
  rw [h.decode_append ha] at hread
  exact Prod.mk.inj (Except.ok.inj hread)

lemma Exact.map (h : Exact item encode valid) {f : α → β} {g : β → α}
    (hgf : ∀ a, valid a → g (f a) = a) (hfg : ∀ b, f (g b) = b) (hg : ∀ b, valid (g b)) :
    Exact (fun bs => do let (a, rest) ← item bs; return (f a, rest)) (fun b => encode (g b))
      fun _ => True := by
  intro bs b rest
  rw [bind_eq_ok]
  constructor
  · rintro ⟨⟨a, rest'⟩, ha, hb⟩
    cases hb
    obtain ⟨hvalid, rfl⟩ := (h _ _ _).mp ha
    exact ⟨trivial, by simp only [hgf a hvalid]⟩
  · rintro ⟨_, rfl⟩
    refine ⟨(g b, rest), h.decode_append (hg b) rest, ?_⟩
    simp only [hfg]
    rfl

lemma decodeString_eq (bs : Bytes) : decodeString bs = decodeItem bs >>= fun p =>
    if p.1.isList then .error .unexpectedList else .ok (p.1.payload, p.2) := by
  unfold decodeString decodeItem
  cases decodeLead bs <;> rfl

lemma decodeListPayload_eq (bs : Bytes) : decodeListPayload bs = decodeItem bs >>= fun p =>
    if p.1.isList then .ok (p.1.payload, p.2) else .error .unexpectedString := by
  unfold decodeListPayload decodeItem
  cases decodeLead bs <;> rfl

lemma exact_string : Exact decodeString encodeString fun bs => Statable bs.length := by
  intro bs p rest
  rw [decodeString_eq, bind_eq_ok]
  constructor
  · rintro ⟨⟨⟨isList, payload⟩, rest'⟩, hitem, h⟩
    cases isList with
    | true => cases h
    | false =>
      cases h
      exact (exact_item _ _ _).mp hitem
  · rintro ⟨statable, rfl⟩
    exact ⟨(⟨false, p⟩, rest), (exact_item _ _ _).mpr ⟨statable, rfl⟩, rfl⟩

lemma exact_listPayload :
    Exact decodeListPayload encodeList fun bs => Statable bs.length := by
  intro bs p rest
  rw [decodeListPayload_eq, bind_eq_ok]
  constructor
  · rintro ⟨⟨⟨isList, payload⟩, rest'⟩, hitem, h⟩
    cases isList with
    | false => cases h
    | true =>
      cases h
      exact (exact_item _ _ _).mp hitem
  · rintro ⟨statable, rfl⟩
    exact ⟨(⟨true, p⟩, rest), (exact_item _ _ _).mpr ⟨statable, rfl⟩, rfl⟩

lemma exact_natural (width : Nat) (hwidth : Statable width) :
    Exact (decodeNatural width) encodeNatural (· < 256 ^ width) := by
  intro bs n rest
  unfold decodeNatural encodeNatural
  rw [bind_eq_ok]
  constructor
  · rintro ⟨⟨payload, rest'⟩, hstring, h⟩
    by_cases hzero : payload.head? = some 0
    · simp only [hzero, if_true, reduceCtorEq] at h
    by_cases hwide : width < payload.length
    · simp only [hzero, hwide, if_true, if_false, reduceCtorEq] at h
    simp only [hzero, hwide, if_false] at h
    cases h
    have hbytes : toBigEndian (ofBigEndian payload) = payload := toBigEndian_ofBigEndian hzero
    refine ⟨length_toBigEndian_le.mp ?_, ?_⟩
    · rw [hbytes]
      exact Nat.not_lt.mp hwide
    · rw [hbytes]
      exact ((exact_string _ _ _).mp hstring).2
  · rintro ⟨hn, rfl⟩
    have hlength : (toBigEndian n).length ≤ width := length_toBigEndian_le.mpr hn
    refine ⟨(toBigEndian n, rest), exact_string.decode_append ?_ rest, ?_⟩
    · exact lt_of_le_of_lt hlength hwidth
    · simp only [head?_toBigEndian, Nat.not_lt.mpr hlength, if_false, ofBigEndian_toBigEndian]
      rfl

lemma exact_word : Exact decodeWord encodeWord fun _ => True := by
  have hsize : 256 ^ 32 = 2 ^ 256 := by norm_num
  refine (exact_natural 32 (by decide)).map (g := BitVec.toNat) ?_ ?_ ?_
  · intro n hn
    rw [BitVec.toNat_ofNat, ← hsize]
    exact Nat.mod_eq_of_lt hn
  · exact fun w => by simp
  · intro w
    rw [hsize]
    exact w.isLt

lemma exact_uint64 : Exact decodeUInt64 encodeUInt64 fun _ => True := by
  refine (exact_natural 8 (by decide)).map (g := UInt64.toNat) ?_ ?_ ?_
  · intro n hn
    rw [UInt64.toNat_ofNat']
    exact Nat.mod_eq_of_lt hn
  · exact fun n => UInt64.ofNat_toNat
  · exact fun n => n.toNat_lt

lemma exact_fixed (n : Nat) (hn : Statable n) :
    Exact (decodeFixed (n := n)) encodeFixed fun _ => True := by
  intro bs a rest
  unfold decodeFixed
  rw [bind_eq_ok]
  constructor
  · rintro ⟨⟨payload, rest'⟩, hstring, h⟩
    by_cases hlength : payload.length = n
    · simp only [FixedBytes.ofBytes?, hlength, dif_pos] at h
      cases h
      exact ⟨trivial, ((exact_string _ _ _).mp hstring).2⟩
    · simp only [FixedBytes.ofBytes?, hlength, dif_neg, not_false_eq_true, reduceCtorEq] at h
  · rintro ⟨_, rfl⟩
    refine ⟨(a.bytes, rest), exact_string.decode_append ?_ rest, ?_⟩
    · rw [a.length_eq]
      exact hn
    · simp only [FixedBytes.ofBytes?, a.length_eq, dif_pos]
      rfl

/-! ### Lists -/

lemma decodeItems_nil (hencode : ∀ a, encode a ≠ []) {fuel : Nat} {as : List α} :
    decodeItems item fuel [] = .ok as ↔ (∀ a ∈ as, valid a) ∧ [] = as.flatMap encode := by
  have hnil : decodeItems item fuel [] = .ok [] := by cases fuel <;> rfl
  rw [hnil]
  cases as with
  | nil => simp
  | cons a others => simp [hencode a]

/-- Items are read one after another up to the end of the bytes. -/
lemma decodeItems_eq_ok (h : Exact item encode valid) (hencode : ∀ a, encode a ≠ [])
    {fuel : Nat} {bs : Bytes} (hfuel : bs.length ≤ fuel) {as : List α} :
    decodeItems item fuel bs = .ok as ↔ (∀ a ∈ as, valid a) ∧ bs = as.flatMap encode := by
  induction fuel generalizing bs as with
  | zero =>
    obtain rfl : bs = [] := List.length_eq_zero_iff.mp (Nat.le_zero.mp hfuel)
    exact decodeItems_nil hencode
  | succ fuel ih =>
    cases bs with
    | nil => exact decodeItems_nil hencode
    | cons b t =>
      rw [decodeItems, bind_eq_ok]
      · constructor
        · rintro ⟨⟨a, rest⟩, ha, hrest⟩
          obtain ⟨others, hothers, hpure⟩ := bind_eq_ok.mp hrest
          cases hpure
          obtain ⟨hvalid, hbs⟩ := (h _ _ _).mp ha
          -- The item takes at least one byte, so there is fuel for what follows it.
          have hlength : (b :: t).length = (encode a).length + rest.length := by
            rw [hbs, List.length_append]
          have hpos : 0 < (encode a).length := List.length_pos_iff.mpr (hencode a)
          obtain ⟨hvalids, hrest⟩ := (ih (by omega)).mp hothers
          refine ⟨List.forall_mem_cons.mpr ⟨hvalid, hvalids⟩, ?_⟩
          rw [hbs, hrest, List.flatMap_cons]
        · rintro ⟨hvalids, hbs⟩
          cases as with
          | nil => cases hbs
          | cons a others =>
            obtain ⟨hvalid, hvalids⟩ := List.forall_mem_cons.mp hvalids
            rw [List.flatMap_cons] at hbs
            have hlength : (b :: t).length =
                (encode a).length + (others.flatMap encode).length := by
              rw [hbs, List.length_append]
            have hpos : 0 < (encode a).length := List.length_pos_iff.mpr (hencode a)
            refine ⟨(a, others.flatMap encode), (h _ _ _).mpr ⟨hvalid, hbs⟩, ?_⟩
            exact bind_eq_ok.mpr ⟨others, (ih (by omega)).mpr ⟨hvalids, rfl⟩, rfl⟩
      · exact nofun

lemma exact_list (h : Exact item encode valid) (hencode : ∀ a, encode a ≠ []) :
    Exact (decodeList item) (fun as => encodeList (as.flatMap encode)) fun as =>
      (∀ a ∈ as, valid a) ∧ Statable (as.flatMap encode).length := by
  intro bs as rest
  unfold decodeList
  rw [bind_eq_ok]
  constructor
  · rintro ⟨⟨payload, rest'⟩, hpayload, hitems⟩
    obtain ⟨as', has', hpure⟩ := bind_eq_ok.mp hitems
    cases hpure
    obtain ⟨statable, rfl⟩ := (exact_listPayload _ _ _).mp hpayload
    obtain ⟨hvalid, rfl⟩ := (decodeItems_eq_ok h hencode le_rfl).mp has'
    exact ⟨⟨hvalid, statable⟩, rfl⟩
  · rintro ⟨⟨hvalid, statable⟩, rfl⟩
    refine ⟨(as.flatMap encode, rest), exact_listPayload.decode_append statable rest, ?_⟩
    exact bind_eq_ok.mpr ⟨as, (decodeItems_eq_ok h hencode le_rfl).mpr ⟨hvalid, rfl⟩, rfl⟩

lemma decodeItems_map (f : α → β) (fuel : Nat) (bs : Bytes) :
    decodeItems (fun bs => (item bs).map (Prod.map f id)) fuel bs =
      (decodeItems item fuel bs).map (List.map f) := by
  induction fuel generalizing bs with
  | zero => cases bs <;> rfl
  | succ fuel ih =>
    cases bs with
    | nil => rfl
    | cons b t =>
      simp only [decodeItems]
      cases item (b :: t) with
      | error e => rfl
      | ok p =>
        change (decodeItems _ fuel p.2 >>= fun others => Except.ok (f p.1 :: others)) =
          (decodeItems item fuel p.2 >>= fun others => Except.ok (p.1 :: others)).map (List.map f)
        rw [ih]
        cases decodeItems item fuel p.2 <;> rfl

lemma decodeList_map (f : α → β) (bs : Bytes) :
    decodeList (fun bs => (item bs).map (Prod.map f id)) bs =
      (decodeList item bs).map (Prod.map (List.map f) id) := by
  unfold decodeList
  cases decodeListPayload bs with
  | error e => rfl
  | ok p =>
    change (decodeItems _ p.1.length p.1 >>= fun items => Except.ok (items, p.2)) =
      (decodeItems item p.1.length p.1 >>= fun items => Except.ok (items, p.2)).map _
    rw [decodeItems_map]
    cases decodeItems item p.1.length p.1 <;> rfl

end Kinds

lemma encodeList_ne_nil (bs : Bytes) : encodeList bs ≠ [] := by
  simp [encodeList, encodeLead_ne_nil]

lemma encodeString_ne_nil (bs : Bytes) : encodeString bs ≠ [] := by
  by_cases hone : bs.length = 1
  · obtain ⟨b, rfl⟩ := List.length_eq_one_iff.mp hone
    rw [encodeString_singleton]
    split_ifs <;> simp
  · simp [encodeString_of_length hone, encodeLead_ne_nil]

lemma Item.encode_ne_nil (i : Item) : i.encode ≠ [] := by
  obtain ⟨_ | _, payload⟩ := i
  · exact encodeString_ne_nil payload
  · exact encodeList_ne_nil payload

lemma length_encodeString (bs : Bytes) : (encodeString bs).length = lengthOfString bs := by
  match bs with
  | [] => rfl
  | [b] =>
    have hlength : lengthOfString [b] = if b.toNat < 0x80 then 1 else 2 := rfl
    rw [encodeString_singleton, hlength]
    split_ifs
    · rfl
    · rw [List.length_append, length_encodeLead]
      rfl
  | b :: c :: t =>
    rw [encodeString_of_length (by simp), List.length_append, length_encodeLead]
    rfl

lemma length_encodeList (bs : Bytes) :
    (encodeList bs).length = lengthOfLead bs.length + bs.length := by
  rw [encodeList, List.length_append, length_encodeLead]

lemma length_encodeString_le {bs : Bytes} (h : bs.length < 56) :
    (encodeString bs).length ≤ bs.length + 1 := by
  by_cases hone : bs.length = 1
  · obtain ⟨b, rfl⟩ := List.length_eq_one_iff.mp hone
    rw [length_encodeString]
    change (if b.toNat < 0x80 then 1 else 2) ≤ 2
    split_ifs <;> decide
  · have hlead : lengthOfLead bs.length = 1 := if_pos h
    rw [encodeString_of_length hone, List.length_append, length_encodeLead, hlead, Nat.add_comm]

lemma length_le_encodeString (bs : Bytes) : bs.length ≤ (encodeString bs).length := by
  by_cases hone : bs.length = 1
  · rw [hone]
    exact List.length_pos_iff.mpr (encodeString_ne_nil _)
  · rw [encodeString_of_length hone, List.length_append]
    exact Nat.le_add_left _ _

lemma length_le_encodeList (bs : Bytes) : bs.length ≤ (encodeList bs).length := by
  rw [length_encodeList]
  exact Nat.le_add_left _ _

lemma Item.length_payload_le_encode (i : Item) : i.payload.length ≤ i.encode.length := by
  obtain ⟨_ | _, payload⟩ := i
  · exact length_le_encodeString payload
  · exact length_le_encodeList payload

lemma length_encodeNatural {n : Nat} (h : n < 256 ^ 55) :
    (encodeNatural n).length = lengthOfNatural n := by
  have hshort : (toBigEndian n).length ≤ 55 := length_toBigEndian_le.mpr h
  unfold encodeNatural lengthOfNatural
  by_cases hone : (toBigEndian n).length = 1
  · obtain ⟨b, hb⟩ := List.length_eq_one_iff.mp hone
    have hvalue : b.toNat = n := by
      have := ofBigEndian_toBigEndian n
      rw [hb] at this
      simpa [ofBigEndian] using this
    rw [hb, encodeString_singleton, hvalue]
    split_ifs
    · rfl
    · rw [List.length_append, length_encodeLead]
      rfl
  · have hsmall : n < 0x80 → n = 0 := by
      intro hn
      by_contra h0
      have hle : (toBigEndian n).length ≤ 1 := length_toBigEndian_le.mpr (by omega)
      have hpos : 0 < (toBigEndian n).length :=
        List.length_pos_iff.mpr (toBigEndian_ne_nil h0)
      omega
    have hlead : lengthOfLead (toBigEndian n).length = 1 := by
      unfold lengthOfLead
      rw [if_pos (by omega)]
    rw [encodeString_of_length hone, List.length_append, length_encodeLead, hlead]
    split_ifs with hn
    · rw [hsmall hn, toBigEndian_zero]
      rfl
    · rfl

lemma length_encodeWord (w : Word) : (encodeWord w).length = lengthOfNatural w.toNat :=
  length_encodeNatural (lt_trans w.isLt (by norm_num))

end Rlp

end ChainConformance
