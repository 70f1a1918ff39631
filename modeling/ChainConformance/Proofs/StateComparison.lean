import ChainConformance.Proofs.StateForms

/-!
# Comparison of states

The list of mismatches between two states is determined by what the states hold: every
difference is in it once, at its place, and nothing else is. It is empty if and only if the
normal forms of the states are the same, and it is read the other way round when the states
are exchanged.
-/

namespace ChainConformance

lemma OrderedMap.unionKeys_comm {κ ν μ : Type} [Key κ] (a : OrderedMap κ ν)
    (b : OrderedMap κ μ) : a.unionKeys b = b.unionKeys a := by
  refine eq_of_sorted (keys_sorted _) (keys_sorted _) fun k => ?_
  rw [mem_unionKeys_iff, mem_unionKeys_iff]
  exact or_comm

lemma Account.normalized_same (a : Account) : a.normalized.Same a where
  balance := rfl
  code := rfl
  nonce := rfl
  slot key := by
    rw [slot, get?_normalized]
    by_cases hkey : a.slot key = 0
    · rw [if_pos hkey, hkey]
      rfl
    · rw [if_neg hkey]
      rfl

namespace Alloc

lemma normalized_same (s : Alloc) : s.normalized.Same s := by
  intro address
  rw [normalized, OrderedMap.get?_mapValues]
  cases s.get? address with
  | none => exact .none
  | some a => exact .some a.normalized_same

lemma normalized_eq_iff {s t : Alloc} : s.normalized = t.normalized ↔ s.Same t := by
  constructor
  · intro h address
    have hget := congrArg (·.get? address) h
    simp only [normalized, OrderedMap.get?_mapValues] at hget
    cases hs : s.get? address <;> cases ht : t.get? address <;> rw [hs, ht] at hget
    · exact .none
    · cases hget
    · cases hget
    · exact .some (Account.normalized_eq_iff.mp (Option.some.inj hget))
  · intro h
    refine OrderedMap.ext_get? fun address => ?_
    rw [normalized, normalized, OrderedMap.get?_mapValues, OrderedMap.get?_mapValues]
    have haddress := h address
    generalize s.get? address = x, t.get? address = y at haddress
    cases haddress with
    | none => rfl
    | some hsame => exact congrArg some (Account.normalized_eq_iff.mpr hsame)

end Alloc

namespace Mismatch

def account : Mismatch → Address
  | balance a .. | nonce a .. | code a .. | slot a .. => a
  | missingAccount a | unexpectedAccount a => a

/-- Where a difference stands among those of one account: balance, nonce and code come first,
and then the slots by their keys. -/
def place : Mismatch → Nat
  | missingAccount _ | unexpectedAccount _ => 0
  | balance .. => 1
  | nonce .. => 2
  | code .. => 3
  | slot _ key .. => 4 + key.toNat

/-- The order of differences: by the addresses, and then by their places in an account. No
difference is before itself. -/
def Before (m n : Mismatch) : Prop :=
  Key.before m.account n.account = true ∨ m.account = n.account ∧ m.place < n.place

/-- What differs between two states: an account that one of them does not have, and what the
accounts hold that both of them have. -/
inductive Between (expected observed : Alloc) : Mismatch → Prop
  | missing {address : Address} {a : Account} (held : expected.get? address = some a)
      (absent : observed.get? address = none) :
      Between expected observed (.missingAccount address)
  | unexpected {address : Address} {b : Account} (absent : expected.get? address = none)
      (held : observed.get? address = some b) :
      Between expected observed (.unexpectedAccount address)
  | balance {address : Address} {a b : Account} (held : expected.get? address = some a)
      (held' : observed.get? address = some b) (differs : a.balance ≠ b.balance) :
      Between expected observed (.balance address a.balance b.balance)
  | nonce {address : Address} {a b : Account} (held : expected.get? address = some a)
      (held' : observed.get? address = some b) (differs : a.nonce ≠ b.nonce) :
      Between expected observed (.nonce address a.nonce b.nonce)
  | code {address : Address} {a b : Account} (held : expected.get? address = some a)
      (held' : observed.get? address = some b) (differs : a.code ≠ b.code) :
      Between expected observed (.code address a.code b.code)
  | slot {address : Address} {a b : Account} (key : Word)
      (held : expected.get? address = some a) (held' : observed.get? address = some b)
      (differs : a.slot key ≠ b.slot key) :
      Between expected observed (.slot address key (a.slot key) (b.slot key))

/-- The difference as it is when the other of the two states is the one expected. -/
def exchanged : Mismatch → Mismatch
  | balance a e o => balance a o e
  | nonce a e o => nonce a o e
  | code a e o => code a o e
  | slot a key e o => slot a key o e
  | missingAccount a => unexpectedAccount a
  | unexpectedAccount a => missingAccount a

section Accounts

variable {address : Address} {a b : Account} {m n : Mismatch}

/-- The differences are those of one account, in their order, from one place up to another. -/
structure Listed (address : Address) (first last : Nat) (ms : List Mismatch) : Prop where
  pairwise : ms.Pairwise Before
  within : ∀ m ∈ ms, m.account = address ∧ first ≤ m.place ∧ m.place < last

lemma Listed.append {first mid last : Nat} {ms ns : List Mismatch}
    (h : Listed address first mid ms) (h' : Listed address mid last ns) (hle : first ≤ mid)
    (hle' : mid ≤ last) : Listed address first last (ms ++ ns) where
  pairwise := by
    rw [List.pairwise_append]
    refine ⟨h.pairwise, h'.pairwise, fun m hm n hn => Or.inr ?_⟩
    obtain ⟨haddress, -, hlt⟩ := h.within m hm
    obtain ⟨haddress', hle, -⟩ := h'.within n hn
    exact ⟨haddress.trans haddress'.symm, Nat.lt_of_lt_of_le hlt hle⟩
  within := by
    intro m hm
    rcases List.mem_append.mp hm with hm | hm
    · obtain ⟨haddress, hfirst, hmid⟩ := h.within m hm
      exact ⟨haddress, hfirst, Nat.lt_of_lt_of_le hmid hle'⟩
    · obtain ⟨haddress, hmid, hlast⟩ := h'.within m hm
      exact ⟨haddress, Nat.le_trans hle hmid, hlast⟩

lemma listed_field {α : Type} [DecidableEq α] (x y : α) (m : Mismatch) :
    Listed m.account m.place (m.place + 1) (if x = y then [] else [m]) := by
  split
  · exact ⟨.nil, nofun⟩
  · refine ⟨List.pairwise_singleton _ _, fun n hn => ?_⟩
    rw [List.mem_singleton.mp hn]
    exact ⟨rfl, Nat.le_refl _, Nat.lt_succ_self _⟩

lemma listed_slots : Listed address 4 (4 + Nat.pow 2 256)
    ((a.storage.unionKeys b.storage).flatMap (ofSlot address a b)) where
  pairwise := by
    rw [List.pairwise_flatMap]
    constructor
    · intro key _
      unfold ofSlot
      split
      · exact .nil
      · exact List.pairwise_singleton _ _
    · refine (OrderedMap.keys_sorted _).imp fun {key key'} hbefore m hm n hn => ?_
      obtain ⟨-, rfl⟩ := mem_ofSlot_iff.mp hm
      obtain ⟨-, rfl⟩ := mem_ofSlot_iff.mp hn
      have hlt : key.toNat < key'.toNat := of_decide_eq_true hbefore
      exact Or.inr ⟨rfl, Nat.add_lt_add_left hlt 4⟩
  within := by
    intro m hm
    obtain ⟨key, -, rfl⟩ := mem_slots_iff.mp hm
    exact ⟨rfl, Nat.le_add_right _ _, Nat.add_lt_add_left key.isLt 4⟩

lemma listed_ofAccounts : Listed address 1 (4 + Nat.pow 2 256) (ofAccounts address a b) := by
  have hbalance : Listed address 1 2 _ :=
    listed_field a.balance b.balance (.balance address a.balance b.balance)
  have hnonce : Listed address 2 3 _ :=
    listed_field a.nonce b.nonce (.nonce address a.nonce b.nonce)
  have hcode : Listed address 3 4 _ := listed_field a.code b.code (.code address a.code b.code)
  have hfields := (hbalance.append hnonce (by omega) (by omega)).append hcode (by omega)
    (by omega)
  exact hfields.append listed_slots (by omega) (Nat.le_add_right _ _)

lemma ofAccounts_eq_nil_iff : ofAccounts address a b = [] ↔ a.Same b := by
  rw [List.eq_nil_iff_forall_not_mem]
  constructor
  · intro h
    have hnone : ∀ m, m ∉ ofAccounts address a b := h
    simp only [mem_ofAccounts_iff, not_or, not_exists, not_and] at hnone
    refine ⟨?_, ?_, ?_, fun key => ?_⟩
    all_goals by_contra hne
    · exact (hnone _).1 hne rfl
    · exact (hnone _).2.2.1 hne rfl
    · exact (hnone _).2.1 hne rfl
    · exact (hnone _).2.2.2 key hne rfl
  · intro h m hm
    rcases mem_ofAccounts_iff.mp hm with ⟨hne, -⟩ | ⟨hne, -⟩ | ⟨hne, -⟩ | ⟨key, hne, -⟩
    · exact hne h.balance
    · exact hne h.nonce
    · exact hne h.code
    · exact hne (h.slot key)

lemma ofSlot_exchanged (key : Word) :
    ofSlot address b a key = (ofSlot address a b key).map exchanged := by
  unfold ofSlot
  by_cases h : a.slot key = b.slot key
  · rw [if_pos h, if_pos h.symm]
    rfl
  · rw [if_neg h, if_neg (Ne.symm h)]
    rfl

lemma ofAccounts_exchanged : ofAccounts address b a = (ofAccounts address a b).map exchanged := by
  have hfield : ∀ {α : Type} [DecidableEq α] (x y : α) (m : Mismatch),
      (if y = x then [] else [m.exchanged]) = (if x = y then [] else [m]).map exchanged := by
    intro α _ x y m
    by_cases h : x = y
    · rw [if_pos h, if_pos h.symm]
      rfl
    · rw [if_neg h, if_neg (Ne.symm h)]
      rfl
  have hslots : (b.storage.unionKeys a.storage).flatMap (ofSlot address b a) =
      ((a.storage.unionKeys b.storage).flatMap (ofSlot address a b)).map exchanged := by
    rw [OrderedMap.unionKeys_comm, List.map_flatMap]
    exact List.flatMap_congr fun key _ => ofSlot_exchanged key
  simp only [ofAccounts, List.map_append, ← hfield, ← hslots]
  rfl

end Accounts

section States

variable {e o : Alloc} {m : Mismatch}

lemma mem_ofAddress_iff {address : Address} :
    m ∈ ofAddress e o address ↔ Between e o m ∧ m.account = address := by
  constructor
  · intro hm
    unfold ofAddress at hm
    cases he : e.get? address <;> cases ho : o.get? address <;> rw [he, ho] at hm
    · cases hm
    · rw [List.mem_singleton.mp hm]
      exact ⟨.unexpected he ho, rfl⟩
    · rw [List.mem_singleton.mp hm]
      exact ⟨.missing he ho, rfl⟩
    · rcases mem_ofAccounts_iff.mp hm with
        ⟨hne, rfl⟩ | ⟨hne, rfl⟩ | ⟨hne, rfl⟩ | ⟨key, hne, rfl⟩
      · exact ⟨.balance he ho hne, rfl⟩
      · exact ⟨.nonce he ho hne, rfl⟩
      · exact ⟨.code he ho hne, rfl⟩
      · exact ⟨.slot key he ho hne, rfl⟩
  · rintro ⟨hm, rfl⟩
    unfold ofAddress
    cases hm with
    | missing held absent | unexpected absent held =>
      simp only [account, held, absent]
      exact List.mem_singleton_self _
    | balance held held' differs =>
      simp only [account, held, held']
      exact mem_ofAccounts_iff.mpr (Or.inl ⟨differs, rfl⟩)
    | nonce held held' differs =>
      simp only [account, held, held']
      exact mem_ofAccounts_iff.mpr (Or.inr (Or.inl ⟨differs, rfl⟩))
    | code held held' differs =>
      simp only [account, held, held']
      exact mem_ofAccounts_iff.mpr (Or.inr (Or.inr (Or.inl ⟨differs, rfl⟩)))
    | slot key held held' differs =>
      simp only [account, held, held']
      exact mem_ofAccounts_iff.mpr (Or.inr (Or.inr (Or.inr ⟨key, differs, rfl⟩)))

/-- The list has the differences between the states, and no others. -/
lemma mem_ofStates_iff : m ∈ ofStates e o ↔ Between e o m := by
  rw [ofStates, List.mem_flatMap]
  constructor
  · rintro ⟨address, -, hm⟩
    exact (mem_ofAddress_iff.mp hm).1
  · intro h
    have hm : m ∈ ofAddress e o m.account := mem_ofAddress_iff.mpr ⟨h, rfl⟩
    exact ⟨m.account, mem_unionKeys_of_ofAddress (List.ne_nil_of_mem hm), hm⟩

lemma pairwise_ofStates (e o : Alloc) : (ofStates e o).Pairwise Before := by
  rw [ofStates, List.pairwise_flatMap]
  constructor
  · intro address _
    unfold ofAddress
    cases e.get? address <;> cases o.get? address
    · exact .nil
    · exact List.pairwise_singleton _ _
    · exact List.pairwise_singleton _ _
    · exact listed_ofAccounts.pairwise
  · refine (OrderedMap.keys_sorted _).imp fun {address address'} hbefore m hm n hn => Or.inl ?_
    rwa [(mem_ofAddress_iff.mp hm).2, (mem_ofAddress_iff.mp hn).2]

lemma ofStates_eq_nil_iff : ofStates e o = [] ↔ e.Same o := by
  constructor
  · intro h address
    have hnone : ofAddress e o address = [] := by
      refine List.eq_nil_iff_forall_not_mem.mpr fun m hm => ?_
      have hmem : m ∈ ofStates e o := mem_ofStates_iff.mpr (mem_ofAddress_iff.mp hm).1
      rw [h] at hmem
      cases hmem
    unfold ofAddress at hnone
    cases he : e.get? address <;> cases ho : o.get? address <;> rw [he, ho] at hnone
    · exact .none
    · cases hnone
    · cases hnone
    · exact .some (ofAccounts_eq_nil_iff.mp hnone)
  · intro h
    refine List.eq_nil_iff_forall_not_mem.mpr fun m hm => ?_
    have haddress := h m.account
    have hm := mem_ofAddress_iff.mpr ⟨mem_ofStates_iff.mp hm, rfl⟩
    unfold ofAddress at hm
    generalize e.get? m.account = x, o.get? m.account = y at haddress hm
    cases haddress with
    | none => cases hm
    | @some a b hsame =>
      change m ∈ ofAccounts m.account a b at hm
      rw [ofAccounts_eq_nil_iff.mpr hsame] at hm
      cases hm

lemma ofStates_exchanged (e o : Alloc) : ofStates o e = (ofStates e o).map exchanged := by
  rw [ofStates, ofStates, OrderedMap.unionKeys_comm, List.map_flatMap]
  refine List.flatMap_congr fun address _ => ?_
  unfold ofAddress
  cases e.get? address <;> cases o.get? address
  · rfl
  · rfl
  · rfl
  · exact ofAccounts_exchanged

end States

/-- The mismatches of two states are the differences between them, each once and in order.
There is none if and only if the normal forms are the same; they depend on the normal forms
alone; and between the same states the other way round they are the same, exchanged. -/
theorem ofStates_exact (expected observed : Alloc) :
    (ofStates expected observed).Pairwise Before ∧
    (∀ m, m ∈ ofStates expected observed ↔ Between expected observed m) ∧
    (ofStates expected observed = [] ↔ expected.normalized = observed.normalized) ∧
    ofStates expected observed = ofStates expected.normalized observed.normalized ∧
    ofStates observed expected = (ofStates expected observed).map exchanged := by
  refine ⟨pairwise_ofStates expected observed, fun m => mem_ofStates_iff, ?_, ?_,
    ofStates_exchanged expected observed⟩
  · rw [ofStates_eq_nil_iff, Alloc.normalized_eq_iff]
  · exact (ofStates_congr expected.normalized_same observed.normalized_same).symm

end Mismatch

end ChainConformance
