import ChainConformance.Proofs.OrderedMaps
import ChainConformance.State.Diff
import ChainConformance.Target.Engine
import ChainConformance.Terms

/-!
# Forms of states

A slot that holds zero may be written down or left out. No comparison of states sees the
difference, and the changes between two states make one into what the other holds. Which
slots are read back is another matter: there the slots that are written down count.
-/

namespace ChainConformance

namespace Account

/-- Accounts that hold the same, however their zero slots are written down. -/
structure Same (a b : Account) : Prop where
  balance : a.balance = b.balance
  code : a.code = b.code
  nonce : a.nonce = b.nonce
  slot (key : Word) : a.slot key = b.slot key

lemma Same.refl (a : Account) : a.Same a := ⟨rfl, rfl, rfl, fun _ => rfl⟩

lemma slot_of_absent {a : Account} {key : Word} (h : (a.storage.get? key).isSome = false) :
    a.slot key = 0 := by
  rw [slot, Option.isNone_iff_eq_none.mp (Option.isSome_eq_false_iff.mp h)]
  rfl

lemma get?_normalized (a : Account) (key : Word) :
    a.normalized.storage.get? key = if a.slot key = 0 then none else some (a.slot key) := by
  rw [normalized, OrderedMap.get?_filter, slot]
  cases a.storage.get? key with
  | none => rfl
  | some v => by_cases hv : v = 0 <;> simp [Option.filter, hv]

lemma normalized_eq_iff {a b : Account} : a.normalized = b.normalized ↔ a.Same b := by
  constructor
  · intro h
    have hfields : a.balance = b.balance ∧ a.code = b.code ∧ a.nonce = b.nonce :=
      ⟨congrArg (·.balance) h, congrArg (·.code) h, congrArg (·.nonce) h⟩
    refine ⟨hfields.1, hfields.2.1, hfields.2.2, fun key => ?_⟩
    have hget := congrArg (·.storage.get? key) h
    simp only [get?_normalized] at hget
    by_cases ha : a.slot key = 0 <;> by_cases hb : b.slot key = 0 <;> simp_all
  · intro h
    have hstorage : a.normalized.storage = b.normalized.storage :=
      OrderedMap.ext_get? fun key => by rw [get?_normalized, get?_normalized, h.slot]
    obtain ⟨balance, code, nonce, storage⟩ := a
    obtain ⟨balance', code', nonce', storage'⟩ := b
    obtain ⟨rfl, rfl, rfl, _⟩ := h
    simp_all [normalized]

end Account

/-- States that have the same accounts, which hold the same. -/
def Alloc.Same (s t : Alloc) : Prop :=
  ∀ address, Option.Rel Account.Same (s.get? address) (t.get? address)

lemma Alloc.Same.refl (s : Alloc) : s.Same s := by
  intro address
  cases s.get? address with
  | none => exact .none
  | some a => exact .some (.refl a)

lemma Alloc.Same.isSome_iff {s t : Alloc} (h : s.Same t) (address : Address) :
    (s.get? address).isSome ↔ (t.get? address).isSome := by
  have haddress := h address
  generalize s.get? address = x, t.get? address = y at haddress
  cases haddress <;> rfl

/-! ### Differences -/

namespace Mismatch

lemma mem_unionKeys_of_ofSlot {address : Address} {e o : Account} {key : Word}
    (h : ofSlot address e o key ≠ []) : key ∈ e.storage.unionKeys o.storage := by
  rw [OrderedMap.mem_unionKeys_iff]
  by_contra hnone
  simp only [not_or, Bool.not_eq_true] at hnone
  simp [ofSlot, Account.slot_of_absent hnone.1, Account.slot_of_absent hnone.2] at h

lemma ofAccounts_congr {e e' o o' : Account} (he : e.Same e') (ho : o.Same o')
    (address : Address) : ofAccounts address e o = ofAccounts address e' o' := by
  have hslot : ofSlot address e o = ofSlot address e' o' := by
    funext key
    simp only [ofSlot, he.slot, ho.slot]
  have hslots : (e.storage.unionKeys o.storage).flatMap (ofSlot address e o) =
      (e'.storage.unionKeys o'.storage).flatMap (ofSlot address e' o') := by
    rw [hslot]
    refine OrderedMap.flatMap_eq_of_sorted (OrderedMap.keys_sorted _) (OrderedMap.keys_sorted _)
      fun key hkey => ⟨?_, mem_unionKeys_of_ofSlot hkey⟩
    rw [← hslot] at hkey
    exact mem_unionKeys_of_ofSlot hkey
  simp only [ofAccounts, hslots, he.balance, he.code, he.nonce, ho.balance, ho.code, ho.nonce]

lemma mem_unionKeys_of_ofAddress {e o : Alloc} {address : Address}
    (h : ofAddress e o address ≠ []) : address ∈ e.unionKeys o := by
  rw [OrderedMap.mem_unionKeys_iff]
  unfold ofAddress at h
  cases he : e.get? address <;> cases ho : o.get? address <;> simp_all

lemma ofStates_congr {e e' o o' : Alloc} (he : e.Same e') (ho : o.Same o') :
    ofStates e o = ofStates e' o' := by
  have haddress : ofAddress e o = ofAddress e' o' := by
    funext address
    unfold ofAddress
    have he := he address
    have ho := ho address
    generalize e.get? address = x, e'.get? address = x' at he
    generalize o.get? address = y, o'.get? address = y' at ho
    cases he with
    | none => cases ho <;> rfl
    | some he =>
      cases ho with
      | none => rfl
      | some ho => exact ofAccounts_congr he ho address
  rw [ofStates, haddress]
  refine OrderedMap.flatMap_eq_of_sorted (OrderedMap.keys_sorted _) (OrderedMap.keys_sorted _)
    fun address h => ⟨?_, mem_unionKeys_of_ofAddress h⟩
  rw [← haddress] at h
  exact mem_unionKeys_of_ofAddress h

section Accounts

variable {address : Address} {a b : Account} {m : Mismatch}

lemma mem_ofSlot_iff {key : Word} : m ∈ ofSlot address a b key ↔
    a.slot key ≠ b.slot key ∧ m = .slot address key (a.slot key) (b.slot key) := by
  unfold ofSlot
  by_cases h : a.slot key = b.slot key <;> simp [h]

lemma mem_slots_iff : m ∈ (a.storage.unionKeys b.storage).flatMap (ofSlot address a b) ↔
    ∃ key, a.slot key ≠ b.slot key ∧ m = .slot address key (a.slot key) (b.slot key) := by
  rw [List.mem_flatMap]
  constructor
  · rintro ⟨key, -, hm⟩
    exact ⟨key, mem_ofSlot_iff.mp hm⟩
  · rintro ⟨key, hm⟩
    have hmem := mem_ofSlot_iff.mpr hm
    exact ⟨key, mem_unionKeys_of_ofSlot (List.ne_nil_of_mem hmem), hmem⟩

lemma mem_ofAccounts_iff : m ∈ ofAccounts address a b ↔
    (a.balance ≠ b.balance ∧ m = .balance address a.balance b.balance) ∨
    (a.nonce ≠ b.nonce ∧ m = .nonce address a.nonce b.nonce) ∨
    (a.code ≠ b.code ∧ m = .code address a.code b.code) ∨
    ∃ key, a.slot key ≠ b.slot key ∧ m = .slot address key (a.slot key) (b.slot key) := by
  have hfield : ∀ {α : Type} [DecidableEq α] (x y : α) (n : Mismatch),
      m ∈ (if x = y then [] else [n]) ↔ x ≠ y ∧ m = n := by
    intro α _ x y n
    by_cases h : x = y <;> simp [h]
  rw [ofAccounts, List.mem_append, List.mem_append, List.mem_append, hfield, hfield, hfield,
    mem_slots_iff, or_assoc, or_assoc]

end Accounts

lemma slot_mem_ofAccounts_iff {e o : Account} {address address' : Address} {key x y : Word} :
    .slot address key x y ∈ ofAccounts address' e o ↔
      address = address' ∧ e.slot key = x ∧ o.slot key = y ∧ x ≠ y := by
  simp only [mem_ofAccounts_iff, reduceCtorEq, and_false, false_or, slot.injEq]
  constructor
  · rintro ⟨_, hne, rfl, rfl, rfl, rfl⟩
    exact ⟨rfl, rfl, rfl, hne⟩
  · rintro ⟨rfl, rfl, rfl, hne⟩
    exact ⟨key, hne, rfl, rfl, rfl, rfl⟩

lemma slot_mem_ofStates_iff {e o : Alloc} {address : Address} {key x y : Word} :
    .slot address key x y ∈ ofStates e o ↔ x ≠ y ∧
      (∃ a, e.get? address = some a ∧ a.slot key = x) ∧
      ∃ b, o.get? address = some b ∧ b.slot key = y := by
  have haddress : ∀ address', .slot address key x y ∈ ofAddress e o address' ↔
      address = address' ∧ x ≠ y ∧ (∃ a, e.get? address = some a ∧ a.slot key = x) ∧
        ∃ b, o.get? address = some b ∧ b.slot key = y := by
    intro address'
    unfold ofAddress
    cases he : e.get? address' <;> cases ho : o.get? address'
    all_goals simp only [slot_mem_ofAccounts_iff]
    all_goals grind
  rw [ofStates, List.mem_flatMap]
  constructor
  · rintro ⟨address', _, hmem⟩
    exact ((haddress address').mp hmem).2
  · intro h
    have hmem := (haddress address).mpr ⟨rfl, h⟩
    exact ⟨address, mem_unionKeys_of_ofAddress (List.ne_nil_of_mem hmem), hmem⟩

end Mismatch

lemma judgeState_eq_iff {e e' o o' : Alloc} : judgeState e o = judgeState e' o' ↔
    Mismatch.ofStates e o = Mismatch.ofStates e' o' := by
  refine ⟨fun h => ?_, fun h => by simp only [judgeState, h]⟩
  simp only [judgeState] at h
  split at h <;> split at h <;> simp_all

/-! ### Changes -/

namespace AllocDiff

lemma find_foldl_applyChange {changes : List (Address × Option Account)}
    (h : (changes.map (·.1)).Nodup) (s : Alloc) (address : Address) :
    (changes.foldl (fun s e => applyChange s e.1 e.2) s).get? address =
      (OrderedMap.find address changes).getD (s.get? address) := by
  induction changes generalizing s with
  | nil => rfl
  | cons e rest ih =>
    obtain ⟨address', change⟩ := e
    obtain ⟨hnew, hrest⟩ := List.nodup_cons.mp h
    rw [List.foldl_cons, ih hrest, OrderedMap.find]
    by_cases haddress : address = address'
    · subst haddress
      rw [OrderedMap.find_eq_none_iff.mpr hnew, if_pos rfl]
      cases change <;> simp [applyChange]
    · cases change <;> simp [applyChange, haddress]

lemma get?_apply (diff : AllocDiff) (base : Alloc) (address : Address) :
    (diff.apply base).get? address = (diff.get? address).getD (base.get? address) :=
  find_foldl_applyChange diff.keys_nodup base address

lemma get?_foldl_gone (target : Alloc) (addresses : List Address) (diff : AllocDiff)
    (address : Address) :
    (addresses.foldl (fun diff address =>
      if target.contains address then diff else diff.insert address none) diff).get? address =
        if address ∈ addresses ∧ target.get? address = none then some none
        else diff.get? address := by
  induction addresses generalizing diff with
  | nil => simp
  | cons first rest ih =>
    rw [List.foldl_cons, ih]
    by_cases hfirst : address = first
    · subst hfirst
      cases ht : target.get? address <;> simp [OrderedMap.contains, ht]
    · have hrest : (if target.contains first then diff
          else diff.insert first none).get? address = diff.get? address := by
        split <;> simp [hfirst]
      simp [hfirst, hrest]

lemma isChanged_eq_false_iff {base : Alloc} {address : Address} {after : Account} :
    isChanged base address after = false ↔
      ∃ before, base.get? address = some before ∧ before.Same after := by
  unfold isChanged
  cases base.get? address with
  | none => simp
  | some before => simp [Account.normalized_eq_iff]

lemma get?_between (base target : Alloc) (address : Address) :
    (between base target).get? address = match target.get? address with
      | some after => if isChanged base address after then some (some after) else none
      | none => (base.get? address).map fun _ => none := by
  have hkeys : address ∈ base.keys ↔ (base.get? address).isSome :=
    OrderedMap.mem_keys_iff.trans Option.isSome_iff_exists.symm
  rw [between, get?_foldl_gone, OrderedMap.get?_mapValues, OrderedMap.get?_filter]
  simp only [hkeys]
  cases target.get? address with
  | none => cases base.get? address <;> simp
  | some after => cases hchanged : isChanged base address after <;> simp [Option.filter, hchanged]

/-- What the changes from one state to another make of the first: accounts that do not differ
stay as they are written in the first. -/
lemma get?_apply_between (base target : Alloc) (address : Address) :
    ((between base target).apply base).get? address = (target.get? address).map fun after =>
      if isChanged base address after then after else (base.get? address).getD after := by
  rw [get?_apply, get?_between]
  cases target.get? address with
  | none => cases base.get? address <;> rfl
  | some after =>
    cases hchanged : isChanged base address after with
    | true => simp [hchanged]
    | false =>
      obtain ⟨before, hbefore, _⟩ := isChanged_eq_false_iff.mp hchanged
      simp [hchanged, hbefore]

lemma apply_between_same (base target : Alloc) :
    ((between base target).apply base).Same target := by
  intro address
  rw [get?_apply_between]
  cases target.get? address with
  | none => exact .none
  | some after =>
    refine .some ?_
    cases hchanged : isChanged base address after with
    | true => simpa [hchanged] using Account.Same.refl after
    | false =>
      obtain ⟨before, hbefore, hsame⟩ := isChanged_eq_false_iff.mp hchanged
      simpa [hchanged, hbefore] using hsame

end AllocDiff

namespace Alloc

def Names (s : Alloc) (address : Address) (key : Word) : Prop :=
  ∃ a, s.get? address = some a ∧ (a.storage.get? key).isSome

lemma isSome_get?_overlaid (base upper : Storage) (key : Word) :
    ((base.overlaid upper).get? key).isSome ↔
      (base.get? key).isSome ∨ (upper.get? key).isSome := by
  have hget : (base.overlaid upper).get? key =
      (upper.get? key).elim (base.get? key) fun v => some v :=
    OrderedMap.get?_foldl_insert (fun _ v => v) upper base key
  rw [hget]
  cases upper.get? key <;> simp

lemma get?_readingHint (pre expected : Alloc) (address : Address) :
    (pre.readingHint expected).get? address =
      (expected.get? address).elim (pre.get? address) fun a =>
        let before := (pre.get? address).getD default
        some { before with storage := before.storage.overlaid a.storage } :=
  OrderedMap.get?_foldl_insert (fun (before : Option Account) (a : Account) =>
    ({ before.getD default with
      storage := (before.getD default).storage.overlaid a.storage } : Account))
    expected pre address

lemma isSome_get?_readingHint (pre expected : Alloc) (address : Address) :
    ((pre.readingHint expected).get? address).isSome ↔
      (pre.get? address).isSome ∨ (expected.get? address).isSome := by
  rw [get?_readingHint]
  cases expected.get? address <;> simp

lemma readingHint_names_iff {pre expected : Alloc} {address : Address} {key : Word} :
    (pre.readingHint expected).Names address key ↔
      pre.Names address key ∨ expected.Names address key := by
  unfold Names
  rw [get?_readingHint]
  cases expected.get? address with
  | none => simp
  | some a =>
    have hdefault : ((default : Account).storage.get? key).isSome = false := rfl
    cases pre.get? address with
    | none => simp [isSome_get?_overlaid, hdefault]
    | some before => simp [isSome_get?_overlaid]

/-- A slot of an account that does not differ, which is written down in the later of two
states alone. -/
def Unasked (pre post : Alloc) (address : Address) (key : Word) : Prop :=
  ∃ before after, pre.get? address = some before ∧ post.get? address = some after ∧
    before.normalized = after.normalized ∧ (after.storage.get? key).isSome ∧
    (before.storage.get? key).isSome = false

lemma readingHint_apply_between_names_iff (pre post : Alloc) (address : Address) (key : Word) :
    (pre.readingHint ((AllocDiff.between pre post).apply pre)).Names address key ↔
      (pre.readingHint post).Names address key ∧ ¬Unasked pre post address key := by
  rw [readingHint_names_iff, readingHint_names_iff]
  unfold Names Unasked
  rw [AllocDiff.get?_apply_between]
  cases post.get? address with
  | none => simp
  | some after =>
    cases hchanged : AllocDiff.isChanged pre address after with
    | true =>
      have hdiffers : ∀ before, pre.get? address = some before →
          before.normalized ≠ after.normalized := by
        intro before hbefore hsame
        rw [AllocDiff.isChanged_eq_false_iff.mpr
          ⟨before, hbefore, Account.normalized_eq_iff.mp hsame⟩] at hchanged
        cases hchanged
      grind
    | false =>
      obtain ⟨before, hbefore, hsame⟩ := AllocDiff.isChanged_eq_false_iff.mp hchanged
      have hnormal := Account.normalized_eq_iff.mpr hsame
      grind

lemma Unasked.slot_eq_zero {pre post : Alloc} {address : Address} {key : Word}
    (h : Unasked pre post address key) :
    ∃ after, post.get? address = some after ∧ after.slot key = 0 := by
  obtain ⟨before, after, _, hafter, hnormal, _, habsent⟩ := h
  refine ⟨after, hafter, ?_⟩
  rw [← (Account.normalized_eq_iff.mp hnormal).slot, Account.slot_of_absent habsent]

end Alloc

end ChainConformance
