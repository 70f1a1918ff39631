import ChainConformance.Proofs.StateComparison

/-!
# Changes and comparisons

The changes between two states are found by one pass over their accounts, applied by another,
and states are compared by a third. What the changes make of the first state compares with
every state as the second one does, and an account is among the changes if and only if the
comparison of the two states names it.
-/

namespace ChainConformance.AllocDiff

variable {base target : Alloc} {address : Address}

lemma isChanged_iff_ofAccounts {before after : Account} (h : base.get? address = some before) :
    isChanged base address after = true ↔ Mismatch.ofAccounts address before after ≠ [] := by
  rw [Ne, Mismatch.ofAccounts_eq_nil_iff, ← Bool.not_eq_false, isChanged_eq_false_iff]
  simp [h]

lemma mem_keys_between_iff :
    address ∈ (between base target).keys ↔ Mismatch.ofAddress base target address ≠ [] := by
  rw [OrderedMap.mem_keys_iff, get?_between]
  unfold Mismatch.ofAddress
  cases hbase : base.get? address with
  | none => cases htarget : target.get? address <;> simp [isChanged, hbase]
  | some before =>
    cases htarget : target.get? address with
    | none => simp
    | some after => simp [← isChanged_iff_ofAccounts hbase]

lemma get?_between_eq_gone_iff : (between base target).get? address = some none ↔
    .missingAccount address ∈ Mismatch.ofAddress base target address := by
  rw [get?_between]
  unfold Mismatch.ofAddress
  cases base.get? address with
  | none => cases htarget : target.get? address <;> simp
  | some before => cases htarget : target.get? address <;> simp [Mismatch.mem_ofAccounts_iff]

lemma get?_between_eq_some_iff {after : Account} :
    (between base target).get? address = some (some after) ↔
      target.get? address = some after ∧ address ∈ (between base target).keys := by
  rw [OrderedMap.mem_keys_iff, get?_between]
  cases htarget : target.get? address with
  | none => cases hbase : base.get? address <;> simp
  | some a => simp [and_comm]

lemma named_iff : (∃ m ∈ Mismatch.ofStates base target, m.account = address) ↔
    Mismatch.ofAddress base target address ≠ [] := by
  rw [← List.length_pos_iff, List.length_pos_iff_exists_mem]
  refine exists_congr fun m => ?_
  rw [Mismatch.mem_ofStates_iff, Mismatch.mem_ofAddress_iff]

/-- The changes between two states lose nothing and have nothing to spare. The state that they
make of the first one differs from any state as the second one does, entry for entry. They are
those of the accounts that the comparison of the two names: none where an account is missing,
and otherwise the account that the second state has. -/
theorem between_exact (base target : Alloc) :
    (∀ observed, Mismatch.ofStates ((between base target).apply base) observed =
      Mismatch.ofStates target observed) ∧
    (∀ address, address ∈ (between base target).keys ↔
      ∃ m ∈ Mismatch.ofStates base target, m.account = address) ∧
    (∀ address, (between base target).get? address = some none ↔
      .missingAccount address ∈ Mismatch.ofStates base target) ∧
    ∀ address after, (between base target).get? address = some (some after) ↔
      target.get? address = some after ∧
        ∃ m ∈ Mismatch.ofStates base target, m.account = address := by
  refine ⟨fun observed => ?_, fun address => ?_, fun address => ?_, fun address after => ?_⟩
  · exact Mismatch.ofStates_congr (apply_between_same base target) (.refl observed)
  · rw [mem_keys_between_iff, named_iff]
  · rw [get?_between_eq_gone_iff, Mismatch.mem_ofAddress_iff, Mismatch.mem_ofStates_iff]
    exact and_iff_left rfl
  · rw [get?_between_eq_some_iff, mem_keys_between_iff, named_iff]

end ChainConformance.AllocDiff
