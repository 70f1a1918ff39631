import ChainConformance.Fixture
import ChainConformance.Terms
import Mathlib.Tactic.Common

/-!
# Judgements

What is judged at the end of a chain, and when the judgement is good.
-/

namespace ChainConformance

/-- The state that a fixture asks for in full, none if it asks for a root alone. -/
def ExpectedPost.state? (pre : Alloc) : ExpectedPost → Option Alloc
  | .full s => some s
  | .diff d => some (d.apply pre)
  | .root _ => none

lemma ExpectedPost.state?_eq_none {pre : Alloc} {post : ExpectedPost}
    (h : post.state? pre = none) : ∃ r, post = .root r := by
  cases post with
  | root r => exact ⟨r, rfl⟩
  | full s | diff d => cases h

lemma judgeState_eq_ok {s observed : Alloc} :
    judgeState s observed = .ok () ↔ Mismatch.ofStates s observed = [] := by
  rw [← List.isEmpty_iff]
  by_cases h : (Mismatch.ofStates s observed).isEmpty
  · simp only [judgeState, h, if_true]
  · simp only [judgeState, h, Bool.false_eq_true, if_false, reduceCtorEq]

lemma judgeState_error {s observed : Alloc} (h : Mismatch.ofStates s observed ≠ []) :
    ∃ failure, judgeState s observed = .error failure ∧ failure.kind = .stateMismatch ∧
      failure.block = none := by
  have hempty : (Mismatch.ofStates s observed).isEmpty = false := by
    simpa only [List.isEmpty_eq_false_iff] using h
  simp only [judgeState, hempty, Bool.false_eq_true, if_false]
  exact ⟨_, rfl, rfl, rfl⟩

lemma judgeHead_eq_ok {expected observed : ChainHead} :
    judgeHead expected observed = .ok () ↔ observed = expected := by
  by_cases h : expected = observed
  · simp only [judgeHead, ChainHead.mismatch?, h, if_true]
  · simp only [judgeHead, ChainHead.mismatch?, h, Ne.symm h, if_false, reduceCtorEq]

lemma judgeHead_error {expected observed : ChainHead} (h : observed ≠ expected) :
    ∃ failure, judgeHead expected observed = .error failure ∧
      failure.kind = .headMismatch ∧ failure.block = none := by
  simp only [judgeHead, ChainHead.mismatch?, h.symm, if_false]
  exact ⟨_, rfl, rfl, rfl⟩

lemma judgeRoot_eq_ok {expected observed : Hash} :
    judgeRoot expected observed = .ok () ↔ expected = observed := by
  by_cases h : expected = observed
  · simp only [judgeRoot, h, if_true]
  · simp only [judgeRoot, h, if_false, reduceCtorEq]

lemma Terms.judgeRejection_eq_ok {t : Terms} {index : Nat} {expected : Option ExceptionSet}
    {message : String} {c : Classification} {u : Unit} :
    t.judgeRejection index expected message c = .ok u ↔
      ∃ set, expected = some set ∧ t.policy.admits set c := by
  cases expected with
  | none => simp only [judgeRejection, reduceCtorEq, false_and, exists_false]
  | some set =>
    by_cases h : t.policy.admits set c
    · simp only [judgeRejection, h, if_true, Option.some.injEq, exists_eq_left']
    · simp only [judgeRejection, h, Bool.false_eq_true, if_false, Option.some.injEq,
        exists_eq_left', reduceCtorEq]

end ChainConformance
