import ChainConformance.Call
import Mathlib.Data.List.Forall2
import Mathlib.Tactic.Common

/-!
# Steps of runs

A run is a sequence of steps that may fail and that keep their state when they do. This
file has the equations by which a run is taken apart into its steps, and the facts about
calls that nothing but their own deadline cuts short.
-/

namespace ChainConformance

section Steps

variable {ε σ α β : Type}

lemma map_eq_ok {f : α → β} {x : Except ε α} {b : β} :
    x.map f = .ok b ↔ ∃ a, x = .ok a ∧ f a = b := by
  cases x with
  | error e => simp only [Except.map, reduceCtorEq, false_and, exists_false]
  | ok a => simp only [Except.map, Except.ok.injEq, exists_eq_left']

lemma eq_ok_of_toOption {x : Except ε α} {a : α} (h : x.toOption = some a) :
    x = .ok a := by
  cases x with
  | error e => cases h
  | ok b => exact congrArg Except.ok (Option.some.inj h)

lemma mapError_eq_ok {ε' : Type} {f : ε → ε'} {x : Except ε α} {a : α} :
    x.mapError f = .ok a ↔ x = .ok a := by
  cases x with
  | error e => simp only [Except.mapError, reduceCtorEq]
  | ok a => simp only [Except.mapError, Except.ok.injEq]

lemma bind_eq_ok {x : Except ε α} {next : α → Except ε β} {b : β} :
    x >>= next = .ok b ↔ ∃ a, x = .ok a ∧ next a = .ok b := by
  cases x with
  | error e => exact ⟨nofun, nofun⟩
  | ok a => exact ⟨fun h => ⟨a, rfl, h⟩, fun ⟨_, h, hnext⟩ => by cases h; exact hnext⟩

lemma mapM_eq_ok {f : α → Except ε β} {l : List α} {made : List β} :
    l.mapM f = .ok made ↔ List.Forall₂ (fun a b => f a = .ok b) l made := by
  induction l generalizing made with
  | nil =>
    rw [List.mapM_nil, List.forall₂_nil_left_iff]
    exact ⟨fun h => by cases h; rfl, fun h => h ▸ rfl⟩
  | cons a rest ih =>
    rw [List.mapM_cons, bind_eq_ok, List.forall₂_cons_left_iff]
    constructor
    · rintro ⟨b, hb, h⟩
      obtain ⟨bs, hbs, h⟩ := bind_eq_ok.mp h
      cases h
      exact ⟨b, bs, hb, ih.mp hbs, rfl⟩
    · rintro ⟨b, bs, hb, hbs, rfl⟩
      exact ⟨b, hb, bind_eq_ok.mpr ⟨bs, ih.mpr hbs, rfl⟩⟩

lemma mapM_eq_some {f : α → Option β} {l : List α} {made : List β} :
    l.mapM f = some made ↔ List.Forall₂ (fun a b => f a = some b) l made := by
  induction l generalizing made with
  | nil => simp [eq_comm]
  | cons a rest ih =>
    simp only [List.mapM_cons, Option.bind_eq_bind, Option.bind_eq_some_iff, Option.pure_def,
      Option.some.injEq, ih, List.forall₂_cons_left_iff]
    constructor
    · rintro ⟨b, hb, bs, hbs, rfl⟩
      exact ⟨b, bs, hb, hbs, rfl⟩
    · rintro ⟨b, bs, hb, hbs, rfl⟩
      exact ⟨b, hb, bs, hbs, rfl⟩

/-- A step after another one. A failure of the first keeps the state that it left. -/
theorem run_bind (x : ExceptT ε (StateM σ) α) (next : α → ExceptT ε (StateM σ) β) (s : σ) :
    (x >>= next).run.run s = match x.run.run s with
      | (.ok a, s') => (next a).run.run s'
      | (.error e, s') => (.error e, s') := by
  simp only [ExceptT.run_bind, StateT.run_bind]
  change (match (x.run.run s).1 with
    | .ok a => (next a).run
    | .error e => pure (.error e)).run (x.run.run s).2 = _
  rcases x.run.run s with ⟨_ | _, _⟩ <;> rfl

lemma run_bind_ok {x : ExceptT ε (StateM σ) α} {s s' : σ} {a : α}
    (h : x.run.run s = (.ok a, s')) (next : α → ExceptT ε (StateM σ) β) :
    (x >>= next).run.run s = (next a).run.run s' := by
  rw [run_bind, h]

lemma run_bind_error {x : ExceptT ε (StateM σ) α} {s s' : σ} {e : ε}
    (h : x.run.run s = (.error e, s')) (next : α → ExceptT ε (StateM σ) β) :
    (x >>= next).run.run s = (.error e, s') := by
  rw [run_bind, h]

lemma run_bind_eq_ok {x : ExceptT ε (StateM σ) α} {next : α → ExceptT ε (StateM σ) β}
    {s s' : σ} {b : β} :
    (x >>= next).run.run s = (.ok b, s') ↔
      ∃ a s₁, x.run.run s = (.ok a, s₁) ∧ (next a).run.run s₁ = (.ok b, s') := by
  rw [run_bind]
  rcases x.run.run s with ⟨e | a, s₁⟩
  · constructor
    · intro h
      cases h
    · rintro ⟨a, s₁, h, _⟩
      cases h
  · constructor
    · exact fun h => ⟨a, s₁, rfl, h⟩
    · rintro ⟨a, s₁, h, hnext⟩
      cases h
      exact hnext

@[simp] lemma run_pure (a : α) (s : σ) :
    (pure a : ExceptT ε (StateM σ) α).run.run s = (.ok a, s) := rfl

@[simp] lemma run_throw (e : ε) (s : σ) :
    (throw e : ExceptT ε (StateM σ) α).run.run s = (.error e, s) := rfl

@[simp] lemma run_lift (x : Except ε α) (s : σ) :
    (liftM x : ExceptT ε (StateM σ) α).run.run s = (x, s) := rfl

lemma run_lift_eq_ok {x : Except ε α} {s s' : σ} {a : α} :
    (liftM x : ExceptT ε (StateM σ) α).run.run s = (.ok a, s') ↔ x = .ok a ∧ s = s' := by
  rw [run_lift, Prod.mk.injEq]

end Steps

lemma mapM_runs {α β σ : Type} (f : α → StateM σ β) (l : List α) (s : σ) :
    List.Forall₂ (fun a b => ∃ s, (f a s).1 = b) l (l.mapM f s).1 := by
  induction l generalizing s with
  | nil => exact .nil
  | cons a rest ih =>
    rw [List.mapM_cons]
    exact .cons ⟨s, rfl⟩ (ih (f a s).2)

lemma mapM_related {α β γ σ : Type} {R : β → γ → Prop} {f : α → StateM σ β} {g : α → StateM σ γ}
    (h : ∀ a s, R (f a s).1 (g a s).1 ∧ (f a s).2 = (g a s).2) (l : List α) (s : σ) :
    List.Forall₂ R (l.mapM f s).1 (l.mapM g s).1 := by
  induction l generalizing s with
  | nil => exact .nil
  | cons a rest ih =>
    obtain ⟨hfirst, hstate⟩ := h a s
    rw [List.mapM_cons, List.mapM_cons]
    refine .cons hfirst ?_
    change List.Forall₂ R (rest.mapM f (f a s).2).1 (rest.mapM g (g a s).2).1
    rw [hstate]
    exact ih _

namespace Call

variable {σ α β : Type} {c : Call σ α} {next : α → Call σ β} {limit : Option Nat} {s : σ}

lemma bind_answered {a : α} (h : (c limit s).answer = some a) :
    (c >>= next) limit s =
      ⟨(next a (limit.map (· - (c limit s).elapsed)) (c limit s).state).answer,
        (c limit s).elapsed +
          (next a (limit.map (· - (c limit s).elapsed)) (c limit s).state).elapsed,
        (next a (limit.map (· - (c limit s).elapsed)) (c limit s).state).state⟩ := by
  change c.bind next limit s = _
  simp only [Call.bind, h]

lemma bind_cut (h : (c limit s).answer = none) :
    (c >>= next) limit s = ⟨none, (c limit s).elapsed, (c limit s).state⟩ := by
  change c.bind next limit s = _
  simp only [Call.bind, h]

end Call

namespace Moment

variable {σ α : Type} (m : Moment σ) (timeout : Nat) (c : Call σ α)

lemma guarded_none : m.guarded none timeout c = m.within timeout c := rfl

variable {m timeout c} in
lemma within_answered {a : α} (h : (c (some timeout) m.state).answer = some a) :
    m.within timeout c = (.done a, m.after (c (some timeout) m.state)) := by
  simp only [within, h]

variable {m timeout c} in
lemma within_cut (h : (c (some timeout) m.state).answer = none) :
    m.within timeout c =
      (.timedOut, ⟨m.now + timeout, (c (some timeout) m.state).state⟩) := by
  simp only [within, h]

variable {m timeout c} in
lemma within_eq_done {a : α} {m' : Moment σ} : m.within timeout c = (.done a, m') ↔
    (c (some timeout) m.state).answer = some a ∧ m' = m.after (c (some timeout) m.state) := by
  cases h : (c (some timeout) m.state).answer with
  | none => simp [within_cut h]
  | some x => simp [within_answered h, eq_comm]

lemma state_within : (m.within timeout c).2.state = (c (some timeout) m.state).state := by
  cases h : (c (some timeout) m.state).answer with
  | none => rw [within_cut h]
  | some a =>
    rw [within_answered h]
    rfl

lemma within_cases : (∃ a m', m.within timeout c = (.done a, m')) ∨
    ∃ m', m.within timeout c = (.timedOut, m') := by
  cases h : (c (some timeout) m.state).answer with
  | none => exact Or.inr ⟨_, within_cut h⟩
  | some a => exact Or.inl ⟨a, _, within_answered h⟩

lemma now_le_within : m.now ≤ (m.within timeout c).2.now := by
  cases h : (c (some timeout) m.state).answer with
  | none =>
    rw [within_cut h]
    exact Nat.le_add_right _ _
  | some a =>
    rw [within_answered h]
    exact Nat.le_add_right _ _

variable {m c} in
lemma now_le_of_unguarded {answer : Option α} {m' : Moment σ}
    (h : m.unguarded c = (answer, m')) : m.now ≤ m'.now := by
  obtain ⟨-, rfl⟩ := Prod.mk.inj h
  exact Nat.le_add_right _ _

end Moment

end ChainConformance
