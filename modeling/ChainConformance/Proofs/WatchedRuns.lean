import ChainConformance.Proofs.Stages

/-!
# Runs that watch for their cancellation

A run that watches for its cancellation does what it does without being watched, up to the call
or the look at the clock at which it is cancelled. What the calls keep that begin before it is
cancelled, the run keeps: nothing is called from then on.
-/

namespace ChainConformance

/-- The call is the same under every limit that leaves it the time for its answer. -/
def Call.Steady {σ α : Type} (c : Call σ α) : Prop :=
  ∀ s {a b}, a ≤ b → (c (some a) s).answer.isSome → c (some b) s = c (some a) s

namespace Call

variable {σ α β : Type}

lemma steady_instantly (f : σ → α × σ) : (instantly f).Steady := fun _ _ _ _ _ => rfl

lemma steady_pure (a : α) : (pure a : Call σ α).Steady := steady_instantly _

lemma steady_never : (never : Call σ α).Steady := by
  intro s a b _ h
  cases h

lemma steady_wait (time : Nat) : (wait time : Call σ Unit).Steady := by
  intro s a b hab h
  by_cases htime : time ≤ a
  · simp only [wait, htime, Nat.le_trans htime hab, if_true]
  · simp [wait, htime] at h

lemma Steady.bind {c : Call σ α} {next : α → Call σ β} (first : c.Steady)
    (others : ∀ x, (next x).Steady) : (c >>= next).Steady := by
  intro s a b hab h
  cases hanswer : (c (some a) s).answer with
  | none =>
    rw [bind_cut hanswer] at h
    cases h
  | some x =>
    have hfirst : c (some b) s = c (some a) s := first s hab (by rw [hanswer]; rfl)
    have hanswer' : (c (some b) s).answer = some x := by rw [hfirst, hanswer]
    rw [bind_answered hanswer] at h
    rw [bind_answered hanswer, bind_answered hanswer', hfirst]
    have hrest : next x (some (b - (c (some a) s).elapsed)) (c (some a) s).state =
        next x (some (a - (c (some a) s).elapsed)) (c (some a) s).state :=
      others x _ (Nat.sub_le_sub_right hab _) h
    simp only [Option.map_some, hrest]

end Call

/-- The call leaves what holds of the state as it is, however it ends. -/
def Call.Keeps {σ α : Type} (I : σ → Prop) (c : Call σ α) : Prop :=
  ∀ limit s, I s → I (c limit s).state

namespace Call

variable {σ τ α β : Type} {I : σ → Prop}

lemma keeps_pure (a : α) : (pure a : Call σ α).Keeps I := fun _ _ h => h

lemma Keeps.bind_of {c : Call σ α} {next : α → Call σ β} {P : α → Prop} (first : c.Keeps I)
    (answers : ∀ limit s a, I s → (c limit s).answer = some a → P a)
    (others : ∀ a, P a → (next a).Keeps I) : (c >>= next).Keeps I := by
  intro limit s h
  cases hanswer : (c limit s).answer with
  | none =>
    rw [bind_cut hanswer]
    exact first limit s h
  | some a =>
    rw [bind_answered hanswer]
    exact others a (answers limit s a h hanswer) _ _ (first limit s h)

lemma Keeps.bind {c : Call σ α} {next : α → Call σ β} (first : c.Keeps I)
    (others : ∀ a, (next a).Keeps I) : (c >>= next).Keeps I :=
  first.bind_of (fun _ _ _ _ _ => trivial) fun a (_ : True) => others a

lemma Keeps.inside {J : τ → Prop} {c : Call σ α} {part : τ → σ} {put : σ → τ → τ}
    (h : c.Keeps I) (before : ∀ t, J t → I (part t)) (after : ∀ t s, J t → I s → J (put s t)) :
    (c.inside part put).Keeps J :=
  fun limit t ht => after t _ ht (h limit (part t) (before t ht))

end Call

namespace Moment

variable {σ α : Type} {c : Call σ α} {cancelAt : Option Nat} {timeout : Nat} {m : Moment σ}

lemma guarded_of_cancelled (h : isCancelled cancelAt m.now) :
    m.guarded cancelAt timeout c = (.cancelled, m) := by
  cases cancelAt with
  | none => cases h
  | some stop => exact if_pos (of_decide_eq_true h)

lemma timely_of_guarded {m' : Moment σ} {a : α}
    (h : m.guarded cancelAt timeout c = (.done a, m')) : isCancelled cancelAt m.now = false := by
  cases hcancelled : isCancelled cancelAt m.now with
  | false => rfl
  | true =>
    rw [guarded_of_cancelled hcancelled] at h
    cases h

lemma guarded_made (c : Call σ α) (cancelAt : Option Nat) (timeout : Nat)
    (m : Moment σ) : m.guarded cancelAt timeout c = (.cancelled, m) ∨
      ∃ limit, (m.guarded cancelAt timeout c).2.state = (c limit m.state).state ∧
        ∀ a, (m.guarded cancelAt timeout c).1 = .done a → (c limit m.state).answer = some a := by
  have hwithin : (m.within timeout c).2.state = (c (some timeout) m.state).state ∧
      ∀ a, (m.within timeout c).1 = .done a → (c (some timeout) m.state).answer = some a :=
    ⟨state_within m timeout c, fun a ha => (within_eq_done.mp (Prod.ext ha rfl)).1⟩
  cases cancelAt with
  | none => exact .inr ⟨_, hwithin⟩
  | some stop =>
    unfold guarded
    by_cases hstop : stop ≤ m.now
    · exact .inl (if_pos hstop)
    · by_cases htimeout : timeout < stop - m.now
      · simp only [hstop, htimeout, if_false, if_true]
        exact .inr ⟨_, hwithin⟩
      · simp only [hstop, htimeout, if_false]
        refine .inr ⟨some (stop - m.now - 1), ?_⟩
        cases hanswer : (c (some (stop - m.now - 1)) m.state).answer with
        | none => exact ⟨rfl, nofun⟩
        | some x =>
          refine ⟨rfl, fun a ha => ?_⟩
          cases ha
          rfl

lemma now_le_guarded (c : Call σ α) (cancelAt : Option Nat) (timeout : Nat) (m : Moment σ) :
    m.now ≤ (m.guarded cancelAt timeout c).2.now := by
  cases cancelAt with
  | none => exact m.now_le_within timeout c
  | some stop =>
    unfold guarded
    by_cases hstop : stop ≤ m.now
    · simp only [hstop, if_true, Nat.le_refl]
    · by_cases htimeout : timeout < stop - m.now
      · simp only [hstop, htimeout, if_false, if_true]
        exact m.now_le_within timeout c
      · simp only [hstop, htimeout, if_false]
        cases (c (some (stop - m.now - 1)) m.state).answer with
        | none => exact Nat.le_of_not_le hstop
        | some a => exact Nat.le_add_right _ _

/-- A guarded call keeps what holds of the moment if the call does in a run that is not cancelled
yet, and if it is not lost as time goes by. -/
lemma guarded_kept {I : Moment σ → Prop} (later : ∀ m now, m.now ≤ now → I m → I ⟨now, m.state⟩)
    (made : isCancelled cancelAt m.now = false → ∀ limit, I ⟨m.now, (c limit m.state).state⟩)
    (timeout : Nat) (hm : I m) : I (m.guarded cancelAt timeout c).2 := by
  cases hcancelled : isCancelled cancelAt m.now with
  | true => rwa [guarded_of_cancelled hcancelled]
  | false =>
    rcases guarded_made c cancelAt timeout m with hnot | ⟨limit, hstate, -⟩
    · rwa [hnot]
    · have hmade := made hcancelled limit
      rw [← hstate] at hmade
      exact later ⟨m.now, _⟩ _ (m.now_le_guarded c cancelAt timeout) hmade

lemma guarded_keeps {I : σ → Prop} (h : c.Keeps I) (timeout : Nat) (hm : I m.state) :
    I (m.guarded cancelAt timeout c).2.state :=
  guarded_kept (I := fun m => I m.state) (fun _ _ _ h => h)
    (fun _ limit => h limit m.state hm) timeout hm

/-- A call that ends before the run is cancelled is what it would be in a run that is not. -/
lemma guarded_cases (steady : c.Steady) (cancelAt : Option Nat) (timeout : Nat) (m : Moment σ) :
    m.guarded cancelAt timeout c = m.within timeout c ∨
      ∃ m', m.guarded cancelAt timeout c = (.cancelled, m') ∧
        isCancelled cancelAt m'.now := by
  cases cancelAt with
  | none => exact Or.inl rfl
  | some stop =>
    by_cases hstop : stop ≤ m.now
    · right
      refine ⟨m, ?_, ?_⟩
      · simp only [guarded, hstop, if_true]
      · simpa [isCancelled] using hstop
    · by_cases htimeout : timeout < stop - m.now
      · left
        simp only [guarded, hstop, htimeout, if_false, if_true]
      · cases h : (c (some (stop - m.now - 1)) m.state).answer with
        | none =>
          right
          refine ⟨⟨stop, (c (some (stop - m.now - 1)) m.state).state⟩, ?_, ?_⟩
          · simp only [guarded, hstop, htimeout, if_false, h]
          · simp [isCancelled]
        | some a =>
          left
          have hlimit : stop - m.now - 1 ≤ timeout := by omega
          have hsame : c (some timeout) m.state = c (some (stop - m.now - 1)) m.state :=
            steady m.state hlimit (by rw [h]; rfl)
          simp only [guarded, hstop, htimeout, if_false, h, within, hsame]

end Moment

section Watches

variable {κ σ τ : Type} {Answer : κ → Type} (p : Clocked τ σ)
  (request : Nat → (k : κ) → Call σ (Answer k)) (cancelAt : Option Nat) (timeout : Nat)

/-- The first of two steps watches for the cancellation of the run, and the second is the same
step in a run that is never cancelled. -/
inductive Watches : {α : Type} → ExceptT Failure (StateM τ) α → ExceptT Failure (StateM τ) α →
    Prop
  | idle {α : Type} (x : ExceptT Failure (StateM τ) α)
      (unmoved : ∀ t, (p.moment t).now ≤ (p.moment (x.run.run t).2).now ∧
        (p.moment (x.run.run t).2).state = (p.moment t).state) : Watches x x
  | checkpoint (index : Option Nat) :
      Watches (failIf (fun t => isCancelled cancelAt (p.moment t).now)
        { kind := .cancelled, block := index }) (pure ())
  | await (index : Option Nat) (k : κ) :
      Watches (await p cancelAt timeout index fun now => request now k)
        (await p none timeout index fun now => request now k)
  | bind {α β : Type} {x y : ExceptT Failure (StateM τ) α}
      {next next' : α → ExceptT Failure (StateM τ) β} (first : Watches x y)
      (others : ∀ a, Watches (next a) (next' a)) : Watches (x >>= next) (y >>= next')

/-- What holds of the moments of a run: it is not lost as time goes by, and the calls keep it that
begin before the run is cancelled. -/
structure Kept (I : Moment σ → Prop) : Prop where
  later : ∀ m now, m.now ≤ now → I m → I ⟨now, m.state⟩
  made : ∀ m, isCancelled cancelAt m.now = false → I m →
    ∀ k limit, I ⟨m.now, (request m.now k limit m.state).state⟩

/-- The first of two ends is the second one, or that of a run that was cancelled before. -/
def CutShort {α : Type} (r r₀ : Except Failure α × τ) : Prop :=
  r = r₀ ∨ isCancelled cancelAt (p.moment r.2).now ∧
    ∃ failure, r.1 = .error failure ∧ failure.kind = .cancelled

variable {p request cancelAt timeout}

lemma Kept.of_keeps {J : σ → Prop} (h : ∀ now k, (request now k).Keeps J) :
    Kept request cancelAt fun m => J m.state where
  later _ _ _ hm := hm
  made m _ hm k limit := h m.now k limit m.state hm

namespace Watches

variable {α : Type}

lemma pure (a : α) : Watches p request cancelAt timeout (pure a) (pure a) :=
  .idle _ fun _ => ⟨Nat.le_refl _, rfl⟩

lemma throw (e : Failure) :
    Watches p request cancelAt timeout (throw e : ExceptT Failure (StateM τ) α) (throw e) :=
  .idle _ fun _ => ⟨Nat.le_refl _, rfl⟩

lemma lift (x : Except Failure α) :
    Watches p request cancelAt timeout (liftM x : ExceptT Failure (StateM τ) α) (liftM x) :=
  .idle _ fun _ => ⟨Nat.le_refl _, rfl⟩

lemma failIf (P : τ → Bool) (e : Failure) :
    Watches p request cancelAt timeout (failIf P e) (failIf P e) := by
  refine .idle _ fun t => ?_
  rw [run_failIf]
  cases P t <;> exact ⟨Nat.le_refl _, rfl⟩

variable {x y : ExceptT Failure (StateM τ) α}

theorem keeps {I : Moment σ → Prop} (h : Watches p request cancelAt timeout x y)
    (kept : Kept request cancelAt I) (t : τ) (ht : I (p.moment t)) :
    I (p.moment (x.run.run t).2) := by
  induction h generalizing t with
  | idle x unmoved =>
    obtain ⟨hnow, hstate⟩ := unmoved t
    have hlater := kept.later _ _ hnow ht
    rwa [← hstate] at hlater
  | checkpoint index =>
    rw [run_failIf]
    cases isCancelled cancelAt (p.moment t).now <;> exact ht
  | await index k =>
    have hkept := Moment.guarded_kept kept.later
      (fun hnow limit => kept.made _ hnow ht k limit) timeout ht
    rw [run_await]
    rcases hm : (p.moment t).guarded cancelAt timeout (request (p.moment t).now k) with
      ⟨a | _ | _, m⟩ <;> rw [hm] at hkept <;> rwa [p.moment_put]
  | @bind _ _ x y next next' _ _ first others =>
    have hfirst := first t ht
    rw [run_bind]
    rcases hx : x.run.run t with ⟨e | a, t'⟩
    · rwa [hx] at hfirst
    · rw [hx] at hfirst
      exact others a t' hfirst

theorem cutShort (h : Watches p request cancelAt timeout x y)
    (steady : ∀ now k, (request now k).Steady) (t : τ) :
    CutShort p cancelAt (x.run.run t) (y.run.run t) := by
  induction h generalizing t with
  | idle x unmoved => exact Or.inl rfl
  | checkpoint index =>
    rw [run_failIf]
    cases hcancelled : isCancelled cancelAt (p.moment t).now with
    | false => exact Or.inl rfl
    | true => exact Or.inr ⟨hcancelled, _, rfl, rfl⟩
  | await index k =>
    rw [run_await, run_await, Moment.guarded_none]
    rcases Moment.guarded_cases (steady (p.moment t).now k) cancelAt timeout (p.moment t) with
      hsame | ⟨m', hcancelled, htime⟩
    · rw [hsame]
      exact Or.inl rfl
    · rw [hcancelled]
      refine Or.inr ⟨?_, _, rfl, rfl⟩
      rwa [p.moment_put]
  | @bind _ _ x y next next' _ _ first others =>
    rcases first t with hsame | ⟨htime, failure, hfails, hkind⟩
    · rw [run_bind, run_bind, hsame]
      rcases y.run.run t with ⟨e | a, t'⟩
      · exact Or.inl rfl
      · exact others a t'
    · have hx : x.run.run t = (.error failure, (x.run.run t).2) := Prod.ext hfails rfl
      rw [run_bind_error hx]
      exact Or.inr ⟨htime, failure, rfl, hkind⟩

end Watches

end Watches

end ChainConformance
