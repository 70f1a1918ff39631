import ChainConformance.Proofs.Stages

/-!
# Runs over payloads on two clients

Two clients that answer alike, and in the same time, give a fixture the same verdict. What they
hold may differ, and so may the times at which the runs begin: it is enough that a relation
between what they hold is kept by each of their calls.
-/

namespace ChainConformance

variable {σ τ α β : Type}

/-- From states that are related, two calls are answered alike, in the same time, and leave
states that are related. -/
def Call.Matches (c : Call σ α) (d : Call τ α) (R : σ → τ → Prop) : Prop :=
  ∀ limit s t, R s t → (c limit s).answer = (d limit t).answer ∧
    (c limit s).elapsed = (d limit t).elapsed ∧ R (c limit s).state (d limit t).state

/-- As much time has gone by in a run that began at `a` as in one that began at `b`, and the
states of what they call are related. -/
structure Abreast (a b : Nat) (R : σ → τ → Prop) (m : Moment σ) (n : Moment τ) : Prop where
  now : m.now + b = n.now + a
  state : R m.state n.state

namespace Call.Matches

variable {R : σ → τ → Prop} {c : Call σ α} {d : Call τ α}

protected lemma refl (c : Call σ α) : c.Matches c Eq := by
  rintro limit s _ rfl
  exact ⟨rfl, rfl, rfl⟩

protected lemma pure (a : α) : (pure a : Call σ α).Matches (pure a : Call τ α) R :=
  fun _ _ _ hR => ⟨rfl, rfl, hR⟩

protected lemma bind {next : α → Call σ β} {next' : α → Call τ β} (h : c.Matches d R)
    (hnext : ∀ x, (next x).Matches (next' x) R) : (c >>= next).Matches (d >>= next') R := by
  intro limit s t hR
  obtain ⟨hanswer, helapsed, hstate⟩ := h limit s t hR
  cases hd : (d limit t).answer with
  | none =>
    rw [Call.bind_cut (hanswer.trans hd), Call.bind_cut hd]
    exact ⟨rfl, helapsed, hstate⟩
  | some x =>
    obtain ⟨hanswer', helapsed', hstate'⟩ :=
      hnext x (limit.map (· - (d limit t).elapsed)) _ _ hstate
    rw [Call.bind_answered (hanswer.trans hd), Call.bind_answered hd, helapsed]
    exact ⟨hanswer', congrArg _ helapsed', hstate'⟩

variable {a b : Nat} {m : Moment σ} {n : Moment τ}

protected lemma after (h : c.Matches d R) (hmn : Abreast a b R m n) (limit : Option Nat) :
    Abreast a b R (m.after (c limit m.state)) (n.after (d limit n.state)) := by
  obtain ⟨-, helapsed, hstate⟩ := h limit m.state n.state hmn.state
  refine ⟨?_, hstate⟩
  have hnow := hmn.now
  change m.now + (c limit m.state).elapsed + b = n.now + (d limit n.state).elapsed + a
  omega

/-- Both calls are in time, or neither is. -/
protected lemma within (h : c.Matches d R) (hmn : Abreast a b R m n) (timeout : Nat) :
    ∃ answer m' n', m.within timeout c = (answer, m') ∧ n.within timeout d = (answer, n') ∧
      Abreast a b R m' n' := by
  obtain ⟨hanswer, -, hstate⟩ := h (some timeout) m.state n.state hmn.state
  cases hd : (d (some timeout) n.state).answer with
  | none =>
    refine ⟨.timedOut, _, _, Moment.within_cut (hanswer.trans hd), Moment.within_cut hd, ?_,
      hstate⟩
    have hnow := hmn.now
    change m.now + timeout + b = n.now + timeout + a
    omega
  | some x =>
    exact ⟨.done x, _, _, Moment.within_answered (hanswer.trans hd),
      Moment.within_answered hd, h.after hmn _⟩

protected lemma guarded (h : c.Matches d R) (hmn : Abreast a b R m n) {cancelAt : Option Nat}
    (hc : cancelAt = none ∨ a = b) (timeout : Nat) :
    ∃ answer m' n', m.guarded cancelAt timeout c = (answer, m') ∧
      n.guarded cancelAt timeout d = (answer, n') ∧ Abreast a b R m' n' := by
  cases cancelAt with
  | none => exact h.within hmn timeout
  | some stop =>
    obtain rfl : a = b := hc.resolve_left nofun
    have hnow : m.now = n.now := Nat.add_right_cancel hmn.now
    unfold Moment.guarded
    rw [hnow]
    by_cases hstop : stop ≤ n.now
    · simp only [hstop, if_true]
      exact ⟨_, _, _, rfl, rfl, hmn⟩
    · by_cases htimeout : timeout < stop - n.now
      · simp only [hstop, htimeout, if_false, if_true]
        exact h.within hmn timeout
      · simp only [hstop, htimeout, if_false]
        obtain ⟨hanswer, -, hstate⟩ := h (some (stop - n.now - 1)) m.state n.state hmn.state
        rw [hanswer]
        cases (d (some (stop - n.now - 1)) n.state).answer with
        | none => exact ⟨_, _, _, rfl, rfl, rfl, hstate⟩
        | some x => exact ⟨_, _, _, rfl, rfl, h.after hmn _⟩

end Call.Matches

/-- The calls to two clients are answered alike, and keep a relation between their states. -/
structure EngineTarget.Matches (T : EngineTarget σ) (U : EngineTarget τ)
    (R : σ → τ → Prop) : Prop where
  newPayload : ∀ version e, (T.newPayload version e).Matches (U.newPayload version e) R
  chooseHead : ∀ version choice,
    (T.chooseHead version choice).Matches (U.chooseHead version choice) R
  block : ∀ choice, (T.block choice).Matches (U.block choice) R
  account : ∀ address keys, (T.account address keys).Matches (U.account address keys) R

namespace EngineTarget.Matches

variable {T : EngineTarget σ} {U : EngineTarget τ} {R : σ → τ → Prop}

lemma blockHash (h : T.Matches U R) (n : UInt64) :
    (T.blockHash n).Matches (U.blockHash n) R :=
  (h.block _).bind fun _ => .pure _

lemma head (h : T.Matches U R) : T.head.Matches U.head R := by
  refine (h.block .latest).bind fun answer => ?_
  rcases answer with e | _ | b <;> exact .pure _

lemma readAccounts (h : T.Matches U R) (entries : List (Address × Account)) (read : Alloc) :
    (T.readAccounts entries read).Matches (U.readAccounts entries read) R := by
  induction entries generalizing read with
  | nil => exact .pure _
  | cons entry rest ih =>
    refine (h.account entry.1 entry.2.storage.keys).bind fun answer => ?_
    rcases answer with e | _ | a
    · exact .pure _
    · exact ih read
    · exact ih (read.insert entry.1 a)

lemma readState (h : T.Matches U R) (hint : Alloc) :
    (T.readState hint).Matches (U.readState hint) R :=
  h.readAccounts hint.entries .empty

end EngineTarget.Matches

namespace PayloadRun

/-- From moments that correspond, two steps end alike and at moments that correspond. -/
def Alongside (P : Moment σ → Moment τ → Prop) (x : PayloadStep σ α) (y : PayloadStep τ α) :
    Prop :=
  ∀ m n, P m n → ∃ end? m' n', x.run.run m = (end?, m') ∧ y.run.run n = (end?, n') ∧ P m' n'

section Alongside

variable {P : Moment σ → Moment τ → Prop}

lemma alongside_pure (a : α) :
    Alongside P (pure a : PayloadStep σ α) (pure a : PayloadStep τ α) :=
  fun m n hmn => ⟨_, m, n, rfl, rfl, hmn⟩

lemma alongside_throw (e : Failure) :
    Alongside P (throw e : PayloadStep σ α) (throw e : PayloadStep τ α) :=
  fun m n hmn => ⟨_, m, n, rfl, rfl, hmn⟩

lemma alongside_lift (x : Except Failure α) :
    Alongside P (liftM x : PayloadStep σ α) (liftM x : PayloadStep τ α) :=
  fun m n hmn => ⟨_, m, n, rfl, rfl, hmn⟩

lemma alongside_failIf {p : Moment σ → Bool} {q : Moment τ → Bool}
    (hpq : ∀ m n, P m n → p m = q n) (e : Failure) :
    Alongside P (failIf p e : PayloadStep σ Unit) (failIf q e : PayloadStep τ Unit) := by
  intro m n hmn
  rw [run_failIf, run_failIf, hpq m n hmn]
  cases q n <;> exact ⟨_, m, n, rfl, rfl, hmn⟩

lemma alongside_bind {x : PayloadStep σ α} {y : PayloadStep τ α} {next : α → PayloadStep σ β}
    {next' : α → PayloadStep τ β} (h : Alongside P x y)
    (hnext : ∀ a, Alongside P (next a) (next' a)) :
    Alongside P (x >>= next) (y >>= next') := by
  intro m n hmn
  obtain ⟨end?, m', n', hx, hy, hmn'⟩ := h m n hmn
  cases end? with
  | error e => exact ⟨_, m', n', run_bind_error hx next, run_bind_error hy next', hmn'⟩
  | ok a =>
    rw [run_bind_ok hx, run_bind_ok hy]
    exact hnext a m' n' hmn'

end Alongside

variable {terms : Terms} {f : Fixture} {pre : Alloc} {T : Nat → EngineTarget σ}
  {U : Nat → EngineTarget τ} {R : σ → τ → Prop} {a b : Nat}

lemma alongside_call (hc : terms.cancelAt = none ∨ a = b) {index : Option Nat}
    {c : Nat → Call σ α} {d : Nat → Call τ α} (h : ∀ t u, (c t).Matches (d u) R) :
    Alongside (Abreast a b R) (call terms index c) (call terms index d) := by
  intro m n hmn
  obtain ⟨answer, m', n', hm, hn, hmn'⟩ := (h m.now n.now).guarded hmn hc terms.callTimeout
  rw [run_call_guarded, run_call_guarded, hm, hn]
  rcases answer with x | _ | _ <;> exact ⟨_, m', n', rfl, rfl, hmn'⟩

lemma alongside_ask (hc : terms.cancelAt = none ∨ a = b) {index : Option Nat}
    {c : Nat → Call σ (FaultOr α)} {d : Nat → Call τ (FaultOr α)}
    (h : ∀ t u, (c t).Matches (d u) R) :
    Alongside (Abreast a b R) (ask terms index c) (ask terms index d) := by
  refine alongside_bind (alongside_call hc h) fun answer => ?_
  cases answer with
  | error e => exact alongside_throw _
  | ok x => exact alongside_pure _

lemma alongside_offer (hc : terms.cancelAt = none ∨ a = b) (h : ∀ t u, (T t).Matches (U u) R)
    (index : Nat) (e : PayloadEntry) {deadline deadline' : Nat}
    (hdeadline : deadline + b = deadline' + a) (rounds : Nat) :
    Alongside (Abreast a b R) (offer terms T index e deadline rounds)
      (offer terms U index e deadline' rounds) := by
  induction rounds with
  | zero => exact alongside_throw _
  | succ rounds ih =>
    rw [offer_succ, offer_succ]
    refine alongside_bind (alongside_call hc fun t u => (h t u).newPayload e.version e)
      fun answer => ?_
    rcases answer with fault | status
    · cases fault with
      | rpc code message => exact alongside_pure _
      | _ => exact alongside_throw _
    · by_cases hpending : status.verdict.isPending
      · simp only [hpending, Bool.not_true, Bool.false_eq_true, if_false]
        refine alongside_bind (alongside_failIf (fun m n hmn => ?_) _) fun _ =>
          alongside_bind (fun m n hmn => ?_) fun _ => ih
        · have hnow := hmn.now
          rw [decide_eq_decide]
          omega
        · refine ⟨.ok (), m.pause _, n.pause _, rfl, rfl, ?_, hmn.state⟩
          have hnow := hmn.now
          simp only [Moment.pause]
          omega
      · simp only [hpending, Bool.not_false, if_true]
        exact alongside_pure _

lemma isCancelled_alongside {cancelAt : Option Nat} (hc : cancelAt = none ∨ a = b)
    {m : Moment σ} {n : Moment τ} (hmn : Abreast a b R m n) :
    isCancelled cancelAt m.now = isCancelled cancelAt n.now := by
  rcases hc with rfl | rfl
  · rfl
  · rw [Nat.add_right_cancel hmn.now]

lemma alongside_submit (hc : terms.cancelAt = none ∨ a = b) (h : ∀ t u, (T t).Matches (U u) R)
    (index : Nat) (e : PayloadEntry) :
    Alongside (Abreast a b R) (submit terms f T index e) (submit terms f U index e) := by
  rw [submit_eq, submit_eq]
  refine alongside_bind (alongside_failIf (fun m n hmn => isCancelled_alongside hc hmn) _)
    fun _ => alongside_bind (alongside_lift _) fun _ m n hmn => ?_
  have hnow := hmn.now
  have hdeadline : m.now + terms.syncTimeout + b = n.now + terms.syncTimeout + a := by omega
  have hget (m : Moment σ) : (get : PayloadStep σ (Moment σ)).run.run m = (.ok m, m) := rfl
  have hget' (n : Moment τ) : (get : PayloadStep τ (Moment τ)).run.run n = (.ok n, n) := rfl
  rw [run_bind_ok (hget m), run_bind_ok (hget' n)]
  exact alongside_bind (alongside_offer hc h index e hdeadline _) (fun _ => alongside_lift _)
    m n hmn

lemma alongside_choose (hc : terms.cancelAt = none ∨ a = b) (h : ∀ t u, (T t).Matches (U u) R)
    (index : Nat) (e : PayloadEntry) :
    Alongside (Abreast a b R) (choose terms f T index e) (choose terms f U index e) := by
  unfold choose
  cases f.forkchoiceVersionFor e with
  | none => exact alongside_throw _
  | some version =>
    exact alongside_bind (alongside_ask hc fun t u => (h t u).chooseHead _ _) fun _ =>
      alongside_lift _

lemma alongside_extend (hc : terms.cancelAt = none ∨ a = b) (h : ∀ t u, (T t).Matches (U u) R)
    (index : Nat) (es : List PayloadEntry) :
    Alongside (Abreast a b R) (extend terms f T index es) (extend terms f U index es) := by
  induction es generalizing index with
  | nil => exact alongside_pure _
  | cons e rest ih =>
    refine alongside_bind (alongside_submit hc h index e) fun decision => ?_
    cases decision with
    | refused => exact alongside_pure _
    | accepted => exact alongside_bind (alongside_choose hc h index e) fun _ => ih (index + 1)

lemma alongside_checkPost (hc : terms.cancelAt = none ∨ a = b)
    (h : ∀ t u, (T t).Matches (U u) R) :
    Alongside (Abreast a b R) (checkPost terms f pre T) (checkPost terms f pre U) := by
  have hstate (s : Alloc) :
      Alongside (Abreast a b R) (checkState terms T pre s) (checkState terms U pre s) :=
    alongside_bind (alongside_ask hc fun t u => (h t u).readState _) fun _ => alongside_lift _
  unfold checkPost
  rcases f.expectedPost? with _ | s | d | r
  · exact alongside_throw _
  · exact hstate s
  · exact hstate (d.apply pre)
  · refine alongside_bind (alongside_ask hc fun t u => (h t u).block .latest) fun answer => ?_
    cases answer with
    | none => exact alongside_throw _
    | some block => exact alongside_lift _

lemma alongside_steps (hc : terms.cancelAt = none ∨ a = b) (h : ∀ t u, (T t).Matches (U u) R) :
    Alongside (Abreast a b R) (steps terms f pre T) (steps terms f pre U) := by
  refine alongside_bind ?_ fun _ => alongside_bind (alongside_extend hc h 0 f.payloads)
    fun _ => ?_
  · refine alongside_bind (alongside_call hc fun t u => (h t u).blockHash _) fun answer => ?_
    cases answer with
    | error e => exact alongside_throw _
    | ok hash => exact alongside_lift _
  · exact alongside_bind (alongside_ask hc fun t u => (h t u).head) fun _ =>
      alongside_bind (alongside_lift _) fun _ => alongside_checkPost hc h

variable (f pre) in
/-- A fixture has the same verdict on two clients that answer alike, and takes the same time on
them. If it is never cancelled the runs may begin at different times. -/
theorem run_alongside (hc : terms.cancelAt = none ∨ a = b) (h : ∀ t u, (T t).Matches (U u) R)
    {m : Moment σ} {n : Moment τ} (hmn : Abreast a b R m n) :
    ∃ verdict m' n', run terms f pre T m = (verdict, m') ∧ run terms f pre U n = (verdict, n') ∧
      Abreast a b R m' n' := by
  obtain ⟨end?, m', n', hm, hn, hmn⟩ := alongside_steps hc h m n hmn
  unfold run
  rw [hm, hn]
  exact ⟨_, m', n', rfl, rfl, hmn⟩

variable (f pre) in
lemma run_abreast (hc : terms.cancelAt = none) {T : EngineTarget σ} {U : EngineTarget τ}
    (h : T.Matches U R) {m : Moment σ} {n : Moment τ} (hR : R m.state n.state) :
    ∃ verdict m' n', run terms f pre T m = (verdict, m') ∧ run terms f pre U n = (verdict, n') ∧
      Abreast m.now n.now R m' n' :=
  run_alongside f pre (.inl hc) (fun _ _ => h) ⟨Nat.add_comm _ _, hR⟩

end PayloadRun

end ChainConformance
