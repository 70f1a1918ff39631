import ChainConformance.Proofs.BlockVerdict
import ChainConformance.Proofs.PayloadVerdict

/-!
# Runs as sequences of steps

The loops of both kinds of runs look at the clock before they go on. This file has them as
sequences of steps, with the look at the clock as a step of its own, under whatever terms the
run is: two runs can then be compared step by step.
-/

namespace ChainConformance

section Steps

variable {ε σ α : Type}

lemma step_ext {x y : ExceptT ε (StateM σ) α} (h : ∀ s, x.run.run s = y.run.run s) : x = y :=
  funext h

def failIf (p : σ → Bool) (e : ε) : ExceptT ε (StateM σ) Unit := do
  if p (← get) then throw e

lemma run_failIf (p : σ → Bool) (e : ε) (s : σ) :
    (failIf p e).run.run s = if p s then (.error e, s) else (.ok (), s) := by
  unfold failIf
  have hget : (get : ExceptT ε (StateM σ) σ).run.run s = (.ok s, s) := rfl
  rw [run_bind_ok hget]
  cases p s <;> rfl

/-- Where a state has the moment of its run. -/
structure Clocked (τ σ : Type) where
  moment : τ → Moment σ
  put : Moment σ → τ → τ
  moment_put : ∀ m t, moment (put m t) = m

variable {τ : Type}

/-- Makes the call that there is at the time. It is given up at its deadline, and it fails the
run when that is cancelled. -/
def await (p : Clocked τ σ) (cancelAt : Option Nat) (timeout : Nat) (index : Option Nat)
    (c : Nat → Call σ α) : ExceptT Failure (StateM τ) (Option α) := do
  let t ← get
  let (answer, m) := (p.moment t).guarded cancelAt timeout (c (p.moment t).now)
  set (p.put m t)
  match answer with
  | .done a => return some a
  | .timedOut => return none
  | .cancelled => throw { kind := .cancelled, block := index }

lemma run_await (p : Clocked τ σ) (cancelAt : Option Nat) (timeout : Nat)
    (index : Option Nat) (c : Nat → Call σ α) (t : τ) :
    (await p cancelAt timeout index c).run.run t =
      match (p.moment t).guarded cancelAt timeout (c (p.moment t).now) with
      | (.done a, m) => (.ok (some a), p.put m t)
      | (.timedOut, m) => (.ok none, p.put m t)
      | (.cancelled, m) => (.error { kind := .cancelled, block := index }, p.put m t) := by
  have hget : (get : ExceptT Failure (StateM τ) τ).run.run t = (.ok t, t) := rfl
  unfold await
  rw [run_bind_ok hget]
  rcases (p.moment t).guarded cancelAt timeout (c (p.moment t).now) with ⟨a | _ | _, m⟩ <;> rfl

end Steps

namespace BlockRun

variable {σ : Type} (terms : Terms) (f : Fixture) (pre : Alloc) (target : Nat → BlockTarget σ)

def clocked : Clocked (BlockRun σ) σ where
  moment := BlockRun.moment
  put m r := { r with moment := m }
  moment_put _ _ := rfl

lemma guarded_bind_eq {α β : Type} (index : Option Nat) (c : Nat → Call σ α)
    (next : Guarded α → BlockStep σ β)
    (hcancelled : next .cancelled = throw { kind := .cancelled, block := index }) :
    guarded terms c >>= next = (do
      match ← await clocked terms.cancelAt terms.callTimeout index c with
      | some a => next (.done a)
      | none => next .timedOut) := by
  refine step_ext fun r => ?_
  have hguarded : (guarded terms c).run.run r =
      (.ok (r.moment.guarded terms.cancelAt terms.callTimeout (c r.moment.now)).1,
        { r with moment :=
          (r.moment.guarded terms.cancelAt terms.callTimeout (c r.moment.now)).2 }) := rfl
  have hmoment : (clocked.moment r : Moment σ) = r.moment := rfl
  rw [run_bind_ok hguarded, run_bind, run_await, hmoment]
  rcases r.moment.guarded terms.cancelAt terms.callTimeout (c r.moment.now) with
    ⟨a | _ | _, m⟩
  · rfl
  · rfl
  · simp only [hcancelled]
    rfl

lemma establish_eq (resumed : Option Genesis) :
    establish terms f pre target resumed = (do
      match ← await clocked terms.cancelAt terms.callTimeout none
          fun now => begin f pre (target now) resumed with
      | some (.ok g) =>
        judgeGenesis f g
        modify fun r => { r with genesis := some g }
        return ⟨f.genesisHead, g.stateRoot⟩
      | some (.error e) => throw (setupFailure e.message)
      | none => throw { kind := .timeout }) := by
  unfold establish
  rw [guarded_bind_eq terms none _ _ rfl]
  congr 1
  funext answer
  rcases answer with _ | _ | g <;> rfl

lemma offer_eq (index : Nat) (b : FixtureBlock) :
    offer terms f target index b = match decoded b with
      | .error text => return (.undecodable text, f.network)
      | .ok (block, raw) => do
        match ← await clocked terms.cancelAt terms.callTimeout (some index)
            fun now => (target now).apply block raw with
        | some (.ok outcome) => return (outcome, forkOf f block)
        | some (.error e) =>
          throw { kind := .clientFault, block := some index, message := some e.message }
        | none => return (.timedOut, forkOf f block) := by
  unfold offer
  rcases decoded b with text | ⟨block, raw⟩
  · rfl
  · simp only
    rw [guarded_bind_eq terms (some index) _ _ rfl]
    congr 1
    funext answer
    rcases answer with _ | _ | outcome <;> rfl

lemma checkState_eq (expected : Alloc) :
    checkState terms target expected = (do
      match ← await clocked terms.cancelAt terms.callTimeout none
          fun now => (target now).readState expected with
      | some (.ok observed) => judgeState expected observed
      | some (.error e) => throw { kind := .clientFault, message := some e.message }
      | none => throw { kind := .timeout }) := by
  unfold checkState
  rw [guarded_bind_eq terms none _ _ rfl]
  congr 1
  funext answer
  rcases answer with _ | _ | observed <;> rfl

lemma extend_cons_eq (index : Nat) (b : FixtureBlock) (rest : List FixtureBlock) (tip : Tip) :
    extend terms f target index (b :: rest) tip = (do
      enter (.extending tip index)
      failIf (fun r => isCancelled terms.cancelAt r.moment.now)
        { kind := .cancelled, block := some index }
      let (outcome, fork) ← offer terms f target index b
      match ← judgeOutcome terms index b.expected fork outcome with
      | some next => extend terms f target (index + 1) rest next
      | none => return tip) := by
  refine step_ext fun r => ?_
  have henter : (enter (.extending tip index)).run.run r = (.ok (), entering r tip index) := rfl
  have hget : (get : BlockStep σ (BlockRun σ)).run.run (entering r tip index) =
      (.ok (entering r tip index), entering r tip index) := rfl
  rw [extend, run_bind_ok henter, run_bind_ok henter, run_bind_ok hget, run_bind, run_failIf]
  cases isCancelled terms.cancelAt (entering r tip index).moment.now <;> rfl

end BlockRun

namespace PayloadRun

variable {σ : Type} (terms : Terms) (f : Fixture) (target : Nat → EngineTarget σ)

def clocked : Clocked (Moment σ) σ where
  moment := id
  put m _ := m
  moment_put _ _ := rfl

lemma call_eq {α : Type} (index : Option Nat) (c : Nat → Call σ α) :
    call terms index c = (do
      match ← await clocked terms.cancelAt terms.callTimeout index c with
      | some a => return a
      | none => throw { kind := .timeout, block := index }) := by
  refine step_ext fun m => ?_
  have hmodify : (modifyGet fun m : Moment σ =>
      m.guarded terms.cancelAt terms.callTimeout (c m.now) :
        PayloadStep σ (Guarded α)).run.run m =
      (.ok (m.guarded terms.cancelAt terms.callTimeout (c m.now)).1,
        (m.guarded terms.cancelAt terms.callTimeout (c m.now)).2) := rfl
  have hmoment : (clocked.moment m : Moment σ) = m := rfl
  unfold call
  rw [run_bind_ok hmodify, run_bind, run_await, hmoment]
  rcases m.guarded terms.cancelAt terms.callTimeout (c m.now) with ⟨a | _ | _, m'⟩ <;> rfl

lemma submit_eq (index : Nat) (e : PayloadEntry) :
    submit terms f target index e = (do
      failIf (fun m => isCancelled terms.cancelAt m.now)
        { kind := .cancelled, block := some index }
      ((e.checkVersion f.network).mapError fun v => constructionFailure index v.message)
      let m ← get
      let response ← offer terms target index e (m.now + terms.syncTimeout)
        (terms.syncTimeout + 1)
      judgeResponse terms f.network index e response) := by
  refine step_ext fun m => ?_
  have hget : (get : PayloadStep σ (Moment σ)).run.run m = (.ok m, m) := rfl
  rw [submit, run_bind_ok hget, run_bind, run_failIf]
  cases isCancelled terms.cancelAt m.now <;> rfl

lemma offer_succ (index : Nat) (e : PayloadEntry) (deadline rounds : Nat) :
    offer terms target index e deadline (rounds + 1) = (do
      match ← call terms (some index) fun now => (target now).newPayload e.version e with
      | .error (.rpc code message) => return .refused code message
      | .error fault => throw (clientFault (some index) fault)
      | .ok status =>
        if !status.verdict.isPending then return .status status
        else
          failIf (fun m => deadline ≤ m.now) {
            kind := .timeout, block := some index
            message := some ("payload stayed " ++ status.verdict.name) }
          modify (Moment.pause (max 1 terms.pollInterval))
          offer terms target index e deadline rounds) := by
  rw [offer]
  congr 1
  funext answer
  rcases answer with fault | status
  · cases fault <;> rfl
  · refine step_ext fun m => ?_
    dsimp only
    cases status.verdict.isPending
    · rfl
    · have hget : (get : PayloadStep σ (Moment σ)).run.run m = (.ok m, m) := rfl
      simp only [Bool.not_true, Bool.false_eq_true, if_false]
      rw [run_bind_ok hget, run_bind, run_failIf]
      by_cases h : deadline ≤ m.now
      · simp only [h, decide_true, if_true]
        rfl
      · simp only [h, decide_false, Bool.false_eq_true, if_false]

end PayloadRun

end ChainConformance
