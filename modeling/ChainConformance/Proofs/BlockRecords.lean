import ChainConformance.Proofs.BlockSteps
import ChainConformance.Proofs.BlockSimulation
import ChainConformance.Proofs.Cancellation
import ChainConformance.Proofs.Recording

/-!
# Records of targets that import blocks

A target can be made to keep a record of all calls that are made on it, each with the state that
it was made on and with the answer to it. Neither a run over blocks nor a group of such runs sees
the record, under whatever terms it is made.
-/

namespace ChainConformance

variable {σ τ α : Type}

/-- A call on a target, with the state that it was made on and with the answer to it, none if it
was cut short. -/
inductive BlockCall (σ : Type) where
  | start (fork : Fork) (pre : Alloc) (genesis : Header) (on : σ)
      (answer : Option (FaultOr Genesis))
  | apply (block : Block) (raw : Bytes) (on : σ) (answer : Option (FaultOr BlockOutcome))
  | readState (hint : Alloc) (on : σ) (answer : Option (FaultOr Alloc))
  | resetTo (hash : Hash) (on : σ) (answer : Option (FaultOr Unit))

def Call.logged {κ : Type} (note : σ → Option α → κ) (c : Call σ α) : Call (σ × List κ) α :=
  fun limit p =>
    let a := c limit p.1
    ⟨a.answer, a.elapsed, (a.state, p.2 ++ [note p.1 a.answer])⟩

/-- The target with a record of the calls that are made on it. -/
def BlockTarget.recorded (t : BlockTarget σ) : BlockTarget (σ × List (BlockCall σ)) where
  start fork pre genesis := (t.start fork pre genesis).logged (.start fork pre genesis)
  apply block raw := (t.apply block raw).logged (.apply block raw)
  readState hint := (t.readState hint).logged (.readState hint)
  resetTo hash := (t.resetTo hash).logged (.resetTo hash)

lemma Call.logged_matches {κ : Type} (note : σ → Option α → κ) (c : Call σ α) :
    (c.logged note).Matches c fun p s => p.1 = s := by
  rintro limit p _ rfl
  exact ⟨rfl, rfl, rfl⟩

lemma Call.logged_extends {κ : Type} (note : σ → Option α → κ) (c : Call σ α)
    (record : List κ) : (c.logged note).Keeps (record <+: ·.2) :=
  fun _ _ h => h.trans (List.prefix_append ..)

lemma BlockTarget.recorded_extends (t : BlockTarget σ) (record : List (BlockCall σ))
    (r : BlockRequest) : (t.recorded.request r).Keeps (record <+: ·.2) := by
  cases r with
  | start fork pre genesis => exact Call.logged_extends _ _ record
  | resume g => exact (Call.logged_extends _ _ record).bind fun _ => Call.keeps_pure _
  | apply block raw => exact Call.logged_extends _ _ record
  | readState hint => exact Call.logged_extends _ _ record

lemma BlockGroup.runFrom_extends (terms : Terms) (pre : Alloc) (t : BlockTarget σ)
    (members : List Member) (held : Option Genesis) (m : Moment (σ × List (BlockCall σ))) :
    m.state.2 <+: ((runFrom terms pre t.recorded members held).run m).2.state.2 := by
  exact runFrom_keeps terms pre _ (.of_keeps fun _ => t.recorded_extends m.state.2) members held
    (List.prefix_refl _)

/-- The calls to two targets are answered alike, in the same time, and keep a relation between
their states. -/
structure BlockTarget.Matches (T : BlockTarget σ) (U : BlockTarget τ) (R : σ → τ → Prop) :
    Prop where
  start : ∀ fork pre genesis, (T.start fork pre genesis).Matches (U.start fork pre genesis) R
  apply : ∀ block raw, (T.apply block raw).Matches (U.apply block raw) R
  readState : ∀ hint, (T.readState hint).Matches (U.readState hint) R
  resetTo : ∀ hash, (T.resetTo hash).Matches (U.resetTo hash) R

lemma BlockTarget.recorded_matches (t : BlockTarget σ) :
    t.recorded.Matches t fun p s => p.1 = s where
  start _ _ _ := Call.logged_matches _ _
  apply _ _ := Call.logged_matches _ _
  readState _ := Call.logged_matches _ _
  resetTo _ := Call.logged_matches _ _

variable {R : σ → τ → Prop}

namespace BlockRun

variable {T : Nat → BlockTarget σ} {U : Nat → BlockTarget τ} {terms : Terms} {f : Fixture}
  {pre : Alloc}

/-- Two runs have come equally far, at the same time. -/
structure Level (R : σ → τ → Prop) (r : BlockRun σ) (r' : BlockRun τ) : Prop where
  moment : Abreast 0 0 R r.moment r'.moment
  phases : r.phases = r'.phases
  genesis : r.genesis = r'.genesis

/-- Two steps end alike, and leave runs that have come equally far. -/
abbrev Parallel (R : σ → τ → Prop) (x : BlockStep σ α) (y : BlockStep τ α) : Prop :=
  Mirrors (Level R) x y (fun _ => Level R) (Level R)

lemma parallel_pure (a : α) : Parallel R (pure a : BlockStep σ α) (pure a : BlockStep τ α) :=
  mirrors_pure fun _ _ h => h

lemma parallel_throw (e : Failure) :
    Parallel R (throw e : BlockStep σ α) (throw e : BlockStep τ α) :=
  mirrors_throw fun _ _ h => h

lemma parallel_lift (x : Except Failure α) :
    Parallel R (liftM x : BlockStep σ α) (liftM x : BlockStep τ α) :=
  mirrors_lift x (fun _ _ _ _ h => h) fun _ _ h => h

lemma parallel_guarded {c : Nat → Call σ α} {d : Nat → Call τ α}
    (h : ∀ t u, (c t).Matches (d u) R) : Parallel R (guarded terms c) (guarded terms d) := by
  intro r r' hlevel
  obtain ⟨answer, m, n, hm, hn, hmn⟩ := (h r.moment.now r'.moment.now).guarded hlevel.moment
    (.inr rfl) terms.callTimeout
  refine .inl ⟨answer, { r with moment := m }, { r' with moment := n }, ?_, ?_, hmn,
    hlevel.phases, hlevel.genesis⟩
  · rw [run_call, hm]
  · rw [run_call, hn]

lemma parallel_enter (p : Phase) :
    Parallel R (enter p : BlockStep σ Unit) (enter p : BlockStep τ Unit) :=
  fun _ _ h => .inl ⟨(), _, _, rfl, rfl, h.moment, congrArg (p :: ·) h.phases, h.genesis⟩

lemma parallel_establish (h : ∀ t u, (T t).Matches (U u) R) (resumed : Option Genesis) :
    Parallel R (establish terms f pre T resumed) (establish terms f pre U resumed) := by
  have hbegin (t u : Nat) :
      (begin f pre (T t) resumed).Matches (begin f pre (U u) resumed) R := by
    cases resumed with
    | none => exact (h t u).start _ _ _
    | some g => exact ((h t u).resetTo g.hash).bind fun _ => .pure _
  refine mirrors_bind (parallel_guarded hbegin) fun answer => ?_
  rcases answer with (e | g) | _ | _
  · exact parallel_throw _
  · refine mirrors_bind (parallel_lift _) fun _ => mirrors_bind ?_ fun _ => parallel_pure _
    exact fun _ _ h => .inl ⟨(), _, _, rfl, rfl, h.moment, h.phases, rfl⟩
  · exact parallel_throw _
  · exact parallel_throw _

lemma parallel_offer (h : ∀ t u, (T t).Matches (U u) R) (index : Nat) (b : FixtureBlock) :
    Parallel R (offer terms f T index b) (offer terms f U index b) := by
  unfold offer
  rcases decoded b with text | ⟨block, raw⟩
  · exact parallel_pure _
  · refine mirrors_bind (parallel_guarded fun t u => (h t u).apply block raw) fun answer => ?_
    rcases answer with (e | outcome) | _ | _
    · exact parallel_throw _
    · exact parallel_pure _
    · exact parallel_pure _
    · exact parallel_throw _

lemma parallel_extend (h : ∀ t u, (T t).Matches (U u) R) (bs : List FixtureBlock) (index : Nat)
    (tip : Tip) : Parallel R (extend terms f T index bs tip) (extend terms f U index bs tip) := by
  induction bs generalizing index tip with
  | nil => exact parallel_pure _
  | cons b rest ih =>
    rw [extend_cons_eq, extend_cons_eq]
    refine mirrors_bind (parallel_enter _) fun _ => mirrors_bind ?_ fun _ =>
      mirrors_bind (parallel_offer h index b) fun ⟨outcome, fork⟩ =>
        mirrors_bind (parallel_lift _) fun next => ?_
    · intro r r' hlevel
      have hnow : r.moment.now = r'.moment.now := hlevel.moment.now
      rw [run_failIf, run_failIf, hnow]
      cases isCancelled terms.cancelAt r'.moment.now with
      | true => exact .inr ⟨_, _, _, rfl, rfl, hlevel⟩
      | false => exact .inl ⟨_, _, _, rfl, rfl, hlevel⟩
    · cases next with
      | none => exact parallel_pure _
      | some next => exact ih (index + 1) next

lemma parallel_checkPost (h : ∀ t u, (T t).Matches (U u) R) (stateRoot : Hash) :
    Parallel R (checkPost terms f pre T stateRoot) (checkPost terms f pre U stateRoot) := by
  have hstate (s : Alloc) : Parallel R (checkState terms T s) (checkState terms U s) := by
    refine mirrors_bind (parallel_guarded fun t u => (h t u).readState s) fun answer => ?_
    rcases answer with (e | observed) | _ | _
    · exact parallel_throw _
    · exact parallel_lift _
    · exact parallel_throw _
    · exact parallel_throw _
  unfold checkPost
  rcases f.expectedPost? with _ | s | d | r
  · exact parallel_throw _
  · exact hstate s
  · exact hstate (d.apply pre)
  · exact parallel_lift _

variable (terms f pre) in
/-- Two runs on targets that answer alike come to the same verdict, at the same time. -/
lemma run_level (h : ∀ t u, (T t).Matches (U u) R) (resumed : Option Genesis)
    {m : Moment σ} {n : Moment τ} (hmn : Abreast 0 0 R m n) :
    (run terms f pre T resumed m).1 = (run terms f pre U resumed n).1 ∧
      Level R (run terms f pre T resumed m).2 (run terms f pre U resumed n).2 := by
  have hsteps : Parallel R (steps terms f pre T resumed) (steps terms f pre U resumed) :=
    mirrors_bind (parallel_establish h resumed) fun _ => mirrors_bind (parallel_enter _) fun _ =>
      mirrors_bind (parallel_extend h _ _ _) fun tip => mirrors_bind (parallel_lift _) fun _ =>
        parallel_checkPost h tip.stateRoot
  unfold run
  rcases hsteps (initial m) (initial n) ⟨hmn, rfl, rfl⟩ with
    ⟨a, r, r', hr, hr', hlevel⟩ | ⟨e, r, r', hr, hr', hlevel⟩ <;> rw [hr, hr'] <;>
    exact ⟨rfl, hlevel.moment, congrArg (_ :: ·) hlevel.phases, hlevel.genesis⟩

end BlockRun

namespace BlockGroup

variable {T : Nat → BlockTarget σ} {U : Nat → BlockTarget τ} (terms : Terms) (pre : Alloc)

lemma runFrom_level (h : ∀ t u, (T t).Matches (U u) R) (members : List Member)
    (held : Option Genesis) {m : Moment σ} {n : Moment τ} (hmn : Abreast 0 0 R m n) :
    ((runFrom terms pre T members held).run m).1 =
        ((runFrom terms pre U members held).run n).1 ∧
      Abreast 0 0 R ((runFrom terms pre T members held).run m).2
        ((runFrom terms pre U members held).run n).2 := by
  induction members generalizing held m n with
  | nil => exact ⟨rfl, hmn⟩
  | cons member rest ih =>
    have hnow : m.now = n.now := hmn.now
    rw [run_runFrom_cons, run_runFrom_cons, hnow]
    by_cases hcancelled : isCancelled terms.cancelAt n.now
    · rw [if_pos hcancelled, if_pos hcancelled]
      exact ⟨rfl, hmn⟩
    · rw [if_neg hcancelled, if_neg hcancelled]
      obtain ⟨hverdict, hmoment, -, hgenesis⟩ := BlockRun.run_level terms member.fixture pre h
        (held.filter fun g => g.hash = member.fixture.genesisHash) hmn
      simp only [hverdict, hgenesis]
      obtain ⟨hresults, hrest⟩ := ih _ hmoment
      exact ⟨congrArg (_ :: ·) hresults, hrest⟩

theorem run_recorded (target : BlockTarget σ) (members : List Member) (m : Moment σ)
    (record : List (BlockCall σ)) :
    let noted := run terms pre target.recorded members ⟨m.now, (m.state, record)⟩
    run terms pre target members m = (noted.1, noted.2.map Prod.fst) := by
  obtain ⟨hresults, hnow, hstate⟩ := runFrom_level terms pre
    (fun _ _ => target.recorded_matches) members none (m := ⟨m.now, (m.state, record)⟩) (n := m)
    ⟨rfl, rfl⟩
  exact Prod.ext hresults.symm (congrArg₂ Moment.mk hnow.symm hstate.symm)

end BlockGroup

end ChainConformance
