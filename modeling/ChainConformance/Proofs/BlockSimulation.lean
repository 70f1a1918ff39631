import ChainConformance.Proofs.BlockVerdict

/-!
# Runs over blocks on two targets

Two targets that answer alike give a fixture the same verdict, however long they take to
answer. What they hold may differ: it is enough that a relation between the two holds at the
genesis block and is kept by every block of the fixture in its turn.
-/

namespace ChainConformance

variable {σ τ α β : Type}

/-- Two calls are answered alike, whatever time they take and are given, and leave states
that are related. -/
def Call.Alike (c : Call σ α) (d : Call τ α) (R : α → σ → τ → Prop) (s : σ) (t : τ) : Prop :=
  ∃ a, ∀ limit limit', (c limit s).answer = some a ∧ (d limit' t).answer = some a ∧
    R a (c limit s).state (d limit' t).state

lemma Call.Alike.within {c : Call σ α} {d : Call τ α} {R : α → σ → τ → Prop} {m : Moment σ}
    {n : Moment τ} (h : c.Alike d R m.state n.state) (timeout : Nat) :
    ∃ a m' n', m.within timeout c = (.done a, m') ∧ n.within timeout d = (.done a, n') ∧
      R a m'.state n'.state := by
  obtain ⟨a, ha⟩ := h
  obtain ⟨hc, hd, hR⟩ := ha (some timeout) (some timeout)
  exact ⟨a, _, _, Moment.within_answered hc, Moment.within_answered hd, hR⟩

namespace BlockRun

/-- Two steps end alike from runs that are related: with the same value and runs that are
related by `Q`, or with the same failure and runs that are related by `E`. -/
def Mirrors (P : BlockRun σ → BlockRun τ → Prop) (x : BlockStep σ α) (y : BlockStep τ α)
    (Q : α → BlockRun σ → BlockRun τ → Prop) (E : BlockRun σ → BlockRun τ → Prop) : Prop :=
  ∀ r r', P r r' →
    (∃ a s s', x.run.run r = (.ok a, s) ∧ y.run.run r' = (.ok a, s') ∧ Q a s s') ∨
    ∃ e s s', x.run.run r = (.error e, s) ∧ y.run.run r' = (.error e, s') ∧ E s s'

section Mirrors

variable {P : BlockRun σ → BlockRun τ → Prop} {Q : α → BlockRun σ → BlockRun τ → Prop}
  {Q' : β → BlockRun σ → BlockRun τ → Prop} {E : BlockRun σ → BlockRun τ → Prop}

lemma mirrors_pure {a : α} (h : ∀ r r', P r r' → Q a r r') :
    Mirrors P (pure a : BlockStep σ α) (pure a : BlockStep τ α) Q E :=
  fun r r' hP => Or.inl ⟨a, r, r', rfl, rfl, h r r' hP⟩

lemma mirrors_throw {e : Failure} (h : ∀ r r', P r r' → E r r') :
    Mirrors P (throw e : BlockStep σ α) (throw e : BlockStep τ α) Q E :=
  fun r r' hP => Or.inr ⟨e, r, r', rfl, rfl, h r r' hP⟩

lemma mirrors_lift (x : Except Failure α) (h : ∀ a r r', x = .ok a → P r r' → Q a r r')
    (hE : ∀ r r', P r r' → E r r') :
    Mirrors P (liftM x : BlockStep σ α) (liftM x : BlockStep τ α) Q E := by
  intro r r' hP
  cases x with
  | error e => exact Or.inr ⟨e, r, r', rfl, rfl, hE r r' hP⟩
  | ok a => exact Or.inl ⟨a, r, r', rfl, rfl, h a r r' rfl hP⟩

lemma mirrors_bind {x : BlockStep σ α} {y : BlockStep τ α} {next : α → BlockStep σ β}
    {next' : α → BlockStep τ β} (h : Mirrors P x y Q E)
    (hnext : ∀ a, Mirrors (Q a) (next a) (next' a) Q' E) :
    Mirrors P (x >>= next) (y >>= next') Q' E := by
  intro r r' hP
  rcases h r r' hP with ⟨a, s, s', hx, hy, hQ⟩ | ⟨e, s, s', hx, hy, hE⟩
  · rw [run_bind_ok hx, run_bind_ok hy]
    exact hnext a s s' hQ
  · rw [run_bind_error hx, run_bind_error hy]
    exact Or.inr ⟨e, s, s', rfl, rfl, hE⟩

end Mirrors

/-- Two runs hold the same genesis block, if any, on targets whose states are related. -/
structure Meet (g : Option Genesis) (R : σ → τ → Prop) (r : BlockRun σ) (r' : BlockRun τ) :
    Prop where
  left : r.genesis = g
  right : r'.genesis = g
  related : R r.moment.state r'.moment.state

variable {terms : Terms} {f : Fixture} {pre : Alloc} {T : BlockTarget σ} {U : BlockTarget τ}
  {resumed resumed' : Option Genesis}

lemma mirrors_guarded (hc : terms.cancelAt = none) {c : Call σ α} {d : Call τ α}
    {g : Option Genesis} {R : σ → τ → Prop} {R' : α → σ → τ → Prop}
    {E : BlockRun σ → BlockRun τ → Prop} (h : ∀ s t, R s t → c.Alike d R' s t) :
    Mirrors (Meet g R) (guarded terms c) (guarded terms d)
      (fun answer r r' => ∃ a, answer = .done a ∧ Meet g (R' a) r r') E := by
  intro r r' hmeet
  obtain ⟨a, m, n, hm, hn, hR⟩ := (h _ _ hmeet.related).within terms.callTimeout
  refine Or.inl ⟨.done a, { r with moment := m }, { r' with moment := n }, ?_, ?_, a, rfl,
    hmeet.left, hmeet.right, hR⟩
  · rw [run_guarded hc, hm]
  · rw [run_guarded hc, hn]

/-- The relation is kept by the calls of a run. It may say which blocks of the fixture have
been accepted so far. -/
structure Simulates (f : Fixture) (T : BlockTarget σ) (U : BlockTarget τ)
    (R : List FixtureBlock → σ → τ → Prop) : Prop where
  apply : ∀ before b rest block raw s t, f.blocks = before ++ b :: rest →
    decoded b = .ok (block, raw) → R before s t →
    (T.apply block raw).Alike (U.apply block raw) (fun answer s' t' => ∃ done, R done s' t' ∧
      ∀ head stateRoot, answer = .ok (.accepted head stateRoot) → done = before ++ [b]) s t
  readState : ∀ done hint s t, R done s t →
    (T.readState hint).Alike (U.readState hint) (fun _ => R done) s t

/-- Two runs hold the same genesis block on targets whose states are related for some blocks
that have been accepted. -/
def Keep (g : Genesis) (R : List FixtureBlock → σ → τ → Prop) (r : BlockRun σ)
    (r' : BlockRun τ) : Prop := ∃ done, Meet (some g) (R done) r r'

variable {g : Genesis} {R : List FixtureBlock → σ → τ → Prop}

lemma mirrors_offer (hc : terms.cancelAt = none) (h : Simulates f T U R)
    {before rest : List FixtureBlock} {b : FixtureBlock}
    (hblocks : f.blocks = before ++ b :: rest) (i : Nat) :
    Mirrors (Meet (some g) (R before)) (offer terms f T i b) (offer terms f U i b)
      (fun o r r' => ∃ done, Meet (some g) (R done) r r' ∧
        ∀ head stateRoot, o.1 = .accepted head stateRoot → done = before ++ [b])
      (Keep g R) := by
  unfold offer
  cases hdecoded : decoded b with
  | error text => exact mirrors_pure fun r r' hmeet => ⟨before, hmeet, nofun⟩
  | ok decodedBlock =>
    obtain ⟨block, raw⟩ := decodedBlock
    refine mirrors_bind (mirrors_guarded hc fun s t hR =>
      h.apply before b rest block raw s t hblocks hdecoded hR) fun answer => ?_
    rintro r r' ⟨a, rfl, hgenesis, hgenesis', done, hR, hdone⟩
    cases a with
    | error e => exact Or.inr ⟨_, r, r', rfl, rfl, done, hgenesis, hgenesis', hR⟩
    | ok outcome =>
      refine Or.inl ⟨_, r, r', rfl, rfl, done, ⟨hgenesis, hgenesis', hR⟩, ?_⟩
      intro head stateRoot houtcome
      exact hdone head stateRoot (congrArg Except.ok houtcome)

lemma judgeOutcome_some {i : Nat} {expected : Option ExceptionSet} {fork : Fork}
    {outcome : BlockOutcome} {next : Tip}
    (h : judgeOutcome terms i expected fork outcome = .ok (some next)) :
    ∃ head stateRoot, outcome = .accepted head stateRoot := by
  cases outcome with
  | accepted head stateRoot => exact ⟨head, stateRoot, rfl⟩
  | rejected message tag =>
    rw [judgeOutcome_rejected] at h
    obtain ⟨u, _, hnone⟩ := map_eq_ok.mp h
    cases hnone
  | undecodable text =>
    simp only [judgeOutcome] at h
    split at h <;> cases h
  | timedOut => cases h

lemma mirrors_extend (hc : terms.cancelAt = none) (h : Simulates f T U R)
    {before rest : List FixtureBlock} (hblocks : f.blocks = before ++ rest) (i : Nat)
    (tip : Tip) :
    Mirrors (Meet (some g) (R before)) (extend terms f T i rest tip)
      (extend terms f U i rest tip) (fun _ => Keep g R) (Keep g R) := by
  induction rest generalizing before i tip with
  | nil => exact mirrors_pure fun r r' hmeet => ⟨before, hmeet⟩
  | cons b rest ih =>
    intro r r' hmeet
    have hentering : Meet (some g) (R before) (entering r tip i) (entering r' tip i) :=
      ⟨hmeet.left, hmeet.right, hmeet.related⟩
    rw [extend_cons hc, extend_cons hc]
    rcases mirrors_offer hc h hblocks i _ _ hentering with
      ⟨⟨outcome, fork⟩, s, s', hoffer, hoffer', done, hdone, haccepted⟩ |
        ⟨e, s, s', hoffer, hoffer', hkeep⟩
    · rw [hoffer, hoffer']
      simp only
      cases hjudge : judgeOutcome terms i b.expected fork outcome with
      | error e => exact Or.inr ⟨e, s, s', rfl, rfl, done, hdone⟩
      | ok next? =>
        cases next? with
        | none => exact Or.inl ⟨tip, s, s', rfl, rfl, done, hdone⟩
        | some next =>
          obtain ⟨head, stateRoot, houtcome⟩ := judgeOutcome_some hjudge
          rw [haccepted head stateRoot houtcome] at hdone
          have hrest : f.blocks = (before ++ [b]) ++ rest := by
            rw [hblocks, List.append_assoc]
            rfl
          exact ih hrest (i + 1) next s s' hdone
    · rw [hoffer, hoffer']
      exact Or.inr ⟨e, s, s', rfl, rfl, hkeep⟩

lemma mirrors_checkState (hc : terms.cancelAt = none) (h : Simulates f T U R) (s : Alloc) :
    Mirrors (Keep g R) (checkState terms T s) (checkState terms U s) (fun _ => Keep g R)
      (Keep g R) := by
  rintro r r' ⟨done, hmeet⟩
  refine mirrors_bind (mirrors_guarded hc fun s' t hR => h.readState done s s' t hR)
    (fun answer => ?_) r r' hmeet
  rintro r r' ⟨a, rfl, hkeep⟩
  cases a with
  | error e => exact Or.inr ⟨_, r, r', rfl, rfl, done, hkeep⟩
  | ok observed =>
    exact mirrors_lift (P := Keep g R) _ (fun _ _ _ _ hP => hP) (fun _ _ hP => hP) r r'
      ⟨done, hkeep⟩

lemma mirrors_checkPost (hc : terms.cancelAt = none) (h : Simulates f T U R)
    (stateRoot : Hash) :
    Mirrors (Keep g R) (checkPost terms f pre T stateRoot) (checkPost terms f pre U stateRoot)
      (fun _ => Keep g R) (Keep g R) := by
  unfold checkPost
  rcases f.expectedPost? with _ | s | d | r
  · exact mirrors_throw fun _ _ hP => hP
  · exact mirrors_checkState hc h s
  · exact mirrors_checkState hc h (d.apply pre)
  · exact mirrors_lift _ (fun _ _ _ _ hP => hP) fun _ _ hP => hP

/-- What two runs that end alike have to show for it: they have the same genesis block if it
is that of the fixture, and hold related states then. -/
def Concludes (f : Fixture) (R : Genesis → List FixtureBlock → σ → τ → Prop)
    (r : BlockRun σ) (r' : BlockRun τ) : Prop :=
  r.genesis = r'.genesis ∧
    ∀ g, r.genesis = some g → g.hash = f.genesisHash ∧
      ∃ done, R g done r.moment.state r'.moment.state

lemma mirrors_chain (hc : terms.cancelAt = none) (h : Simulates f T U R) (tip : Tip) :
    Mirrors (Meet (some g) (R []))
      (do
        let tip ← extend terms f T 0 f.blocks tip
        judgeHead f.expectedHead tip.head
        checkPost terms f pre T tip.stateRoot)
      (do
        let tip ← extend terms f U 0 f.blocks tip
        judgeHead f.expectedHead tip.head
        checkPost terms f pre U tip.stateRoot)
      (fun _ => Keep g R) (Keep g R) :=
  mirrors_bind (mirrors_extend hc h (List.nil_append _).symm 0 tip) fun tip =>
    mirrors_bind (mirrors_lift _ (fun _ _ _ _ hP => hP) fun _ _ hP => hP) fun _ =>
      mirrors_checkPost hc h tip.stateRoot

/-- Two runs whose targets answer alike come to the same verdict. -/
theorem run_simulated (hc : terms.cancelAt = none)
    {R : Genesis → List FixtureBlock → σ → τ → Prop} (h : ∀ g, Simulates f T U (R g))
    {m : Moment σ} {n : Moment τ}
    (begins : (begin f pre T resumed).Alike (begin f pre U resumed')
      (fun answer s t => ∀ g, answer = .ok g → g.hash = f.genesisHash → R g [] s t)
      m.state n.state) :
    (run terms f pre T resumed m).1 = (run terms f pre U resumed' n).1 ∧
      Concludes f R (run terms f pre T resumed m).2 (run terms f pre U resumed' n).2 := by
  obtain ⟨a, m₁, n₁, hm, hn, hR⟩ := begins.within terms.callTimeout
  have hsteps : (∃ r r', (steps terms f pre T resumed).run.run (initial m) = (.ok (), r) ∧
      (steps terms f pre U resumed').run.run (initial n) = (.ok (), r') ∧
      Concludes f R r r') ∨
      ∃ e r r', (steps terms f pre T resumed).run.run (initial m) = (.error e, r) ∧
      (steps terms f pre U resumed').run.run (initial n) = (.error e, r') ∧
      Concludes f R r r' := by
    have hestablish := run_establish f pre T resumed hc (initial m)
    have hestablish' := run_establish f pre U resumed' hc (initial n)
    have hnone : ∀ m' : Moment σ, ∀ n' : Moment τ,
        Concludes f R { initial m with moment := m' } { initial n with moment := n' } :=
      fun _ _ => ⟨rfl, nofun⟩
    rw [show (initial m).moment = m from rfl, hm] at hestablish
    rw [show (initial n).moment = n from rfl, hn] at hestablish'
    cases a with
    | error e =>
      exact Or.inr ⟨_, _, _, steps_error hestablish, steps_error hestablish', hnone m₁ n₁⟩
    | ok g =>
      by_cases hgenesis : g.stateRoot ≠ f.genesis.stateRoot ∨ g.hash ≠ f.genesisHash
      · obtain ⟨text, htext⟩ := judgeGenesis_error hgenesis
        simp only [htext] at hestablish hestablish'
        exact Or.inr ⟨_, _, _, steps_error hestablish, steps_error hestablish', hnone m₁ n₁⟩
      · obtain ⟨hroot, hhash⟩ := not_or.mp hgenesis
        have begins : Begins terms f pre T resumed m g m₁ :=
          ⟨hm, not_not.mp hroot, not_not.mp hhash⟩
        have begins' : Begins terms f pre U resumed' n g n₁ :=
          ⟨hn, not_not.mp hroot, not_not.mp hhash⟩
        -- From the genesis block on the two runs go through the same steps, however they end.
        have hkeep : ∀ r r', Keep g (R g) r r' → Concludes f R r r' := by
          rintro r r' ⟨done, hleft, hright, hrelated⟩
          refine ⟨hleft.trans hright.symm, fun g' hg' => ?_⟩
          rw [hleft] at hg'
          cases hg'
          exact ⟨not_not.mp hhash, done, hrelated⟩
        have hmeet (ps : List Phase) : Meet (some g) (R g []) ⟨m₁, ps, some g⟩ ⟨n₁, ps, some g⟩ :=
          ⟨rfl, rfl, hR g rfl (not_not.mp hhash)⟩
        rw [steps_begins hc begins, steps_begins hc begins']
        rcases mirrors_chain hc (h g) ⟨f.genesisHead, g.stateRoot⟩ _ _ (hmeet _) with
          ⟨u, r, r', hr, hr', hQ⟩ | ⟨e, r, r', hr, hr', hE⟩
        · exact Or.inl ⟨r, r', hr, hr', hkeep r r' hQ⟩
        · exact Or.inr ⟨e, r, r', hr, hr', hkeep r r' hE⟩
  unfold run
  rcases hsteps with ⟨r, r', hr, hr', hconcludes⟩ | ⟨e, r, r', hr, hr', hconcludes⟩
  · rw [hr, hr']
    exact ⟨rfl, hconcludes⟩
  · rw [hr, hr']
    exact ⟨rfl, hconcludes⟩

end BlockRun

end ChainConformance
