import ChainConformance.Proofs.WatchedRuns

/-!
# Steps of runs over blocks

What the steps of a run over blocks do under whatever terms it is made: how it comes by its
genesis block, and what the calls after that leave as it is.
-/

namespace ChainConformance

namespace BlockRun

variable {σ α β : Type} (terms : Terms) (f : Fixture) (pre : Alloc) (target : BlockTarget σ)
  (resumed : Option Genesis)

/-- The target reports a genesis block in time, with the root and the hash that the fixture has
for it. -/
structure Verifies (m : Moment σ) (g : Genesis) (m' : Moment σ) : Prop where
  answer : m.guarded terms.cancelAt terms.callTimeout (begin f pre target resumed) =
    (.done (.ok g), m')
  stateRoot_eq : g.stateRoot = f.genesis.stateRoot
  hash_eq : g.hash = f.genesisHash

def genesisTip (g : Genesis) : Tip := ⟨f.genesisHead, g.stateRoot⟩

lemma run_call (c : Nat → Call σ α) (r : BlockRun σ) : (guarded terms c).run.run r =
    (.ok (r.moment.guarded terms.cancelAt terms.callTimeout (c r.moment.now)).1,
      { r with
        moment := (r.moment.guarded terms.cancelAt terms.callTimeout (c r.moment.now)).2 }) :=
  rfl

lemma establish_cases (r : BlockRun σ) :
    (∃ g m, Verifies terms f pre target resumed r.moment g m ∧
      (establish terms f pre target resumed).run.run r =
        (.ok (genesisTip f g), ⟨m, r.phases, some g⟩)) ∨
    (∀ g m, ¬Verifies terms f pre target resumed r.moment g m) ∧
      ∃ e m, (establish terms f pre target resumed).run.run r =
        (.error e, { r with moment := m }) ∧
        m = (r.moment.guarded terms.cancelAt terms.callTimeout
          (begin f pre target resumed)).2 := by
  unfold establish
  rw [run_bind, run_call]
  generalize hguarded : r.moment.guarded terms.cancelAt terms.callTimeout
    (begin f pre target resumed) = ended
  have hnot : (∀ g, ended.1 ≠ .done (.ok g)) →
      ∀ g m, ¬Verifies terms f pre target resumed r.moment g m := by
    intro h g m hverifies
    rw [← hguarded, hverifies.answer] at h
    exact h g rfl
  rcases ended with ⟨(e | g) | _ | _, m⟩
  · exact .inr ⟨hnot nofun, _, _, rfl, rfl⟩
  · by_cases hgenesis : g.stateRoot ≠ f.genesis.stateRoot ∨ g.hash ≠ f.genesisHash
    · obtain ⟨text, htext⟩ := judgeGenesis_error hgenesis
      refine .inr ⟨fun g' m' hverifies => ?_, setupFailure text, m, ?_, rfl⟩
      · obtain ⟨hanswer, hroot, hhash⟩ := hverifies
        cases hguarded.symm.trans hanswer
        exact hgenesis.elim (absurd hroot) (absurd hhash)
      · simp only [run_bind, run_lift, htext]
    · obtain ⟨hroot, hhash⟩ := not_or.mp hgenesis
      refine .inl ⟨g, m, ⟨hguarded, not_not.mp hroot, not_not.mp hhash⟩, ?_⟩
      simp only [run_bind, run_lift, judgeGenesis_ok (not_not.mp hroot) (not_not.mp hhash)]
      rfl
  · exact .inr ⟨hnot nofun, _, _, rfl, rfl⟩
  · exact .inr ⟨hnot nofun, _, _, rfl, rfl⟩

def chain (tip : Tip) : BlockStep σ Unit := do
  let last ← extend terms f target 0 f.blocks tip
  judgeHead f.expectedHead last.head
  checkPost terms f pre target last.stateRoot

def verified (m : Moment σ) (g : Genesis) : BlockRun σ :=
  ⟨m, [.genesisVerified (genesisTip f g), .uninitialized], some g⟩

def concluded (ended : Except Failure Unit × BlockRun σ) : Verdict × BlockRun σ :=
  (Verdict.ofRun ended.1,
    { ended.2 with phases := .finished (Verdict.ofRun ended.1) :: ended.2.phases })

/-- A run goes on to its chain from a genesis block that is that of its fixture, or it is over
after one call. -/
lemma run_cases (m : Moment σ) :
    (∃ g m₁, Verifies terms f pre target resumed m g m₁ ∧
      run terms f pre target resumed m =
        concluded ((chain terms f pre target (genesisTip f g)).run.run (verified f m₁ g))) ∨
    (∀ g m₁, ¬Verifies terms f pre target resumed m g m₁) ∧
      ∃ e, run terms f pre target resumed m = concluded (.error e, { initial m with
        moment := (m.guarded terms.cancelAt terms.callTimeout
          (begin f pre target resumed)).2 }) := by
  have hrun : run terms f pre target resumed m =
      concluded ((steps terms f pre target resumed).run.run (initial m)) := rfl
  rw [hrun]
  rcases establish_cases terms f pre target resumed (initial m) with
    ⟨g, m₁, hverifies, hestablish⟩ | ⟨hnot, e, m₁, hestablish, rfl⟩
  · refine .inl ⟨g, m₁, hverifies, ?_⟩
    unfold steps
    rw [run_bind_ok hestablish]
    rfl
  · exact .inr ⟨hnot, e, congrArg concluded (steps_error hestablish)⟩

variable {terms f pre target resumed}

/-- The step changes nothing of a run but its moment, and keeps what holds of the state of the
target. -/
def Moves (I : σ → Prop) (x : BlockStep σ α) : Prop :=
  ∀ r, I r.moment.state → ∃ m, I m.state ∧ (x.run.run r).2 = { r with moment := m }

variable {I : σ → Prop}

lemma moves_of_still {x : BlockStep σ α} (h : ∀ r, (x.run.run r).2 = r) : Moves I x :=
  fun r hr => ⟨r.moment, hr, h r⟩

lemma moves_guarded {c : Nat → Call σ α} (h : ∀ now, (c now).Keeps I) :
    Moves I (guarded terms c) :=
  fun r hr => ⟨_, Moment.guarded_keeps (h r.moment.now) _ hr, rfl⟩

lemma Moves.bind {x : BlockStep σ α} {next : α → BlockStep σ β} (h : Moves I x)
    (hnext : ∀ a, Moves I (next a)) : Moves I (x >>= next) := by
  intro r hr
  obtain ⟨m, hm, hmoved⟩ := h r hr
  rw [run_bind]
  rcases hx : x.run.run r with ⟨e | a, r'⟩
  · rw [hx] at hmoved
    exact ⟨m, hm, hmoved⟩
  · rw [hx] at hmoved
    obtain rfl : r' = { r with moment := m } := hmoved
    exact hnext a { r with moment := m } hm

variable (terms f) in
lemma moves_offer {b : FixtureBlock}
    (h : ∀ block raw, decoded b = .ok (block, raw) → (target.apply block raw).Keeps I)
    (index : Nat) : Moves I (offer terms f target index b) := by
  unfold offer
  rcases hdecoded : decoded b with text | ⟨block, raw⟩
  · exact moves_of_still fun _ => rfl
  · refine (moves_guarded fun _ => h block raw hdecoded).bind fun answer =>
      moves_of_still fun r => ?_
    rcases answer with (e | outcome) | _ | _ <;> rfl

lemma moves_checkPost (h : ∀ hint, (target.readState hint).Keeps I) (stateRoot : Hash) :
    Moves I (checkPost terms f pre target stateRoot) := by
  have hstate : ∀ s, Moves I (checkState terms target s) := by
    intro s
    refine (moves_guarded fun _ => h s).bind fun answer => moves_of_still fun r => ?_
    rcases answer with (e | observed) | _ | _ <;> rfl
  unfold checkPost
  rcases f.expectedPost? with _ | s | d | root
  · exact moves_of_still fun _ => rfl
  · exact hstate s
  · exact hstate (d.apply pre)
  · exact moves_of_still fun _ => rfl

lemma run_extend_cons {target : Nat → BlockTarget σ} (r : BlockRun σ) (b : FixtureBlock)
    (index : Nat) (tip : Tip) (rest : List FixtureBlock) :
    (extend terms f target index (b :: rest) tip).run.run r =
      if isCancelled terms.cancelAt r.moment.now then
        (.error { kind := .cancelled, block := some index }, entering r tip index)
      else match (offer terms f target index b).run.run (entering r tip index) with
      | (.ok (outcome, fork), r') =>
        match judgeOutcome terms index b.expected fork outcome with
        | .ok (some next) => (extend terms f target (index + 1) rest next).run.run r'
        | .ok none => (.ok tip, r')
        | .error e => (.error e, r')
      | (.error e, r') => (.error e, r') := by
  have henter : (enter (.extending tip index)).run.run r = (.ok (), entering r tip index) := rfl
  have hmoment : (entering r tip index).moment = r.moment := rfl
  rw [extend_cons_eq, run_bind_ok henter, run_bind, run_failIf, hmoment]
  cases isCancelled terms.cancelAt r.moment.now with
  | true => rfl
  | false =>
    simp only [Bool.false_eq_true, if_false]
    rw [run_bind]
    rcases (offer terms f target index b).run.run (entering r tip index) with
      ⟨e | ⟨outcome, fork⟩, r'⟩
    · rfl
    · simp only [run_bind, run_lift]
      rcases judgeOutcome terms index b.expected fork outcome with e | _ | next <;> rfl

variable (terms f) in
lemma extend_keeps {bs : List FixtureBlock}
    (h : ∀ b ∈ bs, ∀ block raw, decoded b = .ok (block, raw) →
      (target.apply block raw).Keeps I) (index : Nat) (tip : Tip) {r : BlockRun σ}
    (hr : I r.moment.state) :
    ∃ m ps, I m.state ∧
      ((extend terms f target index bs tip).run.run r).2 = ⟨m, ps, r.genesis⟩ := by
  induction bs generalizing index tip r with
  | nil => exact ⟨r.moment, r.phases, hr, rfl⟩
  | cons b rest ih =>
    obtain ⟨hfirst, hrest⟩ := List.forall_mem_cons.mp h
    rw [run_extend_cons]
    cases isCancelled terms.cancelAt r.moment.now with
    | true => exact ⟨_, _, hr, rfl⟩
    | false =>
      simp only [Bool.false_eq_true, if_false]
      obtain ⟨m, hm, hmoved⟩ := moves_offer terms f hfirst index (entering r tip index) hr
      rcases hoffer : (offer terms f (fun _ => target) index b).run.run (entering r tip index) with
        ⟨e | ⟨outcome, fork⟩, r'⟩ <;> rw [hoffer] at hmoved
      · exact ⟨m, _, hm, hmoved⟩
      · obtain rfl : r' = { entering r tip index with moment := m } := hmoved
        rcases hjudge : judgeOutcome terms index b.expected fork outcome with e | _ | next
        · simp only [hjudge]
          exact ⟨m, _, hm, rfl⟩
        · simp only [hjudge]
          exact ⟨m, _, hm, rfl⟩
        · simp only [hjudge]
          exact ih hrest (index + 1) next hm

variable (terms f pre) in
lemma moves_judge (h : ∀ hint, (target.readState hint).Keeps I) (last : Tip) :
    Moves I (do
      judgeHead f.expectedHead last.head
      checkPost terms f pre target last.stateRoot) :=
  (moves_of_still fun _ => rfl).bind fun _ => moves_checkPost h last.stateRoot

variable (terms f pre) in
/-- A run keeps its genesis block to its end, and the target what all calls of the run keep. -/
lemma chain_keeps (h : ∀ b ∈ f.blocks, ∀ block raw, decoded b = .ok (block, raw) →
      (target.apply block raw).Keeps I)
    (hread : ∀ hint, (target.readState hint).Keeps I) (tip : Tip) {r : BlockRun σ}
    (hr : I r.moment.state) :
    ∃ m ps, I m.state ∧
      ((chain terms f pre target tip).run.run r).2 = ⟨m, ps, r.genesis⟩ := by
  obtain ⟨m, ps, hm, hextended⟩ := extend_keeps terms f h 0 tip hr
  unfold chain
  rw [run_bind]
  rcases hextend : (extend terms f (fun _ => target) 0 f.blocks tip).run.run r with
    ⟨e | last, r'⟩ <;> rw [hextend] at hextended
  · exact ⟨m, ps, hm, hextended⟩
  · obtain rfl : r' = ⟨m, ps, r.genesis⟩ := hextended
    obtain ⟨m', hm', hmoved⟩ := moves_judge terms f pre hread last ⟨m, ps, r.genesis⟩ hm
    exact ⟨m', ps, hm', hmoved⟩

end BlockRun

end ChainConformance
