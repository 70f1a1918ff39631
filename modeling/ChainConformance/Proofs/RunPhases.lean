import ChainConformance.Proofs.BlockSimulation
import ChainConformance.Proofs.BlockSteps

/-!
# Phases of runs

Where a run over blocks stands is a matter of what the target has answered so far. A run whose
target reports the genesis block of the fixture goes on from block to block, and the tip that it
has is always that of the last block that was taken over. Whatever becomes of it, the last phase
is that it is finished.
-/

namespace ChainConformance.BlockRun

variable {σ : Type} (terms : Terms) (f : Fixture) (pre : Alloc) (target : BlockTarget σ)
  (resumed : Option Genesis)

/-- The block is expected to be valid, and the target accepts it before its deadline and before
the run is cancelled. -/
structure Takes (m : Moment σ) (b : FixtureBlock) (tip : Tip) (m' : Moment σ) : Prop where
  unexpected : b.expected = none
  accepted : ∃ block raw, decoded b = .ok (block, raw) ∧
    m.guarded terms.cancelAt terms.callTimeout (target.apply block raw) =
      (.done (.ok (.accepted tip.head tip.stateRoot)), m')

/-- The blocks are taken over one after another, each with a tip, up to the first one that is
not. -/
inductive Grows : Moment σ → List FixtureBlock → List Tip → Prop
  | whole (m : Moment σ) : Grows m [] []
  | stopped {m : Moment σ} {b : FixtureBlock} {rest : List FixtureBlock}
      (refused : ∀ tip m', ¬Takes terms target m b tip m') : Grows m (b :: rest) []
  | taken {m m' : Moment σ} {b : FixtureBlock} {rest : List FixtureBlock} {tip : Tip}
      {tips : List Tip} (first : Takes terms target m b tip m') (others : Grows m' rest tips) :
      Grows m (b :: rest) (tip :: tips)

/-- The phases of a chain that has `blocks` blocks, of which the first are taken over with the
given tips: one phase for each of those, and one for the block after them if there is one. -/
def extensions (genesis : Tip) (blocks : Nat) (tips : List Tip) : List Phase :=
  (List.range (min (tips.length + 1) blocks)).map fun i =>
    .extending ((tips.take i).getLastD genesis) i

variable {terms f pre target resumed}

lemma offer_accepted {r r' : BlockRun σ} {index : Nat} {b : FixtureBlock} {head : ChainHead}
    {stateRoot : Hash} {fork : Fork}
    (h : (offer terms f target index b).run.run r = (.ok (.accepted head stateRoot, fork), r')) :
    ∃ block raw, decoded b = .ok (block, raw) ∧
      r.moment.guarded terms.cancelAt terms.callTimeout (target.apply block raw) =
        (.done (.ok (.accepted head stateRoot)), r'.moment) := by
  unfold offer at h
  rcases hdecoded : decoded b with text | ⟨block, raw⟩
  · rw [hdecoded] at h
    cases h
  · rw [hdecoded] at h
    simp only [run_bind, run_call] at h
    refine ⟨block, raw, rfl, ?_⟩
    generalize r.moment.guarded terms.cancelAt terms.callTimeout (target.apply block raw) =
      ended at h ⊢
    rcases ended with ⟨(e | outcome) | _ | _, m⟩ <;> cases h
    rfl

lemma judgeOutcome_eq_some {index : Nat} {expected : Option ExceptionSet} {fork : Fork}
    {outcome : BlockOutcome} {next : Tip}
    (h : judgeOutcome terms index expected fork outcome = .ok (some next)) :
    expected = none ∧ outcome = .accepted next.head next.stateRoot := by
  obtain ⟨head, stateRoot, rfl⟩ := judgeOutcome_some h
  cases expected with
  | none =>
    cases h
    exact ⟨rfl, rfl⟩
  | some set => cases h

lemma extend_takes {r : BlockRun σ} {b : FixtureBlock} {next : Tip} {m : Moment σ}
    (h : Takes terms target r.moment b next m) (index : Nat) (tip : Tip)
    (rest : List FixtureBlock) :
    (extend terms f target index (b :: rest) tip).run.run r =
      (extend terms f target (index + 1) rest next).run.run
        { entering r tip index with moment := m } := by
  obtain ⟨hexpected, block, raw, hdecoded, hanswer⟩ := h
  have hoffer : (offer terms f target index b).run.run (entering r tip index) =
      (.ok (.accepted next.head next.stateRoot, forkOf f block),
        { entering r tip index with moment := m }) := by
    have hmoment : (entering r tip index).moment = r.moment := rfl
    unfold offer
    simp only [hdecoded, run_bind, run_call, hmoment, hanswer]
    rfl
  rw [run_extend_cons, Moment.timely_of_guarded hanswer]
  simp only [Bool.false_eq_true, if_false, hoffer, hexpected, judgeOutcome]

variable (f) in
lemma extend_stops {r : BlockRun σ} {b : FixtureBlock}
    (h : ∀ next m, ¬Takes terms target r.moment b next m) (index : Nat) (tip : Tip)
    (rest : List FixtureBlock) :
    ∃ m, ((extend terms f target index (b :: rest) tip).run.run r).2 =
      { entering r tip index with moment := m } := by
  rw [run_extend_cons]
  cases isCancelled terms.cancelAt r.moment.now with
  | true => exact ⟨r.moment, rfl⟩
  | false =>
    simp only [Bool.false_eq_true, if_false]
    have hmoves : Moves (fun _ => True) (offer terms f (fun _ => target) index b) :=
      moves_offer terms f (fun _ _ _ _ _ _ => trivial) index
    obtain ⟨m, -, hmoved⟩ := hmoves (entering r tip index) trivial
    rcases hoffer : (offer terms f (fun _ => target) index b).run.run (entering r tip index) with
      ⟨e | ⟨outcome, fork⟩, r'⟩ <;> rw [hoffer] at hmoved
    · exact ⟨m, hmoved⟩
    · rcases hjudge : judgeOutcome terms index b.expected fork outcome with e | _ | next
      · exact ⟨m, by simpa only [hjudge] using hmoved⟩
      · exact ⟨m, by simpa only [hjudge] using hmoved⟩
      · obtain ⟨hexpected, rfl⟩ := judgeOutcome_eq_some hjudge
        have haccepted := offer_accepted (r := entering r tip index) hoffer
        exact absurd ⟨hexpected, haccepted⟩ (h next r'.moment)

lemma extensions_cons (genesis tip : Tip) (blocks : Nat) (tips : List Tip) (index : Nat) :
    (List.range (min ((tip :: tips).length + 1) (blocks + 1))).map (fun i =>
        Phase.extending (((tip :: tips).take i).getLastD genesis) (index + i)) =
      .extending genesis index ::
        (List.range (min (tips.length + 1) blocks)).map fun i =>
          .extending ((tips.take i).getLastD tip) (index + 1 + i) := by
  rw [List.length_cons, Nat.add_min_add_right, List.range_succ_eq_map, List.map_cons,
    List.map_map]
  refine congrArg _ (List.map_congr_left fun i _ => ?_)
  simp only [Function.comp_apply, Nat.succ_eq_add_one, List.take_succ_cons, List.getLastD_cons]
  congr 1
  omega

variable (terms f target) in
/-- The phases of a chain are those of the blocks up to the first one that is not taken over,
and they say nothing of the genesis block. -/
lemma extend_phases (bs : List FixtureBlock) (index : Nat) (tip : Tip) (r : BlockRun σ) :
    ∃ tips m, Grows terms target r.moment bs tips ∧
      ((extend terms f target index bs tip).run.run r).2 = ⟨m,
        ((List.range (min (tips.length + 1) bs.length)).map fun i =>
          .extending ((tips.take i).getLastD tip) (index + i)).reverse ++ r.phases,
        r.genesis⟩ := by
  induction bs generalizing index tip r with
  | nil => exact ⟨[], r.moment, .whole _, rfl⟩
  | cons b rest ih =>
    by_cases htaken : ∃ next m, Takes terms target r.moment b next m
    · obtain ⟨next, m, hfirst⟩ := htaken
      obtain ⟨tips, m', hothers, hends⟩ :=
        ih (index + 1) next { entering r tip index with moment := m }
      refine ⟨next :: tips, m', .taken hfirst hothers, ?_⟩
      rw [extend_takes hfirst, hends, @List.length_cons _ b rest, extensions_cons,
        List.reverse_cons, List.append_assoc]
      rfl
    · have hrefused : ∀ next m, ¬Takes terms target r.moment b next m :=
        fun next m hfirst => htaken ⟨next, m, hfirst⟩
      obtain ⟨m, hends⟩ := extend_stops f hrefused index tip rest
      refine ⟨[], m, .stopped hrefused, hends.trans ?_⟩
      simp [entering]

variable (terms f pre target) in
lemma chain_phases (tip : Tip) (r : BlockRun σ) :
    ∃ tips m, Grows terms target r.moment f.blocks tips ∧
      ((chain terms f pre target tip).run.run r).2 =
        ⟨m, (extensions tip f.blocks.length tips).reverse ++ r.phases, r.genesis⟩ := by
  obtain ⟨tips, m, hgrows, hends⟩ := extend_phases terms f target f.blocks 0 tip r
  simp only [Nat.zero_add] at hends
  unfold chain
  rw [run_bind]
  rcases hextend : (extend terms f (fun _ => target) 0 f.blocks tip).run.run r with
    ⟨e | last, r'⟩ <;> rw [hextend] at hends
  · exact ⟨tips, m, hgrows, hends⟩
  · have hjudged : Moves (fun _ => True) (do
        judgeHead f.expectedHead last.head
        checkPost terms f pre (fun _ => target) last.stateRoot) :=
      moves_judge terms f pre (fun _ _ _ _ => trivial) last
    obtain ⟨m', -, hmoved⟩ := hjudged r' trivial
    obtain rfl : r' = _ := hends
    exact ⟨tips, m', hgrows, hmoved⟩

/-- A run stands at the genesis block of its fixture if and only if the target reports that block
in time, and remembers it just then. It goes on to the blocks, one after another from the first
one on, each with the tip of the last block that was taken over before it, and offers no block
after one that is not taken over. The last phase of every run is that it is finished, with the
verdict that it returns. -/
theorem run_phases (terms : Terms) (f : Fixture) (pre : Alloc) (target : BlockTarget σ)
    (resumed : Option Genesis) (m : Moment σ) :
    let ended := run terms f pre target resumed m
    (∃ g m₁ tips, Verifies terms f pre target resumed m g m₁ ∧
      Grows terms target m₁ f.blocks tips ∧
      ended.2.phases.reverse = [.uninitialized, .genesisVerified (genesisTip f g)] ++
        extensions (genesisTip f g) f.blocks.length tips ++ [.finished ended.1] ∧
      ended.2.genesis = some g) ∨
    (∀ g m₁, ¬Verifies terms f pre target resumed m g m₁) ∧
      ended.2.phases.reverse = [.uninitialized, .finished ended.1] ∧
      ended.2.genesis = none := by
  intro ended
  rcases run_cases terms f pre target resumed m with ⟨g, m₁, hverifies, hrun⟩ | ⟨hnot, e, hrun⟩
  · obtain ⟨tips, m₂, hgrows, hends⟩ := chain_phases terms f pre target (genesisTip f g)
      (verified f m₁ g)
    have hended : ended = _ := hrun
    rw [hended, concluded, hends]
    refine .inl ⟨g, m₁, tips, hverifies, hgrows, ?_, rfl⟩
    simp [verified]
  · have hended : ended = _ := hrun
    rw [hended]
    exact .inr ⟨hnot, rfl, rfl⟩

end ChainConformance.BlockRun
