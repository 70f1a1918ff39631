import ChainConformance.Proofs.BlockImport
import ChainConformance.Proofs.HexCodec
import ChainConformance.Proofs.RunPhases

/-!
# The check of the head

A fixture states the hash of the last block of its chain and not the number. The number is that of
the genesis block, of a stated header with this hash, or else it is made from the count of the
blocks that should be accepted. The check of the head compares both. Where the fixture has the
number from a block of its own the check is decided by the hash alone. Where the number is made
from the count it need not be the right one: blocks that should be accepted may stand side by side
on one parent, or after a block that ends the chain, and then a chain with the right hash fails.
-/

namespace ChainConformance

/-- The head that the target reports of a block that it accepts is that of the block. -/
def BlockTarget.NamesBlocks {σ : Type} (target : BlockTarget σ) : Prop :=
  ∀ block raw limit s head stateRoot,
    (target.apply block raw limit s).answer = some (.ok (.accepted head stateRoot)) →
      head = block.head

/-- The header that is stated for the block has the number and the hash of the block, unless it
has no hash. -/
def FixtureBlock.StatesTruly (b : FixtureBlock) : Prop :=
  ∀ h hash, b.header = some h → h.statedHash = some hash →
    ∃ block raw, BlockRun.decoded b = .ok (block, raw) ∧ hash = block.hash ∧
      h.number = block.header.number

namespace Fixture

variable {f : Fixture} {head : ChainHead}

/-- A chain may end with a block of the fixture: with its genesis block, or with one of those that
it offers. -/
def MayEnd (f : Fixture) (head : ChainHead) : Prop :=
  head = f.genesisHead ∨
    ∃ b ∈ f.blocks, ∃ block raw, BlockRun.decoded b = .ok (block, raw) ∧ head = block.head

/-- No two blocks of the fixture have one hash and different numbers. -/
def OneNumber (f : Fixture) : Prop :=
  ∀ a b, f.MayEnd a → f.MayEnd b → a.hash = b.hash → a = b

/-- The fixture does not say which number the last block has: it is not the genesis block, and no
header with its hash is stated. -/
def Guesses (f : Fixture) : Prop :=
  f.lastBlockHash ≠ f.genesisHash ∧
    ∀ b ∈ f.blocks, ∀ h, b.header = some h → h.statedHash ≠ some f.lastBlockHash

def countedNumber (f : Fixture) : UInt64 :=
  f.genesis.number64 + UInt64.ofNat (f.blocks.countP (·.isValid))

/-- The chain ends with another block than it should, or its number is not the one that is made
from the count where the fixture has no other. -/
def Misses (f : Fixture) (head : ChainHead) : Prop :=
  head.hash ≠ f.lastBlockHash ∨ f.Guesses ∧ head.number ≠ f.countedNumber

def lastHeader? (f : Fixture) : Option Header :=
  (f.blocks.filterMap (·.header)).find? fun h => h.statedHash = some f.lastBlockHash

lemma expectedHead_eq (direct : f.payloads = []) (h : f.lastBlockHash ≠ f.genesisHash) :
    f.expectedHead =
      ⟨f.lastBlockHash, (f.lastHeader?.map Header.number64).getD f.countedNumber⟩ := by
  rw [expectedHead, if_neg h, lastNumber, validCount, isEngine, direct]
  rfl

lemma guesses_iff : f.Guesses ↔ f.lastBlockHash ≠ f.genesisHash ∧ f.lastHeader? = none := by
  refine and_congr_right fun _ => ?_
  rw [lastHeader?, List.find?_eq_none]
  simp only [List.mem_filterMap, decide_eq_true_eq]
  constructor
  · rintro h x ⟨b, hb, hx⟩
    exact h b hb x hx
  · exact fun h b hb x hx => h x ⟨b, hb, hx⟩

lemma expectedHead_of_guesses (direct : f.payloads = []) (h : f.Guesses) :
    f.expectedHead = ⟨f.lastBlockHash, f.countedNumber⟩ := by
  obtain ⟨hlast, hnone⟩ := guesses_iff.mp h
  rw [expectedHead_eq direct hlast, hnone]
  rfl

lemma mayEnd_expectedHead (direct : f.payloads = []) (stated : ∀ b ∈ f.blocks, b.StatesTruly)
    (h : ¬f.Guesses) : f.MayEnd f.expectedHead ∧ f.expectedHead.hash = f.lastBlockHash := by
  by_cases hgenesis : f.lastBlockHash = f.genesisHash
  · rw [expectedHead, if_pos hgenesis]
    exact ⟨.inl rfl, hgenesis.symm⟩
  · obtain ⟨x, hx⟩ := Option.ne_none_iff_exists'.mp fun hnone =>
      h (guesses_iff.mpr ⟨hgenesis, hnone⟩)
    rw [expectedHead_eq direct hgenesis, hx]
    refine ⟨.inr ?_, rfl⟩
    rw [lastHeader?] at hx
    obtain ⟨b, hb, hheader⟩ := List.mem_filterMap.mp (List.mem_of_find?_eq_some hx)
    have hhash : x.statedHash = some f.lastBlockHash := by simpa using List.find?_some hx
    obtain ⟨block, raw, hdecoded, hblock, hnumber⟩ := stated b hb x _ hheader hhash
    refine ⟨b, hb, block, raw, hdecoded, ?_⟩
    rw [Option.map_some, Option.getD_some, Block.head, Block.number, Header.number64, hnumber,
      hblock]
    rfl

/-- A chain that may end with a block ends as expected if and only if the hash is right, and the
number as well where it is made from the count. -/
lemma ne_expectedHead_iff (direct : f.payloads = []) (stated : ∀ b ∈ f.blocks, b.StatesTruly)
    (one : f.OneNumber) (h : f.MayEnd head) : head ≠ f.expectedHead ↔ f.Misses head := by
  obtain ⟨hash, number⟩ := head
  by_cases hguesses : f.Guesses
  · rw [expectedHead_of_guesses direct hguesses, Misses, and_iff_right hguesses, ne_eq,
      ChainHead.mk.injEq, not_and_or]
  · obtain ⟨hmay, hhash⟩ := mayEnd_expectedHead direct stated hguesses
    rw [Misses, ← hhash, or_iff_left fun hguess => hguesses hguess.1]
    exact not_congr ⟨congrArg ChainHead.hash, one _ _ h hmay⟩

end Fixture

namespace BlockRun

variable {σ : Type} {terms : Terms} {f : Fixture} {pre : Alloc} {target : BlockTarget σ}
  {resumed : Option Genesis}

def OfBlock (e : Failure) : Prop := e.block ≠ none ∧ e.kind ≠ .headMismatch

lemma offer_error {r r' : BlockRun σ} {index : Nat} {b : FixtureBlock} {e : Failure}
    (h : (offer terms f target index b).run.run r = (.error e, r')) : OfBlock e := by
  unfold offer at h
  rcases hdecoded : decoded b with text | ⟨block, raw⟩
  · rw [hdecoded] at h
    cases h
  · rw [hdecoded] at h
    simp only [run_bind, run_call] at h
    generalize r.moment.guarded terms.cancelAt terms.callTimeout (target.apply block raw) =
      ended at h
    rcases ended with ⟨(e | outcome) | _ | _, m⟩ <;> cases h <;> simp [OfBlock]

lemma judgeRejection_error {index : Nat} {expected : Option ExceptionSet} {message : String}
    {c : Classification} {e : Failure}
    (h : terms.judgeRejection index expected message c = .error e) : OfBlock e := by
  cases expected with
  | none =>
    cases h
    simp [OfBlock]
  | some set =>
    by_cases hadmits : terms.policy.admits set c
    · simp [Terms.judgeRejection, hadmits] at h
    · simp only [Terms.judgeRejection, hadmits, Bool.false_eq_true, if_false] at h
      cases h
      by_cases hunmapped : c = .unmapped <;> simp [OfBlock, hunmapped]

lemma judgeOutcome_error {index : Nat} {expected : Option ExceptionSet} {fork : Fork}
    {outcome : BlockOutcome} {e : Failure}
    (h : judgeOutcome terms index expected fork outcome = .error e) : OfBlock e := by
  cases outcome with
  | accepted head stateRoot =>
    cases expected <;> cases h
    simp [OfBlock]
  | rejected message tag =>
    simp only [judgeOutcome] at h
    generalize hjudge : terms.judgeRejection index expected message _ = judged at h
    cases judged <;> cases h
    exact judgeRejection_error hjudge
  | undecodable text =>
    simp only [judgeOutcome] at h
    split at h <;> cases h
    simp [OfBlock]
  | timedOut =>
    cases h
    simp [OfBlock]

lemma extend_ends {bs : List FixtureBlock} {tips : List Tip} {m : Moment σ}
    (h : Grows terms target m bs tips) (index : Nat) (tip : Tip) {r : BlockRun σ}
    (hr : r.moment = m) :
    (∃ e r', (extend terms f target index bs tip).run.run r = (.error e, r') ∧ OfBlock e) ∨
      ∃ r', (extend terms f target index bs tip).run.run r = (.ok (tips.getLastD tip), r') := by
  induction h generalizing index tip r with
  | whole m => exact .inr ⟨r, rfl⟩
  | @stopped m b rest refused =>
    subst hr
    rw [run_extend_cons]
    cases isCancelled terms.cancelAt r.moment.now with
    | true => exact .inl ⟨_, _, rfl, nofun, nofun⟩
    | false =>
      simp only [Bool.false_eq_true, if_false]
      rcases hoffer : (offer terms f (fun _ => target) index b).run.run (entering r tip index) with
        ⟨e | ⟨outcome, fork⟩, r'⟩
      · exact .inl ⟨e, r', rfl, offer_error hoffer⟩
      · rcases hjudge : judgeOutcome terms index b.expected fork outcome with e | _ | next
        · exact .inl ⟨e, r', by simp only [hjudge], judgeOutcome_error hjudge⟩
        · exact .inr ⟨r', by simp only [hjudge]; rfl⟩
        · obtain ⟨hexpected, rfl⟩ := judgeOutcome_eq_some hjudge
          have haccepted := offer_accepted (r := entering r tip index) hoffer
          exact absurd ⟨hexpected, haccepted⟩ (refused next r'.moment)
  | taken first _ ih =>
    subst hr
    rw [extend_takes first, List.getLastD_cons]
    exact ih (index + 1) _ rfl

lemma checkState_error {expected : Alloc} {r r' : BlockRun σ} {e : Failure}
    (h : (checkState terms target expected).run.run r = (.error e, r')) :
    e.kind ≠ .headMismatch := by
  unfold checkState at h
  simp only [run_bind, run_call] at h
  generalize r.moment.guarded terms.cancelAt terms.callTimeout (target.readState expected) =
    ended at h
  rcases ended with ⟨(fault | observed) | _ | _, m⟩
  · cases h
    exact nofun
  · have hjudge := (Prod.mk.inj h).1
    by_cases hempty : (Mismatch.ofStates expected observed) = []
    · rw [judgeState_eq_ok.mpr hempty] at hjudge
      cases hjudge
    · obtain ⟨failure, hfailure, hkind, -⟩ := judgeState_error hempty
      rw [hfailure] at hjudge
      cases hjudge
      rw [hkind]
      exact nofun
  · cases h
    exact nofun
  · cases h
    exact nofun

lemma checkPost_error {stateRoot : Hash} {r r' : BlockRun σ} {e : Failure}
    (h : (checkPost terms f pre target stateRoot).run.run r = (.error e, r')) :
    e.kind ≠ .headMismatch := by
  unfold checkPost at h
  rcases hpost : f.expectedPost? with _ | s | d | root <;> rw [hpost] at h
  · cases h
    exact nofun
  · exact checkState_error h
  · exact checkState_error h
  · have hjudge := (Prod.mk.inj h).1
    unfold judgeRoot at hjudge
    split at hjudge <;> cases hjudge
    exact nofun

lemma establish_error {r r' : BlockRun σ} {e : Failure}
    (h : (establish terms f pre target resumed).run.run r = (.error e, r')) :
    e.kind ≠ .headMismatch := by
  unfold establish at h
  simp only [run_bind, run_call] at h
  generalize r.moment.guarded terms.cancelAt terms.callTimeout (begin f pre target resumed) =
    ended at h
  rcases ended with ⟨(fault | g) | _ | _, m⟩
  · cases h
    exact nofun
  · by_cases hgenesis : g.stateRoot ≠ f.genesis.stateRoot ∨ g.hash ≠ f.genesisHash
    · obtain ⟨text, htext⟩ := judgeGenesis_error hgenesis
      simp only [htext, run_bind, run_lift] at h
      cases h
      exact nofun
    · obtain ⟨hroot, hhash⟩ := not_or.mp hgenesis
      simp only [run_bind, run_lift, judgeGenesis_ok (not_not.mp hroot) (not_not.mp hhash)] at h
      cases h
  · cases h
    exact nofun
  · cases h
    exact nofun

def FailsHead (v : Verdict) : Prop := v.failure?.map (·.kind) = some .headMismatch

/-- Whether a verdict is on the end of a chain and not on a block of it. -/
def SparesBlocks (v : Verdict) : Prop := v.failure?.bind (·.block) = none

variable (pre) in
lemma chain_of_extended {tip last : Tip} {r r' : BlockRun σ}
    (h : (extend terms f target 0 f.blocks tip).run.run r = (.ok last, r')) :
    let verdict := Verdict.ofRun ((chain terms f pre target tip).run.run r).1
    (FailsHead verdict ↔ last.head ≠ f.expectedHead) ∧
      (FailsHead verdict → SparesBlocks verdict) := by
  intro verdict
  have hverdict : verdict = .ofRun ((do
      judgeHead f.expectedHead last.head
      checkPost terms f pre target last.stateRoot : BlockStep σ Unit).run.run r').1 :=
    congrArg (fun ended => Verdict.ofRun ended.1) (run_bind_ok h _)
  by_cases hhead : last.head = f.expectedHead
  · have hjudge : (liftM (judgeHead f.expectedHead last.head) : BlockStep σ Unit).run.run r' =
        (.ok (), r') := Prod.ext (judgeHead_eq_ok.mpr hhead) rfl
    have hnot : ¬FailsHead verdict := by
      rw [hverdict, run_bind_ok hjudge]
      intro hfails
      rcases hpost : (checkPost terms f pre target last.stateRoot).run.run r' with
        ⟨e | _, r''⟩ <;> rw [hpost] at hfails
      · exact checkPost_error hpost (Option.some.inj hfails)
      · cases hfails
    exact ⟨iff_of_false hnot (not_not.mpr hhead), fun hfails => absurd hfails hnot⟩
  · obtain ⟨failure, hfailure, hkind, hblock⟩ := judgeHead_error hhead
    have hjudge : (liftM (judgeHead f.expectedHead last.head) : BlockStep σ Unit).run.run r' =
        (.error failure, r') := Prod.ext hfailure rfl
    have hfail : verdict = .fail failure := by
      rw [hverdict, run_bind_error hjudge]
      rfl
    rw [hfail]
    exact ⟨iff_of_true (congrArg some hkind) hhead, fun _ => hblock⟩

/-- A chain fails for its head if and only if all its blocks are judged to be good and its tip is
not at the expected head. -/
lemma chain_failsHead_iff {tips : List Tip} {r : BlockRun σ}
    (h : Grows terms target r.moment f.blocks tips) (tip : Tip) :
    let verdict := Verdict.ofRun ((chain terms f pre target tip).run.run r).1
    FailsHead verdict ↔ SparesBlocks verdict ∧ (tips.getLastD tip).head ≠ f.expectedHead := by
  intro verdict
  rcases extend_ends h 0 tip rfl with ⟨e, r', hextend, hblock, hkind⟩ | ⟨r', hextend⟩
  · have hfail : verdict = .fail e := by
      change Verdict.ofRun ((chain terms f pre target tip).run.run r).1 = _
      rw [chain, run_bind_error hextend]
      rfl
    rw [hfail]
    exact iff_of_false (fun hfails => hkind (Option.some.inj hfails)) fun h => hblock h.1
  · obtain ⟨hfails, hspares⟩ := chain_of_extended pre hextend
    exact ⟨fun h => ⟨hspares h, hfails.mp h⟩, fun h => hfails.mpr h.2⟩

lemma extend_whole {bs : List FixtureBlock} {tips : List Tip} {m : Moment σ}
    (h : Grows terms target m bs tips) (hlength : tips.length = bs.length) (index : Nat) (tip : Tip)
    {r : BlockRun σ} (hr : r.moment = m) :
    ∃ r', (extend terms f target index bs tip).run.run r = (.ok (tips.getLastD tip), r') := by
  induction h generalizing index tip r with
  | whole m => exact ⟨r, rfl⟩
  | stopped => cases hlength
  | taken first _ ih =>
    subst hr
    rw [extend_takes first, List.getLastD_cons]
    exact ih (Nat.succ.inj hlength) (index + 1) _ rfl

lemma Grows.mayEnd (named : target.NamesBlocks) {bs : List FixtureBlock} {tips : List Tip}
    {m : Moment σ} (h : Grows terms target m bs tips) (hbs : bs ⊆ f.blocks) :
    ∀ tip ∈ tips, f.MayEnd tip.head := by
  induction h with
  | whole | stopped => simp
  | taken first _ ih =>
    obtain ⟨hfirst, hrest⟩ := List.cons_subset.mp hbs
    refine List.forall_mem_cons.mpr ⟨?_, ih hrest⟩
    obtain ⟨-, block, raw, hdecoded, hanswer⟩ := first
    rcases Moment.guarded_made (target.apply block raw) terms.cancelAt terms.callTimeout _ with
      hcancelled | ⟨limit, -, hmade⟩
    · rw [hcancelled] at hanswer
      cases hanswer
    · have hanswered := hmade _ (congrArg Prod.fst hanswer)
      exact .inr ⟨_, hfirst, block, raw, hdecoded, named _ _ _ _ _ _ hanswered⟩

lemma run_verified {m m₁ : Moment σ} {g : Genesis}
    (h : Verifies terms f pre target resumed m g m₁) : (run terms f pre target resumed m).1 =
      .ofRun ((chain terms f pre target (genesisTip f g)).run.run (verified f m₁ g)).1 := by
  rcases run_cases terms f pre target resumed m with ⟨g', m', h', hrun⟩ | ⟨hnot, -⟩
  · obtain ⟨⟩ := h.answer.symm.trans h'.answer
    exact congrArg Prod.fst hrun
  · exact absurd h (hnot g m₁)

lemma not_failsHead_of_unverified {m : Moment σ}
    (h : ∀ g m₁, ¬Verifies terms f pre target resumed m g m₁) :
    ¬FailsHead (run terms f pre target resumed m).1 := by
  have hrun : run terms f pre target resumed m =
      concluded ((steps terms f pre target resumed).run.run (initial m)) := rfl
  rcases establish_cases terms f pre target resumed (initial m) with
    ⟨g, m₁, hverifies, -⟩ | ⟨-, e, m₁, hestablish, -⟩
  · exact absurd hverifies (h g m₁)
  · rw [hrun, steps_error hestablish]
    exact fun hfails => establish_error hestablish (Option.some.inj hfails)

/-- The target names the blocks that it accepts truly, the fixture those for which it states
headers, and no two blocks of the fixture have one hash. A run fails for the head of its chain if
and only if all its blocks are judged to be good, and either the last one that was taken over, or
the genesis block if there is none, does not have the last hash of the fixture, or the fixture makes
the number for this hash from the count of the blocks that should be accepted and it is not the
number of that block. A run without the genesis block of its fixture does not fail for the head. -/
theorem run_failsHead_iff (terms : Terms) (f : Fixture) (pre : Alloc) (target : BlockTarget σ)
    (resumed : Option Genesis) (m : Moment σ) (direct : f.payloads = [])
    (stated : ∀ b ∈ f.blocks, b.StatesTruly) (named : target.NamesBlocks) (one : f.OneNumber) :
    let verdict := (run terms f pre target resumed m).1
    (∀ g m₁, Verifies terms f pre target resumed m g m₁ →
      (∃ tips, Grows terms target m₁ f.blocks tips) ∧
      ∀ tips, Grows terms target m₁ f.blocks tips →
        (FailsHead verdict ↔
          SparesBlocks verdict ∧ f.Misses (tips.getLastD (genesisTip f g)).head)) ∧
    ((∀ g m₁, ¬Verifies terms f pre target resumed m g m₁) → ¬FailsHead verdict) := by
  refine ⟨fun g m₁ hverifies => ⟨?_, fun tips hgrows => ?_⟩, not_failsHead_of_unverified⟩
  · obtain ⟨tips, -, hgrows, -⟩ := chain_phases terms f pre target (genesisTip f g)
      (verified f m₁ g)
    exact ⟨tips, hgrows⟩
  · have hlast : f.MayEnd (tips.getLastD (genesisTip f g)).head := by
      have hmem : tips.getLastD (genesisTip f g) ∈ genesisTip f g :: tips := List.getLastD_mem_cons
      rcases List.mem_cons.mp hmem with hgenesis | htip
      · rw [hgenesis]
        exact .inl rfl
      · exact hgrows.mayEnd named (List.Subset.refl _) _ htip
    rw [run_verified hverifies, ← Fixture.ne_expectedHead_iff direct stated one hlast]
    exact chain_failsHead_iff (r := verified f m₁ g) hgrows _

/-! ### Blocks side by side -/

/-- A target that starts from the genesis block of a fixture and accepts every block. -/
def accepting (f : Fixture) : BlockTarget Unit where
  start _ _ _ := .instantly fun s => (.ok ⟨f.genesis.stateRoot, f.genesisHash⟩, s)
  apply block _ := .instantly fun s => (.ok (.accepted block.head .zero), s)
  readState _ := .never
  resetTo _ := .never

def offered (l : Block.Layout) (header : Option Header) : FixtureBlock :=
  ⟨Hex.encode l.encode, header, none, none, none⟩

/-- Two blocks on the genesis block, of which the second is the last. A header may be stated for
that. -/
def siblings (header : Option Header) : Fixture :=
  { garbled with
    genesis := default
    blocks := [offered (TransitionChain.thirsty 0) none, offered (TransitionChain.thirsty 1) header]
    lastBlockHash := (TransitionChain.thirsty 1).header.hash }

lemma decoded_offered {l : Block.Layout} (h : l.Canonical) (header : Option Header) :
    decoded (offered l header) = .ok (l.block, l.encode) :=
  decoded_encoded rfl (Block.decode_eq_ok.mpr ⟨l, h, rfl, rfl⟩)

lemma canonical_thirsty {gas : Nat} (h : gas = 0 ∨ gas = 1) :
    (TransitionChain.thirsty gas).Canonical := by
  rcases h with rfl | rfl <;> exact ⟨⟨rfl, by decide⟩, nofun, by decide +kernel⟩

lemma head_thirsty {gas : Nat} (h : gas = 0 ∨ gas = 1) :
    (TransitionChain.thirsty gas).block.number = 1 ∧
      (TransitionChain.thirsty gas).block.hash ≠ TransitionChain.firstHash := by
  refine ⟨rfl, ?_⟩
  change (TransitionChain.thirsty gas).header.hash ≠ _
  rcases h with rfl | rfl
  · change TransitionChain.secondHeader.hash ≠ _
    rw [TransitionChain.hash_second]
    decide
  · rw [ne_eq, FixedBytes.ext_iff, Header.hash, Keccak.keccak256_bytes]
    decide +kernel

lemma oneNumber_siblings (header : Option Header) : (siblings header).OneNumber := by
  have hgenesis : (siblings header).genesisHead = ⟨TransitionChain.firstHash, 0⟩ := by
    rw [Fixture.genesisHead, Fixture.genesisHash]
    exact congrArg (ChainHead.mk · 0) TransitionChain.hash_first
  have hends : ∀ a, (siblings header).MayEnd a → a = ⟨TransitionChain.firstHash, 0⟩ ∨
      a.number = 1 ∧ a.hash ≠ TransitionChain.firstHash := by
    rintro a (rfl | ⟨b, hb, block, raw, hdecoded, rfl⟩)
    · exact .inl hgenesis
    · have hblock : ∀ gas stated, gas = 0 ∨ gas = 1 →
          decoded (offered (TransitionChain.thirsty gas) stated) = .ok (block, raw) →
          block.head.number = 1 ∧ block.head.hash ≠ TransitionChain.firstHash := by
        intro gas stated hgas h
        rw [decoded_offered (canonical_thirsty hgas)] at h
        cases h
        exact head_thirsty hgas
      rcases List.mem_pair.mp hb with rfl | rfl
      · exact .inr (hblock 0 none (.inl rfl) hdecoded)
      · exact .inr (hblock 1 header (.inr rfl) hdecoded)
  intro a b ha hb heq
  rcases hends a ha with rfl | ⟨hnumber, hne⟩ <;> rcases hends b hb with rfl | ⟨hnumber', hne'⟩
  · rfl
  · exact absurd heq.symm hne'
  · exact absurd heq hne
  · obtain ⟨hash, number⟩ := a
    obtain ⟨hash', number'⟩ := b
    cases hnumber
    cases hnumber'
    cases heq
    rfl

lemma namesBlocks_accepting (f : Fixture) : (accepting f).NamesBlocks := by
  intro block raw limit s head stateRoot h
  cases h
  rfl

def tipOf (l : Block.Layout) : Tip := ⟨l.block.head, .zero⟩

lemma verifies_siblings (terms : Terms) (hc : terms.cancelAt = none) (header : Option Header) :
    Verifies terms (siblings header) .empty (accepting (siblings header)) none ⟨0, ()⟩
      ⟨(siblings header).genesis.stateRoot, (siblings header).genesisHash⟩ ⟨0, ()⟩ := by
  refine ⟨?_, rfl, rfl⟩
  rw [hc]
  rfl

lemma grows_siblings (terms : Terms) (hc : terms.cancelAt = none) (header : Option Header) :
    Grows terms (accepting (siblings header)) ⟨0, ()⟩ (siblings header).blocks
      [tipOf (TransitionChain.thirsty 0), tipOf (TransitionChain.thirsty 1)] := by
  have htakes : ∀ gas stated, gas = 0 ∨ gas = 1 → Takes terms (accepting (siblings header)) ⟨0, ()⟩
      (offered (TransitionChain.thirsty gas) stated) (tipOf (TransitionChain.thirsty gas))
      ⟨0, ()⟩ := by
    intro gas stated h
    refine ⟨rfl, _, _, decoded_offered (canonical_thirsty h) stated, ?_⟩
    rw [hc]
    rfl
  exact .taken (htakes 0 none (.inl rfl)) (.taken (htakes 1 header (.inr rfl)) (.whole _))

theorem run_failsHead_iff_siblings :
    let terms : Terms := { mapper := .empty, client := "client" }
    let header := { (TransitionChain.thirsty 1).header with
      statedHash := some (TransitionChain.thirsty 1).header.hash }
    let f := siblings (some header)
    f.payloads = [] ∧ (∀ b ∈ f.blocks, b.StatesTruly) ∧ (accepting f).NamesBlocks ∧ f.OneNumber ∧
    (∃ g m₁ tips, Verifies terms f .empty (accepting f) none ⟨0, ()⟩ g m₁ ∧
      Grows terms (accepting f) m₁ f.blocks tips ∧
      (tips.getLastD (genesisTip f g)).head.hash = f.lastBlockHash ∧
      (tips.getLastD (genesisTip f g)).head.number ≠ f.countedNumber) ∧
    ¬FailsHead (run terms f .empty (accepting f) none ⟨0, ()⟩).1 := by
  intro terms header f
  have stated : ∀ b ∈ f.blocks, b.StatesTruly := by
    intro b hb x hash hx hhash
    rcases List.mem_pair.mp hb with rfl | rfl
    · cases hx
    · cases hx
      cases hhash
      exact ⟨_, _, decoded_offered (canonical_thirsty (.inr rfl)) _, rfl, rfl⟩
  have hverifies := verifies_siblings terms rfl (some header)
  have hgrows := grows_siblings terms rfl (some header)
  refine ⟨rfl, stated, namesBlocks_accepting f, oneNumber_siblings _,
    ⟨_, _, _, hverifies, hgrows, rfl, by decide⟩, ?_⟩
  obtain ⟨hverified, -⟩ := run_failsHead_iff terms f .empty (accepting f) none ⟨0, ()⟩ rfl stated
    (namesBlocks_accepting f) (oneNumber_siblings _)
  rw [((hverified _ _ hverifies).2 _ hgrows)]
  rintro ⟨-, hhash | ⟨⟨-, hunstated⟩, -⟩⟩
  · exact hhash rfl
  · exact hunstated _ (List.mem_cons_of_mem _ List.mem_cons_self) header rfl rfl

/-- No header is stated, and the chain fails although it ends with the right block. -/
theorem run_failsHead_unstated :
    let terms : Terms := { mapper := .empty, client := "client" }
    let f := siblings none
    f.payloads = [] ∧ (∀ b ∈ f.blocks, b.StatesTruly) ∧ (accepting f).NamesBlocks ∧ f.OneNumber ∧
    (∃ g m₁ tips, Verifies terms f .empty (accepting f) none ⟨0, ()⟩ g m₁ ∧
      Grows terms (accepting f) m₁ f.blocks tips ∧
      (tips.getLastD (genesisTip f g)).head.hash = f.lastBlockHash) ∧
    FailsHead (run terms f .empty (accepting f) none ⟨0, ()⟩).1 := by
  intro terms f
  have stated : ∀ b ∈ f.blocks, b.StatesTruly := by
    intro b hb x hash hx
    rcases List.mem_pair.mp hb with rfl | rfl <;> cases hx
  have hverifies := verifies_siblings terms rfl none
  have hgrows := grows_siblings terms rfl none
  refine ⟨rfl, stated, namesBlocks_accepting f, oneNumber_siblings _,
    ⟨_, _, _, hverifies, hgrows, rfl⟩, ?_⟩
  obtain ⟨r', hextend⟩ := extend_whole (f := f) hgrows rfl 0 (genesisTip f _)
    (r := verified f ⟨0, ()⟩ _) rfl
  rw [run_verified hverifies]
  refine (chain_of_extended .empty hextend).1.mpr fun heq => ?_
  have hnumber : f.expectedHead.number = 1 := congrArg ChainHead.number heq.symm
  by_cases hlast : f.lastBlockHash = f.genesisHash
  · rw [Fixture.expectedHead, if_pos hlast] at hnumber
    cases hnumber
  · rw [Fixture.expectedHead_eq rfl hlast] at hnumber
    cases hnumber

end BlockRun

end ChainConformance
