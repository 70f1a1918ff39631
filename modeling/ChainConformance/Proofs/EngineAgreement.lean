import ChainConformance.Proofs.BlockVerdict
import ChainConformance.Proofs.HexCodec
import ChainConformance.Proofs.PayloadRounds
import ChainConformance.Proofs.PostStates
import ChainConformance.Proofs.TransactionFeed

/-!
# Agreement of the two kinds of runs

A chain can be given as blocks to one target and as payloads to another. If both report the
same of each step, and start and end alike, the two runs come to the same verdict: both judge
the chain as `Step.follow` does, which knows nothing of targets.
-/

namespace ChainConformance

/-- The call is answered in time, from a state, with an answer and a state of the given
kind. -/
def Call.Gives {σ α : Type} (timeout : Nat) (c : Call σ α) (s : σ) (P : α → σ → Prop) : Prop :=
  ∃ a, (c (some timeout) s).answer = some a ∧ P a (c (some timeout) s).state

namespace Call.Gives

variable {σ α β : Type} {timeout : Nat} {c : Call σ α} {P : α → σ → Prop}

lemma within {m : Moment σ} (h : c.Gives timeout m.state P) :
    ∃ a m', m.within timeout c = (.done a, m') ∧ P a m'.state := by
  obtain ⟨a, ha, hP⟩ := h
  exact ⟨a, _, Moment.within_answered ha, hP⟩

lemma map {s : σ} (h : c.Gives timeout s P) (f : α → β) :
    (c >>= fun a => pure (f a)).Gives timeout s fun b s => ∃ a, f a = b ∧ P a s := by
  obtain ⟨a, ha, hP⟩ := h
  refine ⟨f a, ?_, a, rfl, ?_⟩
  · rw [Call.bind_answered ha]
    rfl
  · rw [Call.bind_answered ha]
    exact hP

end Call.Gives

/-- What is reported of a step: the tip that it makes, or why it is rejected. -/
inductive StepOutcome where
  | accepted (tip : Tip)
  | rejected (message : String)

/-- A step of a chain: what is expected of it, its time, and what is reported. -/
structure Step where
  expected : Option ExceptionSet
  timestamp : UInt64
  outcome : StepOutcome

def StepOutcome.ofBlock : StepOutcome → BlockOutcome
  | accepted tip => .accepted tip.head tip.stateRoot
  | rejected message => .rejected message none

def Tip.summary (tip : Tip) : BlockSummary := ⟨tip.head.hash, tip.head.number, tip.stateRoot⟩

/-- Follows the steps of a chain, of which the first has the given index, from a tip to the last
one or to a failure. -/
def Step.follow (terms : Terms) (network : Fork) :
    Nat → List Step → Tip → Except Failure Tip
  | _, [], tip => .ok tip
  | index, step :: rest, tip => do
    match ← BlockRun.judgeOutcome terms index step.expected (network.atTime step.timestamp)
        step.outcome.ofBlock with
    | some next => follow terms network (index + 1) rest next
    | none => return tip

/-- A block is that of a step: it can be decoded, and has its expectation and time. -/
structure FixtureBlock.IsOf (b : FixtureBlock) (step : Step) : Prop where
  expected : b.expected = step.expected
  decodes : ∃ block raw, BlockRun.decoded b = .ok (block, raw) ∧
    block.header.timestamp.saturated = step.timestamp

/-- A payload is that of a step: it states a version that it may, and has its expectation and
time. -/
structure PayloadEntry.IsOf (network : Fork) (e : PayloadEntry) (step : Step) : Prop where
  expected : e.validationError = step.expected
  noError : e.errorCode = none
  versioned : e.checkVersion network = .ok ()
  timestamp : e.payload.timestamp = step.timestamp

/-- A fixture of blocks and one of payloads that have the same chain. -/
structure Fixture.Parallel (f f' : Fixture) (steps : List Step) : Prop where
  network : f'.network = f.network
  genesis : f'.genesis = f.genesis
  blocks : List.Forall₂ FixtureBlock.IsOf f.blocks steps
  payloads : List.Forall₂ (PayloadEntry.IsOf f'.network) f'.payloads steps
  head : f'.expectedHead = f.expectedHead
  post : f'.expectedPost? = f.expectedPost?

/-- The target reads back the given state, whatever is hinted at. -/
def BlockTarget.Shows {σ : Type} (target : BlockTarget σ) (timeout : Nat) (final : Alloc)
    (s : σ) : Prop :=
  ∀ hint, (target.readState hint).Gives timeout s fun answer _ =>
    ∃ observed, answer = .ok observed ∧ observed.Same final

/-- The target reports of each block, as long as they are accepted, what is reported of the
step, and then shows the given state. -/
def BlockTarget.Plays {σ : Type} (target : BlockTarget σ) (timeout : Nat) (final : Alloc) :
    List FixtureBlock → List Step → σ → Prop
  | b :: bs, step :: steps, s =>
    ∀ block raw, BlockRun.decoded b = .ok (block, raw) →
      (target.apply block raw).Gives timeout s fun answer s =>
        answer = .ok step.outcome.ofBlock ∧
          match step.outcome with
          | .accepted _ => target.Plays timeout final bs steps s
          | .rejected _ => target.Shows timeout final s
  | _, _, s => target.Shows timeout final s

namespace EngineTarget

variable {τ : Type} (client : EngineTarget τ) (truth : τ → Alloc) (timeout : Nat)

/-- As long as it is only asked for it, the latest block of the client is the given tip, and its
accounts are those of the given state and can be read in time. -/
structure Rests (tip : Tip) (final : Alloc) (here : τ → Prop) : Prop where
  latest : ∀ s, here s → (client.block .latest).Gives timeout s fun answer s =>
    answer = .ok (some tip.summary) ∧ here s
  truth_eq : ∀ s, here s → truth s = final
  reads : ∀ s hint, here s → (client.readState hint).Gives timeout s fun answer _ =>
    ∃ told, answer = .ok told

def Shows (tip : Tip) (final : Alloc) (s : τ) : Prop :=
  ∃ here : τ → Prop, here s ∧ client.Rests truth timeout tip final here

/-- An answer that the client finds something valid. -/
def AnswersValid (answer : FaultOr PayloadStatus) : Prop :=
  ∃ status, answer = .ok status ∧ status.verdict = .valid

/-- An answer that the client finds a payload invalid, with the given text. -/
def AnswersInvalid (message : String) (answer : FaultOr PayloadStatus) : Prop :=
  ∃ status, answer = .ok status ∧ status.verdict = .invalid ∧
    status.validationError = some message

/-- The client reports of each payload, as long as they are accepted and made the head, what is
reported of the step, and then shows the last tip and the given state. -/
def Plays (final : Alloc) : List PayloadEntry → List Step → Tip → τ → Prop
  | e :: es, step :: steps, tip, s =>
    (client.newPayload e.version e).Gives timeout s fun answer s =>
      match step.outcome with
      | .accepted next => AnswersValid answer ∧
          ∀ version, (client.chooseHead version { head := e.blockHash }).Gives timeout s
            fun answer s => AnswersValid answer ∧ Plays final es steps next s
      | .rejected message => AnswersInvalid message answer ∧
          client.Shows truth timeout tip final s
  | _, _, tip, s => client.Shows truth timeout tip final s

end EngineTarget

namespace BlockRun

variable {σ : Type} {terms : Terms} {f : Fixture} {target : BlockTarget σ} {final : Alloc}

lemma extend_plays (hc : terms.cancelAt = none) {bs : List FixtureBlock} {steps : List Step}
    (hbs : List.Forall₂ FixtureBlock.IsOf bs steps) (index : Nat) (tip : Tip) (r : BlockRun σ)
    (plays : target.Plays terms.callTimeout final bs steps r.moment.state) :
    ∃ r', (extend terms f target index bs tip).run.run r =
        (Step.follow terms f.network index steps tip, r') ∧
      ∀ last, Step.follow terms f.network index steps tip = .ok last →
        target.Shows terms.callTimeout final r'.moment.state := by
  induction hbs generalizing index tip r with
  | nil => exact ⟨r, rfl, fun _ _ => plays⟩
  | @cons b step bs steps first _ ih =>
    obtain ⟨block, raw, decodes, htime⟩ := first.decodes
    obtain ⟨answer, m, hanswer, rfl, others⟩ := (plays block raw decodes).within
    have hfork : forkOf f block = f.network.atTime step.timestamp := by
      rw [forkOf, htime]
    rw [extend_of_call hc decodes, hanswer, first.expected, hfork, Step.follow]
    cases houtcome : step.outcome with
    | accepted next =>
      rw [houtcome] at others
      cases step.expected with
      | none => exact ih (index + 1) next { entering r tip index with moment := m } others
      | some set => exact ⟨_, rfl, nofun⟩
    | rejected message =>
      rw [houtcome] at others
      simp only [StepOutcome.ofBlock, judgeOutcome_rejected]
      rcases terms.judgeRejection index step.expected message _ with e | _
      · exact ⟨_, rfl, nofun⟩
      · exact ⟨_, rfl, fun _ _ => others⟩

end BlockRun

namespace PayloadRun

variable {τ : Type} {terms : Terms} {f : Fixture} {client : EngineTarget τ}
  {truth : τ → Alloc} {final : Alloc}

/-- A payload that is decided by the first answer is offered once. -/
lemma run_submit_answered (hc : terms.cancelAt = none) (index : Nat) {e : PayloadEntry}
    (versioned : e.checkVersion f.network = .ok ()) {m m' : Moment τ} {status : PayloadStatus}
    (answer : m.within terms.callTimeout (client.newPayload e.version e) =
      (.done (.ok status), m')) (decided : ¬status.verdict.isPending) :
    (submit terms f client index e).run.run m =
      (judgeResponse terms f.network index e (.status status), m') :=
  submit_of_settles hc index ⟨versioned, [], m, .here m, .status answer decided⟩

lemma choose_answered (hc : terms.cancelAt = none) (index : Nat) {e : PayloadEntry}
    (noError : e.errorCode = none) (versioned : e.checkVersion f.network = .ok ())
    {m : Moment τ} {P : τ → Prop}
    (gives : ∀ version, (client.chooseHead version { head := e.blockHash }).Gives
      terms.callTimeout m.state fun answer s => EngineTarget.AnswersValid answer ∧ P s) :
    ∃ m', (choose terms f client index e).run.run m = (.ok (), m') ∧ P m'.state := by
  obtain ⟨version, hversion⟩ := Fixture.forkchoiceVersionFor_isSome versioned noError
  obtain ⟨answer, m', hanswer, ⟨choice, rfl, valid⟩, hP⟩ := (gives version).within
  exact ⟨m', (choose_eq_ok hc).mpr ⟨version, choice, hversion, hanswer, valid⟩, hP⟩

lemma run_submit_valid (hc : terms.cancelAt = none) (index : Nat) {e : PayloadEntry} {step : Step}
    (h : e.IsOf f.network step) {m m' : Moment τ} {status : PayloadStatus}
    (answer : m.within terms.callTimeout (client.newPayload e.version e) =
      (.done (.ok status), m')) (valid : status.verdict = .valid) (next : Tip) :
    (submit terms f client index e).run.run m =
      ((BlockRun.judgeOutcome terms index step.expected (f.network.atTime step.timestamp)
        (StepOutcome.accepted next).ofBlock).map fun _ => .accepted, m') := by
  rw [run_submit_answered hc index h.versioned answer (by rw [valid]; decide)]
  simp only [judgeResponse, h.noError, h.expected, valid]
  cases step.expected <;> rfl

lemma run_submit_invalid (hc : terms.cancelAt = none) (index : Nat) {e : PayloadEntry} {step : Step}
    (h : e.IsOf f.network step) {m m' : Moment τ} {status : PayloadStatus}
    (answer : m.within terms.callTimeout (client.newPayload e.version e) =
      (.done (.ok status), m')) (invalid : status.verdict = .invalid) {message : String}
    (text : status.validationError = some message) :
    (submit terms f client index e).run.run m =
      ((BlockRun.judgeOutcome terms index step.expected (f.network.atTime step.timestamp)
        (StepOutcome.rejected message).ofBlock).map fun _ => .refused, m') := by
  have hfork : e.fork f.network = f.network.atTime step.timestamp := by
    rw [PayloadEntry.fork, h.timestamp]
  have hinvalid : status.verdict.isInvalid = true :=
    PayloadVerdict.isInvalid_iff.mpr (Or.inl invalid)
  rw [run_submit_answered hc index h.versioned answer (by rw [invalid]; decide)]
  simp only [judgeResponse, h.noError, h.expected, hinvalid, if_true, text, Option.getD_some,
    hfork, StepOutcome.ofBlock, BlockRun.judgeOutcome_rejected, Terms.reading]
  cases terms.judgeRejection index step.expected message _ <;> rfl

lemma extend_plays (hc : terms.cancelAt = none) {es : List PayloadEntry} {steps : List Step}
    (hes : List.Forall₂ (PayloadEntry.IsOf f.network) es steps) (index : Nat) (tip : Tip)
    (m : Moment τ) (plays : client.Plays truth terms.callTimeout final es steps tip m.state) :
    ∃ m', (extend terms f client index es).run.run m =
        ((Step.follow terms f.network index steps tip).map fun _ => (), m') ∧
      ∀ last, Step.follow terms f.network index steps tip = .ok last →
        client.Shows truth terms.callTimeout last final m'.state := by
  -- The loop has no tip: it is carried along for what the client shows in the end.
  induction hes generalizing index tip m with
  | nil =>
    refine ⟨m, rfl, fun last hlast => ?_⟩
    cases hlast
    exact plays
  | @cons e step es steps first _ ih =>
    obtain ⟨answer, m₁, hanswer, others⟩ := plays.within
    rw [extend, Step.follow]
    cases houtcome : step.outcome with
    | accepted next =>
      rw [houtcome] at others
      obtain ⟨⟨status, rfl, valid⟩, chooses⟩ := others
      have hsubmit := run_submit_valid hc index first hanswer valid next
      cases hexpected : step.expected with
      | none =>
        rw [hexpected] at hsubmit
        obtain ⟨m₂, hchoose, others⟩ :=
          choose_answered hc index first.noError first.versioned chooses
        rw [run_bind_ok hsubmit]
        simp only
        rw [run_bind_ok hchoose]
        exact ih (index + 1) next m₂ others
      | some set =>
        rw [hexpected] at hsubmit
        rw [run_bind_error hsubmit]
        refine ⟨m₁, rfl, fun _ hlast => ?_⟩
        cases hlast
    | rejected message =>
      rw [houtcome] at others
      obtain ⟨⟨status, rfl, invalid, text⟩, hshows⟩ := others
      have hsubmit := run_submit_invalid hc index first hanswer invalid text
      simp only [StepOutcome.ofBlock, BlockRun.judgeOutcome_rejected] at hsubmit ⊢
      rcases hrejection : terms.judgeRejection index step.expected message _ with failure | _
      · rw [hrejection] at hsubmit
        rw [run_bind_error hsubmit]
        refine ⟨m₁, rfl, fun _ hlast => ?_⟩
        cases hlast
      · rw [hrejection] at hsubmit
        rw [run_bind_ok hsubmit]
        refine ⟨m₁, rfl, fun last hlast => ?_⟩
        cases hlast
        exact hshows

end PayloadRun

/-! ### Ends of chains -/

namespace Alloc

variable {asked whole told : Alloc}

lemma Tells.slot_eq_whole (h : Tells asked whole told)
    (hslot : ∀ address key, whole.slot address key ≠ 0 → asked.Names address key)
    {address : Address} {a : Account} (ha : told.get? address = some a) (key : Word) :
    a.slot key = whole.slot address key := by
  obtain ⟨hnamed, hunnamed⟩ := h.slot_eq ha key
  by_cases hname : asked.Names address key
  · exact hnamed hname
  · rw [hunnamed hname]
    by_contra hne
    exact hname (hslot address key (Ne.symm hne))

/-- What is told is the whole state, if all accounts of it are asked for and all slots that hold
something. -/
lemma Tells.same_whole (h : Tells asked whole told)
    (haddress : ∀ address, (whole.get? address).isSome → (asked.get? address).isSome)
    (hslot : ∀ address key, whole.slot address key ≠ 0 → asked.Names address key) :
    told.Same whole := by
  intro address
  have htold := h address
  have hasked := haddress address
  generalize hx : told.get? address = x at htold ⊢
  generalize hw : whole.get? address = w at htold hasked ⊢
  cases ha : asked.get? address with
  | none =>
    rw [ha] at htold hasked
    cases w with
    | none =>
      rw [show x = none from htold]
      exact .none
    | some w => exact absurd (hasked rfl) Bool.false_ne_true
  | some a =>
    rw [ha] at htold
    cases htold with
    | none => exact .none
    | some htells =>
      refine .some ⟨htells.balance, htells.code, htells.nonce, fun key => ?_⟩
      rw [h.slot_eq_whole hslot hx key, slot, hw, Option.map_some, Option.getD_some]

/-- A state has no account and no slot that holds something but those of two others. -/
structure Within (whole pre post : Alloc) : Prop where
  address : ∀ address, (whole.get? address).isSome →
    (pre.get? address).isSome ∨ (post.get? address).isSome
  slot : ∀ address key, whole.slot address key ≠ 0 →
    pre.Names address key ∨ post.Names address key

lemma Tells.same_of_within {pre post : Alloc} (h : Tells (pre.readingHint post) whole told)
    (within : whole.Within pre post) : told.Same whole := by
  refine h.same_whole (fun address haddress => ?_) fun address key hslot => ?_
  · rw [isSome_get?_readingHint]
    exact within.address address haddress
  · rw [readingHint_names_iff]
    exact within.slot address key hslot

end Alloc

lemma judgeState_congr (expected : Alloc) {observed final : Alloc} (h : observed.Same final) :
    judgeState expected observed = judgeState expected final :=
  judgeState_eq_iff.mpr (Mismatch.ofStates_congr (.refl expected) h)

def Fixture.judgePost (f : Fixture) (pre final : Alloc) (tip : Tip) : Except Failure Unit :=
  match f.expectedPost? with
  | none => .error {
      kind := .fixtureConstruction, message := some Malformation.noPostState.display }
  | some (.full s) => judgeState s final
  | some (.diff d) => judgeState (d.apply pre) final
  | some (.root r) => judgeRoot r tip.stateRoot

def Fixture.judgeChain (terms : Terms) (f : Fixture) (pre final : Alloc) (genesis : Genesis)
    (steps : List Step) : Except Failure Unit := do
  let tip ← Step.follow terms f.network 0 steps ⟨f.genesisHead, genesis.stateRoot⟩
  judgeHead f.expectedHead tip.head
  f.judgePost pre final tip

namespace BlockRun

variable {σ : Type} {terms : Terms} {f : Fixture} {pre final : Alloc} {target : BlockTarget σ}
  {resumed : Option Genesis} {genesis : Genesis} {steps : List Step}

lemma checkState_shows (hc : terms.cancelAt = none) (s : Alloc) {r : BlockRun σ}
    (shown : target.Shows terms.callTimeout final r.moment.state) :
    ((checkState terms target s).run.run r).1 = judgeState s final := by
  obtain ⟨answer, m, hanswer, observed, rfl, same⟩ := (shown s).within
  rw [run_checkState hc, hanswer]
  exact judgeState_congr s same

lemma checkPost_shows (f : Fixture) (pre : Alloc) (hc : terms.cancelAt = none) (tip : Tip)
    {r : BlockRun σ} (shown : target.Shows terms.callTimeout final r.moment.state) :
    ((checkPost terms f pre target tip.stateRoot).run.run r).1 = f.judgePost pre final tip := by
  unfold checkPost Fixture.judgePost
  rcases f.expectedPost? with _ | s | d | root
  · rfl
  · exact checkState_shows hc s shown
  · exact checkState_shows hc (d.apply pre) shown
  · rfl

/-- A run over blocks from the genesis of the fixture judges the chain. -/
lemma run_plays (hc : terms.cancelAt = none)
    (hbs : List.Forall₂ FixtureBlock.IsOf f.blocks steps) {m m₁ : Moment σ}
    (begins : Begins terms f pre target resumed m genesis m₁)
    (plays : target.Plays terms.callTimeout final f.blocks steps m₁.state) :
    (run terms f pre target resumed m).1 =
      .ofRun (f.judgeChain terms pre final genesis steps) := by
  obtain ⟨r, hrun, hshows⟩ := extend_plays (f := f) hc hbs 0
    ⟨f.genesisHead, genesis.stateRoot⟩
    ⟨m₁, [.genesisVerified ⟨f.genesisHead, genesis.stateRoot⟩, .uninitialized], some genesis⟩
    plays
  rw [run_eq, steps_begins hc begins, Fixture.judgeChain]
  rcases hfollow : Step.follow terms f.network 0 steps ⟨f.genesisHead, genesis.stateRoot⟩ with
    failure | tip
  · rw [hfollow] at hrun
    rw [run_bind_error hrun]
    rfl
  · rw [hfollow] at hrun
    rw [run_bind_ok hrun, run_bind, run_lift]
    have hpost := checkPost_shows f pre hc tip (hshows tip hfollow)
    rcases hhead : judgeHead f.expectedHead tip.head with failure | _
    · simp only [bind, Except.bind, hhead]
    · simp only [bind, Except.bind, hhead]
      exact congrArg Verdict.ofRun hpost

end BlockRun

namespace PayloadRun

variable {τ : Type} {terms : Terms} {f : Fixture} {client : EngineTarget τ}
  {truth : τ → Alloc} {pre final : Alloc}

lemma checkState_shows (hc : terms.cancelAt = none) (honest : client.Truthful truth)
    {s : Alloc} (within : final.Within pre s) {tip : Tip} {m : Moment τ}
    (shown : client.Shows truth terms.callTimeout tip final m.state) :
    ((checkState terms client pre s).run.run m).1 = judgeState s final := by
  obtain ⟨here, hhere, rests⟩ := shown
  obtain ⟨answer, hanswer, told, htold⟩ := rests.reads m.state (pre.readingHint s) hhere
  rw [htold] at hanswer
  have htells := honest.readState_tells hanswer
  rw [rests.truth_eq m.state hhere] at htells
  have hask := run_ask hc none (client.readState (pre.readingHint s)) m
  rw [Moment.within_answered hanswer] at hask
  rw [checkState, run_bind_ok hask]
  exact judgeState_congr s (htells.same_of_within within)

lemma checkPost_shows (hc : terms.cancelAt = none) (honest : client.Truthful truth)
    (within : ∀ post s, f.expectedPost? = some post → post.state? pre = some s →
      final.Within pre s) {tip : Tip} {m : Moment τ}
    (shown : client.Shows truth terms.callTimeout tip final m.state) :
    ((checkPost terms f pre client).run.run m).1 = f.judgePost pre final tip := by
  unfold checkPost Fixture.judgePost
  rcases hpost : f.expectedPost? with _ | s | d | root
  · rfl
  · exact checkState_shows hc honest (within _ s hpost rfl) shown
  · exact checkState_shows hc honest (within _ (d.apply pre) hpost rfl) shown
  · obtain ⟨here, hhere, rests⟩ := shown
    obtain ⟨answer, m', hanswer, rfl, -⟩ := (rests.latest m.state hhere).within
    have hask := run_ask hc none (client.block .latest) m
    rw [hanswer] at hask
    simp only
    rw [run_bind_ok hask]
    rfl

lemma ask_head (hc : terms.cancelAt = none) {tip : Tip} {m : Moment τ}
    (shown : client.Shows truth terms.callTimeout tip final m.state) :
    ∃ m', (ask terms none client.head).run.run m = (.ok tip.head, m') ∧
      client.Shows truth terms.callTimeout tip final m'.state := by
  obtain ⟨here, hhere, rests⟩ := shown
  obtain ⟨answer, hanswer, rfl, hthere⟩ := rests.latest m.state hhere
  have hhead : client.head (some terms.callTimeout) m.state = ⟨some (.ok tip.head),
      (client.block .latest (some terms.callTimeout) m.state).elapsed,
      (client.block .latest (some terms.callTimeout) m.state).state⟩ := by
    unfold EngineTarget.head
    rw [Call.bind_answered hanswer]
    rfl
  have hask := run_ask hc none client.head m
  rw [Moment.within_answered (by rw [hhead])] at hask
  refine ⟨_, hask, here, ?_, rests⟩
  rw [hhead]
  exact hthere

lemma run_checkGenesis (hc : terms.cancelAt = none) {P : τ → Prop} {hash : Hash}
    {m : Moment τ} (starts : (client.block (.number f.genesisHead.number)).Gives
      terms.callTimeout m.state fun answer s =>
        (∃ b, answer = .ok (some b) ∧ b.hash = hash) ∧ P s) :
    ∃ m', (checkGenesis terms f client).run.run m =
      (judgeGenesis f.genesisHead (some hash), m') ∧ P m'.state := by
  obtain ⟨_, m', hanswer, answer, hhash, ⟨b, rfl, rfl⟩, hP⟩ := (starts.map _).within
  have hcall : (call terms none _).run.run m = _ := (call_eq_ok hc).mpr hanswer
  refine ⟨m', ?_, hP⟩
  unfold checkGenesis EngineTarget.blockHash
  rw [run_bind_ok hcall, ← hhash]
  rfl

lemma run_foreign {hash : Hash} {m m' : Moment τ} (check : (checkGenesis terms f client).run.run m =
      (judgeGenesis f.genesisHead (some hash), m')) (hne : hash ≠ f.genesisHead.hash) :
    ∃ text, (run terms f pre client m).1 = .fail (setupFailure text) := by
  have hrun : (run terms f pre client m).1 = .ofRun ((steps terms f pre client).run.run m).1 :=
    rfl
  simp only [judgeGenesis, hne, if_false] at check
  rw [hrun, steps, run_bind_error check]
  exact ⟨_, rfl⟩

lemma run_plays (hc : terms.cancelAt = none) (honest : client.Truthful truth)
    (within : ∀ post s, f.expectedPost? = some post → post.state? pre = some s →
      final.Within pre s) {chain : List Step}
    (hes : List.Forall₂ (PayloadEntry.IsOf f.network) f.payloads chain) {genesis : Genesis}
    {m m₁ : Moment τ} (begins : (checkGenesis terms f client).run.run m = (.ok (), m₁))
    (plays : client.Plays truth terms.callTimeout final f.payloads chain
      ⟨f.genesisHead, genesis.stateRoot⟩ m₁.state) :
    (run terms f pre client m).1 = .ofRun (f.judgeChain terms pre final genesis chain) := by
  obtain ⟨m₂, hextend, hshows⟩ := extend_plays hc hes 0 _ m₁ plays
  have hrun : (run terms f pre client m).1 = .ofRun ((steps terms f pre client).run.run m).1 :=
    rfl
  rw [hrun, steps, run_bind_ok begins, Fixture.judgeChain]
  rcases hfollow : Step.follow terms f.network 0 chain ⟨f.genesisHead, genesis.stateRoot⟩ with
    failure | tip
  · rw [hfollow] at hextend
    rw [run_bind_error hextend]
    rfl
  · rw [hfollow] at hextend
    obtain ⟨m₃, hask, shown⟩ := ask_head hc (hshows tip hfollow)
    have hpost := checkPost_shows hc honest within shown
    rw [run_bind_ok hextend, run_bind_ok hask, run_bind, run_lift]
    rcases hhead : judgeHead f.expectedHead tip.head with failure | _
    · simp only [bind, Except.bind, hhead]
    · simp only [bind, Except.bind, hhead]
      exact congrArg Verdict.ofRun hpost

end PayloadRun

/-! ### Agreement -/

/-- What a verdict says of a fixture: that it passes, or the kind of its failure and the block
or payload that failed. -/
def Verdict.gist (v : Verdict) : Option (FailureKind × Option Nat) :=
  v.failure?.map fun failure => (failure.kind, failure.block)

lemma Fixture.Parallel.judgeChain_eq {f f' : Fixture} {steps : List Step}
    (h : f.Parallel f' steps) (terms : Terms) (pre final : Alloc) (genesis : Genesis) :
    f'.judgeChain terms pre final genesis steps = f.judgeChain terms pre final genesis steps := by
  have hhead : f'.genesisHead = f.genesisHead := by
    simp only [genesisHead, genesisHash, h.genesis]
  simp only [judgeChain, judgePost, hhead, h.network, h.head, h.post]

/-- Blocks and payloads of the same chain are judged alike, by any mapper and policy, where both
targets report the same of each step, start from the same genesis block and end with the same
state, of which there is nothing that is not asked for. If their genesis block is that of the
fixtures the verdicts are the same in every respect. -/
theorem engines_agree (terms : Terms) (hc : terms.cancelAt = none) (f f' : Fixture)
    (steps : List Step) (parallel : f.Parallel f' steps) (pre final : Alloc)
    (within : ∀ post s, f.expectedPost? = some post → post.state? pre = some s →
      final.Within pre s)
    (genesis : Genesis)
    (committed : genesis.hash = f.genesisHash → genesis.stateRoot = f.genesis.stateRoot)
    {σ : Type} (target : BlockTarget σ) (resumed : Option Genesis) (m : Moment σ)
    (begins : (BlockRun.begin f pre target resumed).Gives terms.callTimeout m.state
      fun answer s => answer = .ok genesis ∧
        target.Plays terms.callTimeout final f.blocks steps s)
    {τ : Type} (client : EngineTarget τ) (truth : τ → Alloc) (honest : client.Truthful truth)
    (m' : Moment τ)
    (starts : (client.block (.number f'.genesisHead.number)).Gives terms.callTimeout m'.state
      fun answer s => (∃ b, answer = .ok (some b) ∧ b.hash = genesis.hash) ∧
        client.Plays truth terms.callTimeout final f'.payloads steps
          ⟨⟨genesis.hash, f'.genesis.number64⟩, genesis.stateRoot⟩ s) :
    let direct := (BlockRun.run terms f pre target resumed m).1
    let served := (PayloadRun.run terms f' pre client m').1
    direct.gist = served.gist ∧ (genesis.hash = f.genesisHash → direct = served) := by
  intro direct served
  have hgenesisHash : f'.genesisHash = f.genesisHash := by
    simp only [Fixture.genesisHash, parallel.genesis]
  obtain ⟨answer, m₁, hbegin, rfl, plays⟩ := begins.within
  obtain ⟨m₂, hcheck, plays'⟩ := PayloadRun.run_checkGenesis hc starts
  by_cases hhash : genesis.hash = f.genesisHash
  · have hsame : direct = served := by
      have hbegins : BlockRun.Begins terms f pre target resumed m genesis m₁ :=
        ⟨hbegin, committed hhash, hhash⟩
      have hhash' : genesis.hash = f'.genesisHash := hhash.trans hgenesisHash.symm
      have hcheck' : (PayloadRun.checkGenesis terms f' client).run.run m' = (.ok (), m₂) := by
        rw [hcheck, PayloadRun.judgeGenesis_eq_ok.mpr (congrArg some hhash')]
      rw [hhash'] at plays'
      have within' : ∀ post s, f'.expectedPost? = some post → post.state? pre = some s →
          final.Within pre s := by
        rw [parallel.post]
        exact within
      have hdirect := BlockRun.run_plays hc parallel.blocks hbegins plays
      have hserved := PayloadRun.run_plays hc honest within' parallel.payloads hcheck' plays'
      exact hdirect.trans ((congrArg _ (parallel.judgeChain_eq terms pre final genesis).symm).trans
        hserved.symm)
    exact ⟨congrArg Verdict.gist hsame, fun _ => hsame⟩
  · -- Both runs fail for a genesis block that is not that of the fixtures.
    refine ⟨?_, fun h => absurd h hhash⟩
    obtain ⟨failure, hdirect, hkind, hblock⟩ :=
      BlockRun.fail_of_deviates hc (.genesis hbegin (Or.inr hhash))
    have hhash' : genesis.hash ≠ f'.genesisHead.hash := by
      rw [Fixture.genesisHead, hgenesisHash]
      exact hhash
    obtain ⟨text, hserved⟩ : ∃ text, served = .fail (PayloadRun.setupFailure text) :=
      PayloadRun.run_foreign hcheck hhash'
    rw [hserved, show direct = .fail failure from hdirect]
    exact congrArg some (Prod.ext hkind hblock)

/-- A chain of a step that is accepted and one that is rejected as it should be. -/
def forked : List Step := [
  ⟨none, 0, .accepted ⟨⟨.replicate 2, 1⟩, .zero⟩⟩,
  ⟨some ⟨[.block .invalidGasUsed]⟩, 0, .rejected "bad"⟩]

def forkedBlocks : Fixture :=
  { BlockRun.garbled with
    blocks := forked.map fun step => {
      rlp := Hex.encode (Transition.bare []).encode, header := none, uncles := none
      withdrawals := none, expected := step.expected }
    lastBlockHash := .replicate 2
    postState := some .empty }

def forkedPayloads : Fixture :=
  { forkedBlocks with
    blocks := []
    payloads := forked.map fun step => {
      payload := { (default : ExecutionPayload) with number := 1, blockHash := .replicate 2 }
      version := 3, blobVersionedHashes := none, parentBeaconRoot := none
      executionRequests := none, validationError := step.expected, errorCode := none
      forkchoiceVersion := none } }

/-- A target that counts the steps of `forked` that it has accepted. -/
def forkedTarget : BlockTarget Nat where
  start _ _ _ := .instantly fun s => (.ok ⟨.zero, .replicate 1⟩, s)
  apply _ _ := .instantly fun s =>
    if s = 0 then (.ok (.accepted ⟨.replicate 2, 1⟩ .zero), 1)
    else (.ok (.rejected "bad" none), s)
  readState _ := .instantly fun s => (.ok .empty, s)
  resetTo _ := .never

/-- A client that counts the steps of `forked` that it has accepted. -/
def forkedClient : EngineTarget Nat where
  newPayload _ _ := .instantly fun s =>
    if s = 0 then (.ok { verdict := .valid }, s)
    else (.ok { verdict := .invalid, validationError := some "bad" }, s)
  chooseHead _ _ := .instantly fun _ => (.ok { verdict := .valid }, 1)
  block
    | .number _ => .instantly fun s => (.ok (some ⟨.replicate 1, 0, .zero⟩), s)
    | .latest => .instantly fun s =>
      (.ok (some (if s = 0 then ⟨.replicate 1, 0, .zero⟩ else ⟨.replicate 2, 1, .zero⟩)), s)
  account _ _ := .instantly fun s => (.ok none, s)

lemma forkedClient_reads (asked : List (Address × Account)) (read : Alloc)
    (limit : Option Nat) (s : Nat) :
    (forkedClient.readAccounts asked read limit s).answer = some (.ok read) := by
  induction asked generalizing limit s with
  | nil => rfl
  | cons entry rest ih =>
    have hanswer : (forkedClient.account entry.1 entry.2.storage.keys limit s).answer =
        some (.ok none) := rfl
    rw [EngineTarget.readAccounts, Call.bind_answered hanswer]
    exact ih _ _

lemma forkedClient_shows (timeout : Nat) :
    forkedClient.Shows (fun _ => .empty) timeout ⟨⟨.replicate 2, 1⟩, .zero⟩ .empty 1 := by
  refine ⟨(· = 1), rfl, ?_, fun _ _ => rfl, fun s hint _ => ?_⟩
  · rintro _ rfl
    exact ⟨_, rfl, rfl, rfl⟩
  · exact ⟨_, forkedClient_reads hint.entries .empty _ s, _, rfl⟩

theorem engines_agree_forked :
    let terms : Terms := { mapper := .empty, client := "client", policy := .relaxed false }
    (BlockRun.run terms forkedBlocks .empty forkedTarget none ⟨0, 0⟩).1 =
        (PayloadRun.run terms forkedPayloads .empty forkedClient ⟨0, 0⟩).1 ∧
      (PayloadRun.run terms forkedPayloads .empty forkedClient ⟨0, 0⟩).1 = .pass := by
  intro terms
  have hsize : (Transition.bare []).payload.length < UInt64.size := by decide +kernel
  have decodes (b : FixtureBlock) (hb : b.rlp = Hex.encode (Transition.bare []).encode) :
      BlockRun.decoded b = .ok ((Transition.bare []).block, (Transition.bare []).encode) :=
    decoded_encoded hb (Transition.decode_bare hsize)
  have parallel : forkedBlocks.Parallel forkedPayloads forked := by
    refine ⟨rfl, rfl, ?_, ?_, by decide +kernel, rfl⟩
    · exact .cons ⟨rfl, _, _, decodes _ rfl, rfl⟩ (.cons ⟨rfl, _, _, decodes _ rfl, rfl⟩ .nil)
    · exact .cons ⟨rfl, rfl, rfl, rfl⟩ (.cons ⟨rfl, rfl, rfl, rfl⟩ .nil)
  have honest : forkedClient.Truthful fun _ => .empty := by
    refine ⟨fun h => ?_, fun _ _ _ _ => rfl⟩
    cases Option.some.inj h
    exact .none
  have begins : (BlockRun.begin forkedBlocks .empty forkedTarget none).Gives
      terms.callTimeout (0 : Nat) fun answer s => answer = .ok ⟨.zero, .replicate 1⟩ ∧
        forkedTarget.Plays terms.callTimeout .empty forkedBlocks.blocks forked s := by
    refine ⟨_, rfl, rfl, fun _ _ _ => ⟨_, rfl, rfl, fun _ _ _ => ⟨_, rfl, rfl, ?_⟩⟩⟩
    exact fun _ => ⟨_, rfl, _, rfl, .refl _⟩
  have starts : (forkedClient.block (.number forkedPayloads.genesisHead.number)).Gives
      terms.callTimeout (0 : Nat) fun answer s =>
        (∃ b, answer = .ok (some b) ∧ b.hash = .replicate 1) ∧
          forkedClient.Plays (fun _ => .empty) terms.callTimeout .empty
            forkedPayloads.payloads forked
            ⟨⟨.replicate 1, forkedPayloads.genesis.number64⟩, .zero⟩ s := by
    refine ⟨_, rfl, ⟨_, rfl, rfl⟩, _, rfl, ⟨_, rfl, rfl⟩, fun version => ?_⟩
    refine ⟨_, rfl, ⟨_, rfl, rfl⟩, _, rfl, ⟨_, rfl, rfl, rfl⟩, ?_⟩
    exact forkedClient_shows terms.callTimeout
  have hagree := engines_agree terms rfl forkedBlocks forkedPayloads forked parallel .empty
    .empty (fun _ _ _ _ => ⟨nofun, fun _ _ h => absurd rfl h⟩) ⟨.zero, .replicate 1⟩
    (fun _ => by decide +kernel) forkedTarget none ⟨0, 0⟩ begins forkedClient _ honest ⟨0, 0⟩
    starts
  exact ⟨hagree.2 rfl, by decide +kernel⟩

end ChainConformance
