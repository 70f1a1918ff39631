import ChainConformance.Proofs.Judgement
import ChainConformance.Proofs.Steps
import ChainConformance.Run.Blocks

/-!
# Verdicts on blocks

When a run over blocks passes. The blocks up to some place are accepted one after another,
the next one is refused as expected or there is none, and the chain then ends with the
expected head and state. Every other run fails at the first deviation from this, and the
kind of the failure says what the deviation is.
-/

namespace ChainConformance

/-- What a rejection says: what the target knows itself, or else what its message says. -/
def Terms.reading (t : Terms) (message : String) (fork : Fork) : Option ExceptionTag →
    Classification
  | some tag => .mapped tag
  | none => t.classify message fork

namespace BlockRun

variable {σ : Type} (terms : Terms) (f : Fixture) (pre : Alloc) (target : BlockTarget σ)
  (resumed : Option Genesis)

def forkOf (block : Block) : Fork := f.network.atTime block.header.timestamp.saturated

/-- The call for a genesis block is answered with the one of the fixture. -/
structure Begins (m : Moment σ) (g : Genesis) (m' : Moment σ) : Prop where
  answer : m.within terms.callTimeout (begin f pre target resumed) = (.done (.ok g), m')
  stateRoot_eq : g.stateRoot = f.genesis.stateRoot
  hash_eq : g.hash = f.genesisHash

/-- The block expects no exception, can be decoded, and is accepted with the given tip. -/
inductive Accepts (m : Moment σ) (b : FixtureBlock) (tip : Tip) (m' : Moment σ) : Prop
  | intro {block : Block} {raw : Bytes} (unexpected : b.expected = none)
      (decodes : decoded b = .ok (block, raw))
      (answer : m.within terms.callTimeout (target.apply block raw) =
        (.done (.ok (.accepted tip.head tip.stateRoot)), m'))

/-- The block is refused as its expectation has it: it is rejected for a reason that the
policy admits, or it cannot be decoded and the policy admits that. -/
inductive Refuses (m : Moment σ) (b : FixtureBlock) (m' : Moment σ) : Prop
  | rejected {set : ExceptionSet} {block : Block} {raw : Bytes} {message : String}
      {tag : Option ExceptionTag} (expects : b.expected = some set)
      (decodes : decoded b = .ok (block, raw))
      (answer : m.within terms.callTimeout (target.apply block raw) =
        (.done (.ok (.rejected message tag)), m'))
      (admitted : terms.policy.admits set (terms.reading message (forkOf f block) tag))
  | undecodable {set : ExceptionSet} {text : String} (expects : b.expected = some set)
      (fails : decoded b = .error text) (admitted : terms.policy.admitsDecodeFailure set)
      (unmoved : m' = m)
  | undecodableToTarget {set : ExceptionSet} {block : Block} {raw : Bytes} {text : String}
      (expects : b.expected = some set) (decodes : decoded b = .ok (block, raw))
      (answer : m.within terms.callTimeout (target.apply block raw) =
        (.done (.ok (.undecodable text)), m'))
      (admitted : terms.policy.admitsDecodeFailure set)

/-- The block is neither accepted nor refused as its expectation has it. -/
inductive Breaks (m : Moment σ) (b : FixtureBlock) : FailureKind → Prop
  | accepted {set : ExceptionSet} {block : Block} {raw : Bytes} {head : ChainHead}
      {stateRoot : Hash} {m' : Moment σ} (expects : b.expected = some set)
      (decodes : decoded b = .ok (block, raw))
      (answer : m.within terms.callTimeout (target.apply block raw) =
        (.done (.ok (.accepted head stateRoot)), m')) : Breaks m b .unexpectedAcceptance
  | rejected {block : Block} {raw : Bytes} {message : String} {tag : Option ExceptionTag}
      {m' : Moment σ} (unexpected : b.expected = none)
      (decodes : decoded b = .ok (block, raw))
      (answer : m.within terms.callTimeout (target.apply block raw) =
        (.done (.ok (.rejected message tag)), m')) : Breaks m b .unexpectedRejection
  | rejectedOtherwise {set : ExceptionSet} {block : Block} {raw : Bytes} {message : String}
      {tag : Option ExceptionTag} {m' : Moment σ} (expects : b.expected = some set)
      (decodes : decoded b = .ok (block, raw))
      (answer : m.within terms.callTimeout (target.apply block raw) =
        (.done (.ok (.rejected message tag)), m'))
      (unadmitted : ¬terms.policy.admits set (terms.reading message (forkOf f block) tag)) :
      Breaks m b (if terms.reading message (forkOf f block) tag = .unmapped
        then .unmappedException else .wrongExceptionReason)
  | undecodable {text : String} (fails : decoded b = .error text)
      (unadmitted : ¬b.expected.any terms.policy.admitsDecodeFailure) :
      Breaks m b (.decodeError b.expected)
  | undecodableToTarget {block : Block} {raw : Bytes} {text : String} {m' : Moment σ}
      (decodes : decoded b = .ok (block, raw))
      (answer : m.within terms.callTimeout (target.apply block raw) =
        (.done (.ok (.undecodable text)), m'))
      (unadmitted : ¬b.expected.any terms.policy.admitsDecodeFailure) :
      Breaks m b (.decodeError b.expected)
  | reportedLate {block : Block} {raw : Bytes} {m' : Moment σ}
      (decodes : decoded b = .ok (block, raw))
      (answer : m.within terms.callTimeout (target.apply block raw) =
        (.done (.ok .timedOut), m')) : Breaks m b .timeout
  | late {block : Block} {raw : Bytes} {m' : Moment σ}
      (decodes : decoded b = .ok (block, raw))
      (answer : m.within terms.callTimeout (target.apply block raw) = (.timedOut, m')) :
      Breaks m b .timeout
  | faulty {block : Block} {raw : Bytes} {e : RunFault} {m' : Moment σ}
      (decodes : decoded b = .ok (block, raw))
      (answer : m.within terms.callTimeout (target.apply block raw) =
        (.done (.error e), m')) : Breaks m b .clientFault

/-- The blocks are accepted one after another, each with a tip. -/
inductive Imports : Moment σ → List FixtureBlock → List Tip → Moment σ → Prop
  | nil (m : Moment σ) : Imports m [] [] m
  | cons {m m₁ m₂ : Moment σ} {b : FixtureBlock} {rest : List FixtureBlock} {tip : Tip}
      {tips : List Tip} (first : Accepts terms target m b tip m₁)
      (others : Imports m₁ rest tips m₂) : Imports m (b :: rest) (tip :: tips) m₂

/-- The first `k` blocks are accepted, and the chain ends there: there are no more blocks, or
the next one is refused as expected. -/
def Extends (m : Moment σ) (k : Nat) (tips : List Tip) (m' : Moment σ) : Prop :=
  ∃ m₁, Imports terms target m (f.blocks.take k) tips m₁ ∧
    (k = f.blocks.length ∧ m' = m₁ ∨
      ∃ b, f.blocks[k]? = some b ∧ Refuses terms f target m₁ b m')

/-- The tip after accepted blocks, that of the genesis block if there are none. -/
def tipAfter (g : Genesis) (tips : List Tip) : Tip :=
  tips.getLastD ⟨f.genesisHead, g.stateRoot⟩

/-- The chain ends with the state that the fixture asks for, or with its root where only
that is known. -/
inductive HasPost (m : Moment σ) (tip : Tip) : Prop
  | state {post : ExpectedPost} {s observed : Alloc} {m' : Moment σ}
      (expects : f.expectedPost? = some post) (known : post.state? pre = some s)
      (answer : m.within terms.callTimeout (target.readState s) = (.done (.ok observed), m'))
      (agrees : Mismatch.ofStates s observed = [])
  | root {r : Hash} (expects : f.expectedPost? = some (.root r)) (agrees : r = tip.stateRoot)

/-- The chain does not end with the state that the fixture asks for. -/
inductive PostBreaks (m : Moment σ) (tip : Tip) : FailureKind → Prop
  | state {post : ExpectedPost} {s observed : Alloc} {m' : Moment σ}
      (expects : f.expectedPost? = some post) (known : post.state? pre = some s)
      (answer : m.within terms.callTimeout (target.readState s) = (.done (.ok observed), m'))
      (differs : Mismatch.ofStates s observed ≠ []) : PostBreaks m tip .stateMismatch
  | root {r : Hash} (expects : f.expectedPost? = some (.root r))
      (differs : r ≠ tip.stateRoot) : PostBreaks m tip .stateMismatch
  | late {post : ExpectedPost} {s : Alloc} {m' : Moment σ}
      (expects : f.expectedPost? = some post) (known : post.state? pre = some s)
      (answer : m.within terms.callTimeout (target.readState s) = (.timedOut, m')) :
      PostBreaks m tip .timeout
  | faulty {post : ExpectedPost} {s : Alloc} {e : RunFault} {m' : Moment σ}
      (expects : f.expectedPost? = some post) (known : post.state? pre = some s)
      (answer : m.within terms.callTimeout (target.readState s) = (.done (.error e), m')) :
      PostBreaks m tip .clientFault
  | unknown (expects : f.expectedPost? = none) : PostBreaks m tip .fixtureConstruction

/-- The target does what the fixture expects, from the genesis to the state at the end. -/
def Conforms (m : Moment σ) : Prop :=
  ∃ g m₁ k tips m₂, Begins terms f pre target resumed m g m₁ ∧
    Extends terms f target m₁ k tips m₂ ∧
    (tipAfter f g tips).head = f.expectedHead ∧
    HasPost terms f pre target m₂ (tipAfter f g tips)

/-- The first deviation from what the fixture expects, and the place of the block that is
deviated at. -/
inductive Deviates (m : Moment σ) : FailureKind → Option Nat → Prop
  | unstarted {e : RunFault} {m' : Moment σ}
      (answer : m.within terms.callTimeout (begin f pre target resumed) =
        (.done (.error e), m')) : Deviates m .setupError none
  | startedLate {m' : Moment σ}
      (answer : m.within terms.callTimeout (begin f pre target resumed) = (.timedOut, m')) :
      Deviates m .timeout none
  | genesis {g : Genesis} {m' : Moment σ}
      (answer : m.within terms.callTimeout (begin f pre target resumed) =
        (.done (.ok g), m'))
      (differs : g.stateRoot ≠ f.genesis.stateRoot ∨ g.hash ≠ f.genesisHash) :
      Deviates m .setupError none
  | block {g : Genesis} {m₁ m₂ : Moment σ} {k : Nat} {tips : List Tip} {b : FixtureBlock}
      {kind : FailureKind} (begins : Begins terms f pre target resumed m g m₁)
      (imports : Imports terms target m₁ (f.blocks.take k) tips m₂)
      (next : f.blocks[k]? = some b) (breaks : Breaks terms f target m₂ b kind) :
      Deviates m kind (some k)
  | head {g : Genesis} {m₁ m₂ : Moment σ} {k : Nat} {tips : List Tip}
      (begins : Begins terms f pre target resumed m g m₁)
      (extended : Extends terms f target m₁ k tips m₂)
      (differs : (tipAfter f g tips).head ≠ f.expectedHead) : Deviates m .headMismatch none
  | post {g : Genesis} {m₁ m₂ : Moment σ} {k : Nat} {tips : List Tip} {kind : FailureKind}
      (begins : Begins terms f pre target resumed m g m₁)
      (extended : Extends terms f target m₁ k tips m₂)
      (ends : (tipAfter f g tips).head = f.expectedHead)
      (breaks : PostBreaks terms f pre target m₂ (tipAfter f g tips) kind) :
      Deviates m kind none

variable {terms f pre target resumed}

lemma run_guarded {α : Type} (hc : terms.cancelAt = none) (c : Call σ α) (r : BlockRun σ) :
    (guarded terms c).run.run r = (.ok (r.moment.within terms.callTimeout c).1,
      { r with moment := (r.moment.within terms.callTimeout c).2 }) := by
  rw [← Moment.guarded_none, ← hc]
  rfl

def entering (r : BlockRun σ) (tip : Tip) (i : Nat) : BlockRun σ :=
  { r with phases := .extending tip i :: r.phases }

lemma extend_cons (hc : terms.cancelAt = none) (r : BlockRun σ) (b : FixtureBlock) (i : Nat)
    (tip : Tip) (rest : List FixtureBlock) :
    (extend terms f target i (b :: rest) tip).run.run r =
      match (offer terms f target i b).run.run (entering r tip i) with
      | (.ok (outcome, fork), r') =>
        match judgeOutcome terms i b.expected fork outcome with
        | .ok (some next) => (extend terms f target (i + 1) rest next).run.run r'
        | .ok none => (.ok tip, r')
        | .error e => (.error e, r')
      | (.error e, r') => (.error e, r') := by
  have hn : isCancelled terms.cancelAt (entering r tip i).moment.now = false := by
    rw [hc]
    rfl
  have henter : (enter (.extending tip i)).run.run r = (.ok (), entering r tip i) := rfl
  have hget : (get : BlockStep σ (BlockRun σ)).run.run (entering r tip i) =
      (.ok (entering r tip i), entering r tip i) := rfl
  rw [extend, run_bind_ok henter, run_bind_ok hget]
  simp only [hn, Bool.false_eq_true, if_false]
  rw [run_bind]
  rcases (offer terms f (fun _ => target) i b).run.run (entering r tip i) with
    ⟨e | ⟨outcome, fork⟩, r'⟩
  · rfl
  · simp only [run_bind, run_lift]
    rcases judgeOutcome terms i b.expected fork outcome with e | _ | next <;> rfl

lemma extend_of_text (hc : terms.cancelAt = none) {b : FixtureBlock} {text : String}
    (fails : decoded b = .error text) (r : BlockRun σ) (i : Nat) (tip : Tip)
    (rest : List FixtureBlock) :
    (extend terms f target i (b :: rest) tip).run.run r =
      if b.expected.any terms.policy.admitsDecodeFailure then (.ok tip, entering r tip i)
      else (.error { kind := .decodeError b.expected, block := some i, message := some text },
        entering r tip i) := by
  have ho : (offer terms f target i b).run.run (entering r tip i) =
      (.ok (.undecodable text, f.network), entering r tip i) := by
    unfold offer
    rw [fails]
    rfl
  rw [extend_cons hc, ho]
  simp only [judgeOutcome]
  by_cases h : b.expected.any terms.policy.admitsDecodeFailure
  · simp only [h, if_true]
  · simp only [h, Bool.false_eq_true, if_false]

lemma extend_of_call (hc : terms.cancelAt = none) {b : FixtureBlock} {block : Block}
    {raw : Bytes} (decodes : decoded b = .ok (block, raw)) (r : BlockRun σ) (i : Nat)
    (tip : Tip) (rest : List FixtureBlock) :
    (extend terms f target i (b :: rest) tip).run.run r =
      match r.moment.within terms.callTimeout (target.apply block raw) with
      | (.done (.error e), m) => (.error
          { kind := .clientFault, block := some i, message := some e.message },
          { entering r tip i with moment := m })
      | (.cancelled, m) => (.error { kind := .cancelled, block := some i },
          { entering r tip i with moment := m })
      | (.timedOut, m) => (.error { kind := .timeout, block := some i },
          { entering r tip i with moment := m })
      | (.done (.ok outcome), m) =>
        match judgeOutcome terms i b.expected (forkOf f block) outcome with
        | .ok (some next) => (extend terms f target (i + 1) rest next).run.run
            { entering r tip i with moment := m }
        | .ok none => (.ok tip, { entering r tip i with moment := m })
        | .error e => (.error e, { entering r tip i with moment := m }) := by
  have hm : (entering r tip i).moment = r.moment := rfl
  rw [extend_cons hc]
  unfold offer
  simp only [decodes]
  rw [run_bind, run_guarded hc, hm]
  rcases r.moment.within terms.callTimeout (target.apply block raw) with
    ⟨(e | outcome) | _ | _, m⟩ <;> rfl

lemma judgeOutcome_rejected (i : Nat) (expected : Option ExceptionSet) (fork : Fork)
    (message : String) (tag : Option ExceptionTag) :
    judgeOutcome terms i expected fork (.rejected message tag) =
      (terms.judgeRejection i expected message (terms.reading message fork tag)).map
        fun _ => none := by
  cases tag <;> rfl

lemma extend_accepts (hc : terms.cancelAt = none) {r : BlockRun σ} {b : FixtureBlock}
    {next : Tip} {m : Moment σ} (h : Accepts terms target r.moment b next m) (i : Nat)
    (tip : Tip) (rest : List FixtureBlock) :
    (extend terms f target i (b :: rest) tip).run.run r =
      (extend terms f target (i + 1) rest next).run.run
        { entering r tip i with moment := m } := by
  obtain ⟨unexpected, decodes, answer⟩ := h
  rw [extend_of_call hc decodes, answer, unexpected]
  rfl

lemma extend_refuses (hc : terms.cancelAt = none) {r : BlockRun σ} {b : FixtureBlock}
    {m : Moment σ} (h : Refuses terms f target r.moment b m) (i : Nat) (tip : Tip)
    (rest : List FixtureBlock) :
    (extend terms f target i (b :: rest) tip).run.run r =
      (.ok tip, { entering r tip i with moment := m }) := by
  cases h with
  | rejected expects decodes answer admitted =>
    rw [extend_of_call hc decodes, answer]
    simp only [judgeOutcome_rejected, expects, Terms.judgeRejection, admitted, if_true,
      Except.map]
  | undecodable expects fails admitted unmoved =>
    rw [extend_of_text hc fails, expects, Option.any_some, if_pos admitted, unmoved]
    rfl
  | undecodableToTarget expects decodes answer admitted =>
    rw [extend_of_call hc decodes, answer]
    simp only [judgeOutcome, expects, Option.any_some, admitted, if_true]

lemma extend_breaks (hc : terms.cancelAt = none) {r : BlockRun σ} {b : FixtureBlock}
    {kind : FailureKind} (h : Breaks terms f target r.moment b kind) (i : Nat) (tip : Tip)
    (rest : List FixtureBlock) :
    ∃ failure m, (extend terms f target i (b :: rest) tip).run.run r =
      (.error failure, { entering r tip i with moment := m }) ∧
      failure.kind = kind ∧ failure.block = some i := by
  cases h with
  | accepted expects decodes answer =>
    rw [extend_of_call hc decodes, answer, expects]
    exact ⟨_, _, rfl, rfl, rfl⟩
  | rejected unexpected decodes answer =>
    rw [extend_of_call hc decodes, answer]
    simp only [judgeOutcome_rejected, unexpected]
    exact ⟨_, _, rfl, rfl, rfl⟩
  | rejectedOtherwise expects decodes answer unadmitted =>
    rw [extend_of_call hc decodes, answer]
    simp only [judgeOutcome_rejected, expects, Terms.judgeRejection, unadmitted,
      Bool.false_eq_true, if_false, Except.map]
    exact ⟨_, _, rfl, rfl, rfl⟩
  | undecodable fails unadmitted =>
    rw [extend_of_text hc fails, if_neg unadmitted]
    exact ⟨_, r.moment, rfl, rfl, rfl⟩
  | undecodableToTarget decodes answer unadmitted =>
    rw [extend_of_call hc decodes, answer]
    simp only [judgeOutcome, unadmitted, Bool.false_eq_true, if_false]
    exact ⟨_, _, rfl, rfl, rfl⟩
  | reportedLate decodes answer =>
    rw [extend_of_call hc decodes, answer]
    exact ⟨_, _, rfl, rfl, rfl⟩
  | late decodes answer =>
    rw [extend_of_call hc decodes, answer]
    exact ⟨_, _, rfl, rfl, rfl⟩
  | faulty decodes answer =>
    rw [extend_of_call hc decodes, answer]
    exact ⟨_, _, rfl, rfl, rfl⟩

variable (terms f target) in
lemma block_cases (m : Moment σ) (b : FixtureBlock) :
    (∃ tip m', Accepts terms target m b tip m') ∨ (∃ m', Refuses terms f target m b m') ∨
      ∃ kind, Breaks terms f target m b kind := by
  have hundecodable : ¬b.expected.any terms.policy.admitsDecodeFailure ∨
      ∃ set, b.expected = some set ∧ terms.policy.admitsDecodeFailure set := by
    cases b.expected with
    | none => exact Or.inl (by simp)
    | some set =>
      by_cases h : terms.policy.admitsDecodeFailure set
      · exact Or.inr ⟨set, rfl, h⟩
      · exact Or.inl (by simpa using h)
  cases hd : decoded b with
  | error text =>
    rcases hundecodable with h | ⟨set, hs, h⟩
    · exact Or.inr (Or.inr ⟨_, .undecodable hd h⟩)
    · exact Or.inr (Or.inl ⟨m, .undecodable hs hd h rfl⟩)
  | ok decodedBlock =>
    obtain ⟨block, raw⟩ := decodedBlock
    rcases m.within_cases terms.callTimeout (target.apply block raw) with
      ⟨e | outcome, m', h⟩ | ⟨m', h⟩
    · exact Or.inr (Or.inr ⟨_, .faulty hd h⟩)
    · cases outcome with
      | accepted head stateRoot =>
        cases hs : b.expected with
        | none => exact Or.inl ⟨⟨head, stateRoot⟩, m', .intro hs hd h⟩
        | some set => exact Or.inr (Or.inr ⟨_, .accepted hs hd h⟩)
      | rejected message tag =>
        cases hs : b.expected with
        | none => exact Or.inr (Or.inr ⟨_, .rejected hs hd h⟩)
        | some set =>
          by_cases ha : terms.policy.admits set (terms.reading message (forkOf f block) tag)
          · exact Or.inr (Or.inl ⟨m', .rejected hs hd h ha⟩)
          · exact Or.inr (Or.inr ⟨_, .rejectedOtherwise hs hd h ha⟩)
      | undecodable text =>
        rcases hundecodable with hu | ⟨set, hs, hu⟩
        · exact Or.inr (Or.inr ⟨_, .undecodableToTarget hd h hu⟩)
        · exact Or.inr (Or.inl ⟨m', .undecodableToTarget hs hd h hu⟩)
      | timedOut => exact Or.inr (Or.inr ⟨_, .reportedLate hd h⟩)
    · exact Or.inr (Or.inr ⟨_, .late hd h⟩)

/-! ### What becomes of a chain -/

/-- The phases of a run, the last one first, after blocks that are accepted with the given
tips, of which the first has the given place. -/
def phasesAfter : Nat → Tip → List Tip → List Phase → List Phase
  | _, _, [], ps => ps
  | i, tip, next :: tips, ps => phasesAfter (i + 1) next tips (.extending tip i :: ps)

lemma extend_imports (hc : terms.cancelAt = none) {m m' : Moment σ}
    {bs : List FixtureBlock} {tips : List Tip} (h : Imports terms target m bs tips m')
    (ps : List Phase) (genesis : Option Genesis) (i : Nat) (tip : Tip)
    (rest : List FixtureBlock) :
    (extend terms f target i (bs ++ rest) tip).run.run ⟨m, ps, genesis⟩ =
      (extend terms f target (i + bs.length) rest (tips.getLastD tip)).run.run
        ⟨m', phasesAfter i tip tips ps, genesis⟩ := by
  induction h generalizing ps i tip with
  | nil m => rfl
  | @cons m m₁ m₂ b others next tips first _ ih =>
    rw [List.cons_append, extend_accepts hc first]
    have hi : i + (b :: others).length = i + 1 + others.length := by
      rw [List.length_cons]
      omega
    rw [hi, List.getLastD_cons]
    exact ih (.extending tip i :: ps) (i + 1) next

lemma drop_of_getElem? {bs : List FixtureBlock} {k : Nat} {b : FixtureBlock}
    (h : bs[k]? = some b) : bs.drop k = b :: bs.drop (k + 1) := by
  obtain ⟨hk, rfl⟩ := List.getElem?_eq_some_iff.mp h
  exact List.drop_eq_getElem_cons hk

lemma extend_extends (hc : terms.cancelAt = none) {m m' : Moment σ} {k : Nat}
    {tips : List Tip} (h : Extends terms f target m k tips m') (ps : List Phase)
    (genesis : Option Genesis) (tip : Tip) :
    ∃ ps', (extend terms f target 0 f.blocks tip).run.run ⟨m, ps, genesis⟩ =
      (.ok (tips.getLastD tip), ⟨m', ps', genesis⟩) := by
  obtain ⟨m₁, himports, hend⟩ := h
  have hsplit := extend_imports (f := f) hc himports ps genesis 0 tip (f.blocks.drop k)
  rw [List.take_append_drop] at hsplit
  rw [hsplit]
  rcases hend with ⟨rfl, rfl⟩ | ⟨b, hb, hrefuses⟩
  · rw [List.drop_length]
    exact ⟨_, rfl⟩
  · rw [drop_of_getElem? hb, extend_refuses hc hrefuses]
    exact ⟨_, rfl⟩

lemma extend_imports_breaks (hc : terms.cancelAt = none) {m m' : Moment σ} {k : Nat}
    {tips : List Tip} {b : FixtureBlock} {kind : FailureKind}
    (himports : Imports terms target m (f.blocks.take k) tips m')
    (hb : f.blocks[k]? = some b) (hbreaks : Breaks terms f target m' b kind)
    (ps : List Phase) (genesis : Option Genesis) (tip : Tip) :
    ∃ failure r, (extend terms f target 0 f.blocks tip).run.run ⟨m, ps, genesis⟩ =
      (.error failure, r) ∧ failure.kind = kind ∧ failure.block = some k := by
  have hsplit := extend_imports (f := f) hc himports ps genesis 0 tip (f.blocks.drop k)
  rw [List.take_append_drop] at hsplit
  have hk : k < f.blocks.length := (List.getElem?_eq_some_iff.mp hb).1
  have hi : 0 + (f.blocks.take k).length = k := by
    rw [List.length_take]
    omega
  rw [hsplit, drop_of_getElem? hb, hi]
  obtain ⟨failure, m₂, hrun, hkind, hblock⟩ := extend_breaks hc
    (r := ⟨m', phasesAfter 0 tip tips ps, genesis⟩) hbreaks k (tips.getLastD tip)
    (f.blocks.drop (k + 1))
  exact ⟨failure, _, hrun, hkind, hblock⟩

variable (terms f target) in
lemma chain_cases (m : Moment σ) (bs : List FixtureBlock) :
    ∃ k tips m₁, Imports terms target m (bs.take k) tips m₁ ∧
      (k = bs.length ∨ ∃ b, bs[k]? = some b ∧
        ((∃ m', Refuses terms f target m₁ b m') ∨ ∃ kind, Breaks terms f target m₁ b kind)) := by
  induction bs generalizing m with
  | nil => exact ⟨0, [], m, .nil m, Or.inl rfl⟩
  | cons b rest ih =>
    rcases block_cases terms f target m b with ⟨tip, m', haccepts⟩ | hends
    · obtain ⟨k, tips, m₁, himports, hend⟩ := ih m'
      refine ⟨k + 1, tip :: tips, m₁, .cons haccepts himports, ?_⟩
      rcases hend with rfl | hend
      · exact Or.inl rfl
      · exact Or.inr (by simpa using hend)
    · exact ⟨0, [], m, .nil m, Or.inr ⟨b, rfl, hends⟩⟩

lemma judgeGenesis_ok {g : Genesis} (hroot : g.stateRoot = f.genesis.stateRoot)
    (hhash : g.hash = f.genesisHash) : judgeGenesis f g = .ok () := by
  simp only [judgeGenesis, hroot, hhash, ne_eq, not_true_eq_false, if_false]

lemma judgeGenesis_error {g : Genesis}
    (h : g.stateRoot ≠ f.genesis.stateRoot ∨ g.hash ≠ f.genesisHash) :
    ∃ text, judgeGenesis f g = .error (setupFailure text) := by
  unfold judgeGenesis
  by_cases hroot : g.stateRoot = f.genesis.stateRoot
  · have hhash : g.hash ≠ f.genesisHash := h.resolve_left (not_not_intro hroot)
    rw [if_neg (not_not_intro hroot), if_pos hhash]
    exact ⟨_, rfl⟩
  · rw [if_pos hroot]
    exact ⟨_, rfl⟩

variable (f pre target resumed) in
lemma run_establish (hc : terms.cancelAt = none) (r : BlockRun σ) :
    (establish terms f pre target resumed).run.run r =
      match r.moment.within terms.callTimeout (begin f pre target resumed) with
      | (.done (.ok g), m) =>
        match judgeGenesis f g with
        | .ok () => (.ok ⟨f.genesisHead, g.stateRoot⟩, ⟨m, r.phases, some g⟩)
        | .error e => (.error e, { r with moment := m })
      | (.done (.error e), m) => (.error (setupFailure e.message), { r with moment := m })
      | (.timedOut, m) => (.error { kind := .timeout }, { r with moment := m })
      | (.cancelled, m) => (.error { kind := .cancelled }, { r with moment := m }) := by
  unfold establish
  rw [run_bind, run_guarded hc]
  rcases r.moment.within terms.callTimeout (begin f pre target resumed) with
    ⟨(e | g) | _ | _, m⟩
  · rfl
  · simp only [run_bind, run_lift]
    rcases judgeGenesis f g with e | _ <;> rfl
  · rfl
  · rfl

lemma establish_begins (hc : terms.cancelAt = none) {r : BlockRun σ} {g : Genesis}
    {m : Moment σ} (h : Begins terms f pre target resumed r.moment g m) :
    (establish terms f pre target resumed).run.run r =
      (.ok ⟨f.genesisHead, g.stateRoot⟩, ⟨m, r.phases, some g⟩) := by
  rw [run_establish f pre target resumed hc, h.answer]
  simp only [judgeGenesis_ok h.stateRoot_eq h.hash_eq]

lemma steps_begins (hc : terms.cancelAt = none) {m m₁ : Moment σ} {g : Genesis}
    (h : Begins terms f pre target resumed m g m₁) :
    (steps terms f pre target resumed).run.run (initial m) =
      (do
        let tip ← extend terms f target 0 f.blocks ⟨f.genesisHead, g.stateRoot⟩
        judgeHead f.expectedHead tip.head
        checkPost terms f pre target tip.stateRoot).run.run
        ⟨m₁, [.genesisVerified ⟨f.genesisHead, g.stateRoot⟩, .uninitialized], some g⟩ := by
  have h' : Begins terms f pre target resumed (initial m).moment g m₁ := h
  unfold steps
  rw [run_bind_ok (establish_begins hc h')]
  rfl

lemma steps_extends (hc : terms.cancelAt = none) {m m₁ m₂ : Moment σ} {g : Genesis} {k : Nat}
    {tips : List Tip} (hbegins : Begins terms f pre target resumed m g m₁)
    (hextends : Extends terms f target m₁ k tips m₂) :
    ∃ ps, (steps terms f pre target resumed).run.run (initial m) =
      (do
        judgeHead f.expectedHead (tipAfter f g tips).head
        checkPost terms f pre target (tipAfter f g tips).stateRoot :
          BlockStep σ Unit).run.run ⟨m₂, ps, some g⟩ := by
  obtain ⟨ps, hrun⟩ := extend_extends hc hextends
    [.genesisVerified ⟨f.genesisHead, g.stateRoot⟩, .uninitialized] (some g)
    ⟨f.genesisHead, g.stateRoot⟩
  rw [steps_begins hc hbegins, run_bind_ok hrun]
  exact ⟨ps, rfl⟩

lemma checkPost_of_state {target : Nat → BlockTarget σ} {post : ExpectedPost} {s : Alloc}
    (expects : f.expectedPost? = some post) (known : post.state? pre = some s)
    (stateRoot : Hash) :
    checkPost terms f pre target stateRoot = checkState terms target s := by
  unfold checkPost
  rw [expects]
  cases post with
  | root r => cases known
  | full s' | diff d => cases known; rfl

lemma run_checkState (hc : terms.cancelAt = none) (s : Alloc) (r : BlockRun σ) :
    (checkState terms target s).run.run r =
      match r.moment.within terms.callTimeout (target.readState s) with
      | (.done (.ok observed), m) => (judgeState s observed, { r with moment := m })
      | (.done (.error e), m) => (.error
          { kind := .clientFault, message := some e.message }, { r with moment := m })
      | (.timedOut, m) => (.error { kind := .timeout }, { r with moment := m })
      | (.cancelled, m) => (.error { kind := .cancelled }, { r with moment := m }) := by
  unfold checkState
  rw [run_bind, run_guarded hc]
  rcases r.moment.within terms.callTimeout (target.readState s) with
    ⟨(e | observed) | _ | _, m⟩ <;> rfl

lemma checkPost_hasPost (hc : terms.cancelAt = none) {r : BlockRun σ} {tip : Tip}
    (h : HasPost terms f pre target r.moment tip) :
    ∃ r', (checkPost terms f pre target tip.stateRoot).run.run r = (.ok (), r') := by
  cases h with
  | state expects known answer agrees =>
    rw [checkPost_of_state expects known, run_checkState hc, answer]
    simp only [judgeState_eq_ok.mpr agrees]
    exact ⟨_, rfl⟩
  | root expects agrees =>
    refine ⟨r, ?_⟩
    unfold checkPost
    rw [expects]
    simp only [judgeRoot, agrees, if_true, run_lift]

lemma checkPost_breaks (hc : terms.cancelAt = none) {r : BlockRun σ} {tip : Tip}
    {kind : FailureKind} (h : PostBreaks terms f pre target r.moment tip kind) :
    ∃ failure r', (checkPost terms f pre target tip.stateRoot).run.run r =
      (.error failure, r') ∧ failure.kind = kind ∧ failure.block = none := by
  cases h with
  | state expects known answer differs =>
    obtain ⟨failure, hfails, hkind, hblock⟩ := judgeState_error differs
    rw [checkPost_of_state expects known, run_checkState hc, answer]
    simp only [hfails]
    exact ⟨failure, _, rfl, hkind, hblock⟩
  | root expects differs =>
    unfold checkPost
    rw [expects]
    simp only [judgeRoot, differs, if_false, run_lift]
    exact ⟨_, _, rfl, rfl, rfl⟩
  | late expects known answer =>
    rw [checkPost_of_state expects known, run_checkState hc, answer]
    exact ⟨_, _, rfl, rfl, rfl⟩
  | faulty expects known answer =>
    rw [checkPost_of_state expects known, run_checkState hc, answer]
    exact ⟨_, _, rfl, rfl, rfl⟩
  | unknown expects =>
    unfold checkPost
    rw [expects]
    exact ⟨_, _, rfl, rfl, rfl⟩

variable (terms f pre target) in
lemma post_cases (m : Moment σ) (tip : Tip) :
    HasPost terms f pre target m tip ∨ ∃ kind, PostBreaks terms f pre target m tip kind := by
  cases hpost : f.expectedPost? with
  | none => exact Or.inr ⟨_, .unknown hpost⟩
  | some post =>
    cases hknown : post.state? pre with
    | none =>
      obtain ⟨r, rfl⟩ := ExpectedPost.state?_eq_none hknown
      by_cases h : r = tip.stateRoot
      · exact Or.inl (.root hpost h)
      · exact Or.inr ⟨_, .root hpost h⟩
    | some s =>
      rcases m.within_cases terms.callTimeout (target.readState s) with
        ⟨e | observed, m', answer⟩ | ⟨m', answer⟩
      · exact Or.inr ⟨_, .faulty hpost hknown answer⟩
      · by_cases h : Mismatch.ofStates s observed = []
        · exact Or.inl (.state hpost hknown answer h)
        · exact Or.inr ⟨_, .state hpost hknown answer h⟩
      · exact Or.inr ⟨_, .late hpost hknown answer⟩

/-! ### The verdict -/

variable (terms f pre target resumed) in
/-- Whatever the target answers, it does what the fixture expects or deviates from it. -/
lemma conforms_or_deviates (m : Moment σ) :
    Conforms terms f pre target resumed m ∨
      ∃ kind place, Deviates terms f pre target resumed m kind place := by
  rcases m.within_cases terms.callTimeout (begin f pre target resumed) with
    ⟨e | g, m₁, answer⟩ | ⟨m₁, answer⟩
  · exact Or.inr ⟨_, _, .unstarted answer⟩
  · by_cases hgenesis : g.stateRoot ≠ f.genesis.stateRoot ∨ g.hash ≠ f.genesisHash
    · exact Or.inr ⟨_, _, .genesis answer hgenesis⟩
    · obtain ⟨hroot, hhash⟩ := not_or.mp hgenesis
      have begins : Begins terms f pre target resumed m g m₁ :=
        ⟨answer, not_not.mp hroot, not_not.mp hhash⟩
      obtain ⟨k, tips, m₂, imports, hend⟩ := chain_cases terms f target m₁ f.blocks
      have hextends : (∃ m₃, Extends terms f target m₁ k tips m₃) ∨
          ∃ b kind, f.blocks[k]? = some b ∧ Breaks terms f target m₂ b kind := by
        rcases hend with hk | ⟨b, hb, ⟨m₃, hrefuses⟩ | ⟨kind, hbreaks⟩⟩
        · exact Or.inl ⟨m₂, m₂, imports, Or.inl ⟨hk, rfl⟩⟩
        · exact Or.inl ⟨m₃, m₂, imports, Or.inr ⟨b, hb, hrefuses⟩⟩
        · exact Or.inr ⟨b, kind, hb, hbreaks⟩
      rcases hextends with ⟨m₃, extended⟩ | ⟨b, kind, hb, hbreaks⟩
      · by_cases hhead : (tipAfter f g tips).head = f.expectedHead
        · rcases post_cases terms f pre target m₃ (tipAfter f g tips) with hpost | ⟨kind, hpost⟩
          · exact Or.inl ⟨g, m₁, k, tips, m₃, begins, extended, hhead, hpost⟩
          · exact Or.inr ⟨kind, none, .post begins extended hhead hpost⟩
        · exact Or.inr ⟨_, _, .head begins extended hhead⟩
      · exact Or.inr ⟨kind, some k, .block begins imports hb hbreaks⟩
  · exact Or.inr ⟨_, _, .startedLate answer⟩

lemma run_eq (terms : Terms) (f : Fixture) (pre : Alloc) (target : BlockTarget σ)
    (resumed : Option Genesis) (m : Moment σ) :
    (run terms f pre target resumed m).1 =
      Verdict.ofRun ((steps terms f pre target resumed).run.run (initial m)).1 := rfl

lemma pass_of_conforms (hc : terms.cancelAt = none) {m : Moment σ}
    (h : Conforms terms f pre target resumed m) :
    (run terms f pre target resumed m).1 = .pass := by
  obtain ⟨g, m₁, k, tips, m₂, begins, extended, hhead, hpost⟩ := h
  obtain ⟨ps, hsteps⟩ := steps_extends hc begins extended
  obtain ⟨r, hr⟩ := checkPost_hasPost (r := ⟨m₂, ps, some g⟩) hc hpost
  rw [run_eq, hsteps, judgeHead_eq_ok.mpr hhead, run_bind_ok (run_lift _ _), hr]
  rfl

lemma steps_error {failure : Failure} {m : Moment σ} {r : BlockRun σ}
    (h : (establish terms f pre target resumed).run.run (initial m) = (.error failure, r)) :
    (steps terms f pre target resumed).run.run (initial m) = (.error failure, r) := by
  unfold steps
  rw [run_bind_error h]

lemma fails_of_steps {m : Moment σ} {failure : Failure} {r : BlockRun σ}
    (h : (steps terms f pre target resumed).run.run (initial m) = (.error failure, r)) :
    (run terms f pre target resumed m).1 = .fail failure := by
  rw [run_eq, h]
  rfl

lemma fail_of_deviates (hc : terms.cancelAt = none) {m : Moment σ} {kind : FailureKind}
    {place : Option Nat} (h : Deviates terms f pre target resumed m kind place) :
    ∃ failure, (run terms f pre target resumed m).1 = .fail failure ∧
      failure.kind = kind ∧ failure.block = place := by
  have hm : (initial m).moment = m := rfl
  have hestablish := run_establish f pre target resumed hc (initial m)
  rw [hm] at hestablish
  cases h with
  | unstarted answer =>
    rw [answer] at hestablish
    exact ⟨_, fails_of_steps (steps_error hestablish), rfl, rfl⟩
  | startedLate answer =>
    rw [answer] at hestablish
    exact ⟨_, fails_of_steps (steps_error hestablish), rfl, rfl⟩
  | genesis answer differs =>
    obtain ⟨text, htext⟩ := judgeGenesis_error differs
    rw [answer] at hestablish
    simp only [htext] at hestablish
    exact ⟨_, fails_of_steps (steps_error hestablish), rfl, rfl⟩
  | @block g m₁ m₂ k tips b _ begins imports next breaks =>
    obtain ⟨failure, r, hrun, hkind, hblock⟩ := extend_imports_breaks hc imports next breaks
      [.genesisVerified ⟨f.genesisHead, g.stateRoot⟩, .uninitialized] (some g)
      ⟨f.genesisHead, g.stateRoot⟩
    have hfails := steps_begins hc begins
    rw [run_bind_error hrun] at hfails
    exact ⟨failure, fails_of_steps hfails, hkind, hblock⟩
  | head begins extended differs =>
    obtain ⟨ps, hsteps⟩ := steps_extends hc begins extended
    obtain ⟨failure, hhead, hkind, hblock⟩ := judgeHead_error differs
    rw [hhead, run_bind_error (run_lift _ _)] at hsteps
    exact ⟨failure, fails_of_steps hsteps, hkind, hblock⟩
  | @post g m₁ m₂ k tips _ begins extended ends breaks =>
    obtain ⟨ps, hsteps⟩ := steps_extends hc begins extended
    obtain ⟨failure, r, hpost, hkind, hblock⟩ :=
      checkPost_breaks (r := ⟨m₂, ps, some g⟩) hc breaks
    rw [judgeHead_eq_ok.mpr ends, run_bind_ok (run_lift _ _), hpost] at hsteps
    exact ⟨failure, fails_of_steps hsteps, hkind, hblock⟩

/-- A run that is never cancelled passes if and only if the target does what the fixture
expects. Otherwise it fails, and for the first deviation: the kind of the failure is that of
the deviation, and so is the block. -/
theorem run_verdict_iff (terms : Terms) (hc : terms.cancelAt = none) (f : Fixture)
    (pre : Alloc) (target : BlockTarget σ) (resumed : Option Genesis) (m : Moment σ) :
    ((run terms f pre target resumed m).1 = .pass ↔
      Conforms terms f pre target resumed m) ∧
    ∀ kind place,
      (∃ failure, (run terms f pre target resumed m).1 = .fail failure ∧
        failure.kind = kind ∧ failure.block = place) ↔
      Deviates terms f pre target resumed m kind place := by
  constructor
  · constructor
    · intro hpass
      rcases conforms_or_deviates terms f pre target resumed m with h | ⟨kind, place, h⟩
      · exact h
      · obtain ⟨failure, hfails, _⟩ := fail_of_deviates hc h
        rw [hpass] at hfails
        cases hfails
    · exact pass_of_conforms hc
  · intro kind place
    constructor
    · rintro ⟨failure, hfails, rfl, rfl⟩
      rcases conforms_or_deviates terms f pre target resumed m with h | ⟨kind, place, h⟩
      · rw [pass_of_conforms hc h] at hfails
        cases hfails
      · obtain ⟨failure', hfails', rfl, rfl⟩ := fail_of_deviates hc h
        rw [hfails] at hfails'
        cases hfails'
        exact h
    · exact fail_of_deviates hc

/-- A fixture with a single block, which is not even hexadecimal and is expected to be
refused for its encoding. The chain ends where it starts. -/
def garbled : Fixture where
  network := .cancun
  genesis := { (default : Header) with statedHash := some (.replicate 1) }
  genesisRlp := none
  pre := some .empty
  preHash := none
  blocks := [{
    rlp := "0xzz", header := none, uncles := none, withdrawals := none
    expected := some ⟨[.block .rlpStructuresEncoding]⟩ }]
  payloads := []
  forkchoiceVersion := none
  lastBlockHash := .replicate 1
  postState := none
  postStateHash := some .zero
  postStateDiff := none
  config := none
  sealEngine := none

def genesisOnly (f : Fixture) : BlockTarget Unit where
  start _ _ _ := .instantly fun s => (.ok ⟨f.genesis.stateRoot, f.genesisHash⟩, s)
  apply _ _ := .never
  readState _ := .never
  resetTo _ := .never

theorem run_garbled :
    ({ mapper := .empty, client := "client" } : Terms).cancelAt = none ∧
    (run { mapper := .empty, client := "client" } garbled .empty (genesisOnly garbled) none
      ⟨0, ()⟩).1 = .pass := by
  have hdecoded : ∃ text, decoded garbled.blocks[0] = .error text := by
    have hnot : (decoded garbled.blocks[0]).toBool = false := by decide +kernel
    cases h : decoded garbled.blocks[0] with
    | error text => exact ⟨text, rfl⟩
    | ok block =>
      rw [h] at hnot
      cases hnot
  obtain ⟨text, htext⟩ := hdecoded
  refine ⟨rfl, (run_verdict_iff _ rfl _ _ _ _ _).1.mpr ?_⟩
  refine ⟨⟨.zero, .replicate 1⟩, ⟨0, ()⟩, 0, [], ⟨0, ()⟩, ⟨rfl, rfl, rfl⟩, ?_, ?_, ?_⟩
  · exact ⟨_, .nil _, Or.inr ⟨_, rfl, .undecodable rfl htext (by decide +kernel) rfl⟩⟩
  · rw [Fixture.expectedHead, if_pos (by rfl)]
    rfl
  · exact .root rfl rfl

end BlockRun

end ChainConformance
