import ChainConformance.Proofs.ChainCover
import ChainConformance.Run.BlockGroup

/-!
# Fixtures that share a chain

Fixtures of a group are run one after another on one chain, which keeps the network of the
fixture that it was started for and the blocks of all fixtures since. A fixture that is
detached from the ones before it does not notice: its verdict is the one that it gets on a
chain of its own.
-/

namespace ChainConformance

def FixtureBlock.hashes (bs : List FixtureBlock) : List Hash :=
  bs.filterMap fun b => (BlockRun.decoded b).toOption.map (·.1.hash)

/-- The hashes of the blocks of those members whose genesis block has the given hash. -/
def Member.kinHashes (siblings : List Member) (hash : Hash) : List Hash :=
  (siblings.filter fun s => s.fixture.genesisHash = hash).flatMap
    fun s => FixtureBlock.hashes s.fixture.blocks

/-- A member of a group shares nothing but the state with the members before it: the chain is
made for its chain id, and those that start from its genesis block have its network and its
genesis header, and none of their blocks is an ancestor of the genesis block or the parent of
a block of the member that the member itself has not brought. -/
structure Member.Detached (siblings : List Member) (m : Member) : Prop where
  chainId_eq : ∀ s ∈ siblings.head?, s.chainId = m.chainId
  genesis_eq : ∀ s ∈ siblings, s.fixture.genesisHash = m.fixture.genesisHash →
    s.fixture.network = m.fixture.network ∧
    { s.fixture.genesis with statedHash := none } =
      { m.fixture.genesis with statedHash := none }
  genesis_free : m.fixture.genesisHash ∉ kinHashes siblings m.fixture.genesisHash
  parent_free : m.fixture.genesis.parentHash ∉ kinHashes siblings m.fixture.genesisHash
  rooted : ∀ before b rest block raw, m.fixture.blocks = before ++ b :: rest →
    BlockRun.decoded b = .ok (block, raw) →
    block.header.parentHash ∈ kinHashes siblings m.fixture.genesisHash →
    block.header.parentHash = m.fixture.genesisHash ∨
      block.header.parentHash ∈ FixtureBlock.hashes before

/-- The hash of the group that the blocks of the fixture are run in, if it has no state of its
own. -/
def Member.groupHash? (m : Member) : Option Hash :=
  if m.fixture.isEngine ∨ m.fixture.pre.isSome then none else m.fixture.preHash

/-- Those of the members before a member that are in the group that it is run in. -/
def Member.siblings (m : Member) (before : List Member) : List Member :=
  match m.groupHash? with
  | none => []
  | some hash => before.filter (·.groupHash? = some hash)

def Member.eachAfter : List Member → List Member → List (List Member × Member)
  | _, [] => []
  | before, m :: rest => (before, m) :: eachAfter (before ++ [m]) rest

/-- A result is that of a member that comes after others, and what it is alone if the member
is detached from them. -/
def Member.Gets (alone : Member → CaseResult → Prop) (p : List Member × Member)
    (r : CaseResult) : Prop :=
  r.path = p.2.path ∧ r.name = p.2.name ∧ (p.2.Detached (p.2.siblings p.1) → alone p.2 r)

lemma FixtureBlock.mem_hashes {bs : List FixtureBlock} {h : Hash} :
    h ∈ hashes bs ↔
      ∃ b ∈ bs, ∃ block raw, BlockRun.decoded b = .ok (block, raw) ∧ block.hash = h := by
  unfold hashes
  rw [List.mem_filterMap]
  constructor
  · rintro ⟨b, hb, h⟩
    cases hdecoded : BlockRun.decoded b with
    | error text =>
      rw [hdecoded] at h
      cases h
    | ok decodedBlock =>
      rw [hdecoded] at h
      exact ⟨b, hb, decodedBlock.1, decodedBlock.2, hdecoded, Option.some.inj h⟩
  · rintro ⟨b, hb, block, raw, hdecoded, rfl⟩
    exact ⟨b, hb, by rw [hdecoded]; rfl⟩

namespace BlockRun

variable {ω : Type} {terms : Terms} {f : Fixture} {pre : Alloc} {tool : TransitionTool ω}
  {execute : TransitionInput → TransitionOptions → FaultOr TransitionOutput} {chainId : Word}

/-- Two runs stand on the same chain, which has grown from the given one by blocks of the
fixture, and something is known of it. -/
def OnOneChain (P : Prop) (f : Fixture) (c₀ : TransitionChain) (s t : TransitionChain × ω) :
    Prop :=
  P ∧ s.1 = t.1 ∧ TransitionChain.Grown (FixtureBlock.hashes f.blocks) c₀ s.1

lemma simulates_self (h : tool.Answers execute) (P : Prop) (c₀ : TransitionChain) :
    Simulates f (TransitionChain.target tool chainId) (TransitionChain.target tool chainId)
      (fun _ => OnOneChain P f c₀) where
  apply before b rest block raw s t hblocks hdecoded := by
    rintro ⟨hP, hst, hgrown⟩
    have hmem : block.hash ∈ FixtureBlock.hashes f.blocks := by
      refine FixtureBlock.mem_hashes.mpr ⟨b, ?_, block, raw, hdecoded, rfl⟩
      rw [hblocks]
      exact List.mem_append_right before List.mem_cons_self
    have hsubset : [block.hash] ⊆ FixtureBlock.hashes f.blocks := by
      intro hash hh
      rw [List.mem_singleton.mp hh]
      exact hmem
    have hleft := TransitionChain.yields_apply h chainId block s.1
    have hright := TransitionChain.yields_apply h chainId block t.1
    rw [← hst] at hright
    refine hleft.alike (hst ▸ hright) fun w w' => ⟨before ++ [b], ⟨hP, rfl, ?_⟩, fun _ _ _ => rfl⟩
    exact hgrown.trans ((TransitionChain.grown_applyOn chainId block s.1).mono hsubset)
  readState done hint s t := by
    rintro ⟨hP, hst, hgrown⟩
    have hleft : TransitionChain.Yields
        ((TransitionChain.target tool chainId).readState hint) s.1 s.1.readState s.1 :=
      TransitionChain.yields_revise fun c => (c.readState, c)
    exact hleft.alike (hst ▸ hleft) fun w w' => ⟨hP, rfl, hgrown⟩

/-- A chain that holds the genesis block of the fixture and blocks that the fixture does not
lead to answers like one that is started for it. -/
lemma simulates_cover (h : tool.Answers execute) (foreign : Hash → Prop)
    (rooted : ∀ before b rest block raw, f.blocks = before ++ b :: rest →
      decoded b = .ok (block, raw) → foreign block.header.parentHash →
      block.header.parentHash = f.genesis.hash ∨
        block.header.parentHash ∈ FixtureBlock.hashes before) :
    Simulates f (TransitionChain.target tool chainId) (TransitionChain.target tool chainId)
      (fun done s t => TransitionChain.Covers foreign s.1 t.1 ∧ t.1.Holds f.genesis.hash ∧
        ∀ hash ∈ FixtureBlock.hashes done, t.1.Holds hash) where
  apply before b rest block raw s t hblocks hdecoded := by
    rintro ⟨hcovers, hgenesis, hheld⟩
    have hparent : t.1.Holds block.header.parentHash ∨ ¬foreign block.header.parentHash := by
      by_cases hforeign : foreign block.header.parentHash
      · refine Or.inl ?_
        rcases rooted before b rest block raw hblocks hdecoded hforeign with heq | hmem
        · rw [heq]
          exact hgenesis
        · exact hheld _ hmem
      · exact Or.inr hforeign
    obtain ⟨answer, c', d', hc, hd, hcovers', hkept, hnew⟩ :=
      hcovers.applyOn execute chainId block hparent
    have hleft := TransitionChain.yields_apply h chainId block s.1
    have hright := TransitionChain.yields_apply h chainId block t.1
    rw [hc] at hleft
    rw [hd] at hright
    refine hleft.alike hright fun w w' => ?_
    -- Only a block that is accepted becomes one that later blocks may follow.
    by_cases haccepted : ∃ head stateRoot, answer = .ok (.accepted head stateRoot)
    · obtain ⟨head, stateRoot, hanswer⟩ := haccepted
      refine ⟨before ++ [b], ⟨hcovers', hkept _ hgenesis, ?_⟩, fun _ _ _ => rfl⟩
      intro hash hmem
      obtain ⟨b', hb', block', raw', hdecoded', rfl⟩ := FixtureBlock.mem_hashes.mp hmem
      rcases List.mem_append.mp hb' with hb' | hb'
      · have hdone := FixtureBlock.mem_hashes.mpr ⟨b', hb', block', raw', hdecoded', rfl⟩
        exact hkept _ (hheld _ hdone)
      · rw [List.mem_singleton.mp hb', hdecoded] at hdecoded'
        cases hdecoded'
        exact hnew head stateRoot hanswer
    · refine ⟨before, ⟨hcovers', hkept _ hgenesis, fun hash hmem => hkept _ (hheld _ hmem)⟩, ?_⟩
      intro head stateRoot hanswer
      exact absurd ⟨head, stateRoot, hanswer⟩ haccepted
  readState done hint s t := by
    rintro ⟨hcovers, hgenesis, hheld⟩
    have hleft : TransitionChain.Yields
        ((TransitionChain.target tool chainId).readState hint) s.1 s.1.readState s.1 :=
      TransitionChain.yields_revise fun c => (c.readState, c)
    have hright : TransitionChain.Yields
        ((TransitionChain.target tool chainId).readState hint) t.1 t.1.readState t.1 :=
      TransitionChain.yields_revise fun c => (c.readState, c)
    rw [hcovers.readState] at hleft
    exact hleft.alike hright fun w w' => ⟨hcovers, hgenesis, hheld⟩

def StartedAs (execute : TransitionInput → TransitionOptions → FaultOr TransitionOutput)
    (chainId : Word) (pre : Alloc) (f : Fixture) (g : Genesis) : Prop :=
  g.hash = f.genesis.hash ∧ ∃ output,
    execute (Transition.idleInput pre) ⟨.frontier, chainId, none⟩ = .ok output ∧
      output.result.stateRoot = g.stateRoot

lemma startOn_cases
    (execute : TransitionInput → TransitionOptions → FaultOr TransitionOutput)
    (chainId : Word) (pre : Alloc) (f : Fixture) :
    (∃ e, ∀ c, TransitionChain.startOn execute chainId f.network pre f.genesis c =
      (.error e, c)) ∨
    ∃ g, StartedAs execute chainId pre f g ∧
      ∀ c, TransitionChain.startOn execute chainId f.network pre f.genesis c =
        (.ok g, TransitionChain.ofGenesis f.network pre f.genesis) := by
  unfold TransitionChain.startOn
  cases hexecute : execute (Transition.idleInput pre) ⟨.frontier, chainId, none⟩ with
  | error e => exact Or.inl ⟨e, fun _ => rfl⟩
  | ok output => exact Or.inr ⟨_, ⟨rfl, output, hexecute, rfl⟩, fun _ => rfl⟩

lemma run_started (h : tool.Answers execute) (hc : terms.cancelAt = none) (f : Fixture)
    (pre : Alloc) (chainId : Word) (m n : Moment (TransitionChain × ω)) :
    (run terms f pre (TransitionChain.target tool chainId) none m).1 =
        (run terms f pre (TransitionChain.target tool chainId) none n).1 ∧
      ∀ g, (run terms f pre (TransitionChain.target tool chainId) none m).2.genesis = some g →
        g.hash = f.genesisHash ∧ StartedAs execute chainId pre f g ∧
        TransitionChain.Grown (FixtureBlock.hashes f.blocks)
          (TransitionChain.ofGenesis f.network pre f.genesis)
          (run terms f pre (TransitionChain.target tool chainId) none m).2.moment.state.1 := by
  let R (g : Genesis) (_ : List FixtureBlock) : TransitionChain × ω → TransitionChain × ω → Prop :=
    OnOneChain (StartedAs execute chainId pre f g) f
      (TransitionChain.ofGenesis f.network pre f.genesis)
  have hsimulates (g : Genesis) : Simulates f (TransitionChain.target tool chainId)
      (TransitionChain.target tool chainId) (R g) := simulates_self h _ _
  have hbegins : (begin f pre (TransitionChain.target tool chainId) none).Alike
      (begin f pre (TransitionChain.target tool chainId) none)
      (fun answer s t => ∀ g, answer = .ok g → g.hash = f.genesisHash → R g [] s t)
      m.state n.state := by
    have hleft := TransitionChain.yields_start h chainId f.network pre f.genesis m.state.1
    have hright := TransitionChain.yields_start h chainId f.network pre f.genesis n.state.1
    rcases startOn_cases execute chainId pre f with ⟨e, hstart⟩ | ⟨g, hstarted, hstart⟩
    · rw [hstart] at hleft hright
      exact hleft.alike hright fun w w' => nofun
    · rw [hstart] at hleft hright
      refine hleft.alike hright fun w w' g' hg' _ => ?_
      cases hg'
      exact ⟨hstarted, rfl, TransitionChain.grown_refl _ _⟩
  obtain ⟨hverdict, _, hgenesis⟩ := run_simulated hc hsimulates hbegins
  refine ⟨hverdict, fun g hg => ?_⟩
  obtain ⟨hhash, done, hstarted, _, hgrown⟩ := hgenesis g hg
  exact ⟨hhash, hstarted, hgrown⟩

lemma yields_resume (tool : TransitionTool ω) (chainId : Word) (f : Fixture) (pre : Alloc)
    (g : Genesis) {c : TransitionChain}
    (hheld : c.Holds g.hash) :
    TransitionChain.Yields (begin f pre (TransitionChain.target tool chainId) (some g)) c
      (.ok g) { c with head := g.hash } := by
  have hleft : TransitionChain.Yields
      ((TransitionChain.target tool chainId).resetTo g.hash) c
      (TransitionChain.resetTo g.hash c).1 (TransitionChain.resetTo g.hash c).2 :=
    TransitionChain.yields_revise (TransitionChain.resetTo g.hash)
  rw [TransitionChain.resetTo_of_holds hheld] at hleft
  exact TransitionChain.yields_bind hleft (TransitionChain.yields_pure _)

lemma run_resumed (h : tool.Answers execute) (hc : terms.cancelAt = none) (f : Fixture)
    (pre : Alloc) (chainId : Word) {m : Moment (TransitionChain × ω)} {g₀ : Genesis}
    (hheld : m.state.1.Holds g₀.hash) :
    ∀ g, (run terms f pre (TransitionChain.target tool chainId) (some g₀) m).2.genesis =
        some g → g = g₀ ∧
      TransitionChain.Grown (FixtureBlock.hashes f.blocks) m.state.1
        (run terms f pre (TransitionChain.target tool chainId) (some g₀) m).2.moment.state.1 := by
  let R (g : Genesis) (_ : List FixtureBlock) : TransitionChain × ω → TransitionChain × ω → Prop :=
    OnOneChain (g = g₀) f m.state.1
  have hsimulates (g : Genesis) : Simulates f (TransitionChain.target tool chainId)
      (TransitionChain.target tool chainId) (R g) := simulates_self h _ _
  have hbegins : (begin f pre (TransitionChain.target tool chainId) (some g₀)).Alike
      (begin f pre (TransitionChain.target tool chainId) (some g₀))
      (fun answer s t => ∀ g, answer = .ok g → g.hash = f.genesisHash → R g [] s t)
      m.state m.state := by
    have hresume := yields_resume tool chainId f pre g₀ hheld
    refine hresume.alike hresume fun w w' g hg _ => ?_
    cases hg
    exact ⟨rfl, rfl, rfl, fun _ hh => hh, fun _ _ => rfl⟩
  obtain ⟨_, _, hgenesis⟩ := run_simulated hc hsimulates hbegins
  intro g hg
  obtain ⟨_, done, heq, _, hgrown⟩ := hgenesis g hg
  exact ⟨heq, hgrown⟩

/-- A chain that holds the genesis block of the fixture, and beside that blocks that the
fixture does not lead to, gives the same verdict as one that is started anew. -/
lemma run_covered (h : tool.Answers execute) (hc : terms.cancelAt = none) {f : Fixture}
    {pre : Alloc} {chainId : Word} {m : Moment (TransitionChain × ω)} {g : Genesis}
    (hstarted : StartedAs execute chainId pre f g) {foreign : Hash → Prop}
    (hcovers : TransitionChain.Covers foreign { m.state.1 with head := g.hash }
      (TransitionChain.ofGenesis f.network pre f.genesis))
    (hheld : m.state.1.Holds g.hash)
    (rooted : ∀ before b rest block raw, f.blocks = before ++ b :: rest →
      decoded b = .ok (block, raw) → foreign block.header.parentHash →
      block.header.parentHash = f.genesis.hash ∨
        block.header.parentHash ∈ FixtureBlock.hashes before)
    (n : Moment (TransitionChain × ω)) :
    (run terms f pre (TransitionChain.target tool chainId) (some g) m).1 =
      (run terms f pre (TransitionChain.target tool chainId) none n).1 := by
  let R (_ : Genesis) (done : List FixtureBlock) (s t : TransitionChain × ω) : Prop :=
    TransitionChain.Covers foreign s.1 t.1 ∧ t.1.Holds f.genesis.hash ∧
      ∀ hash ∈ FixtureBlock.hashes done, t.1.Holds hash
  have hsimulates (g : Genesis) : Simulates f (TransitionChain.target tool chainId)
      (TransitionChain.target tool chainId) (R g) := simulates_cover h foreign rooted
  have hbegins : (begin f pre (TransitionChain.target tool chainId) (some g)).Alike
      (begin f pre (TransitionChain.target tool chainId) none)
      (fun answer s t => ∀ g, answer = .ok g → g.hash = f.genesisHash → R g [] s t)
      m.state n.state := by
    have hleft := yields_resume tool chainId f pre g hheld
    have hright := TransitionChain.yields_start h chainId f.network pre f.genesis n.state.1
    have hstart : TransitionChain.startOn execute chainId f.network pre f.genesis n.state.1 =
        (.ok g, TransitionChain.ofGenesis f.network pre f.genesis) := by
      obtain ⟨hhash, output, hexecute, hroot⟩ := hstarted
      simp only [TransitionChain.startOn, hexecute, hroot, ← hhash]
    rw [hstart] at hright
    refine hleft.alike hright fun w w' g' _ _ => ⟨hcovers, ?_, nofun⟩
    exact TransitionChain.holds_genesis f.network pre f.genesis
  exact (run_simulated hc hsimulates hbegins).1

end BlockRun

/-! ### Groups -/

namespace BlockGroup

variable {ω : Type} {terms : Terms} {pre : Alloc} {tool : TransitionTool ω}
  {execute : TransitionInput → TransitionOptions → FaultOr TransitionOutput} {chainId : Word}

/-- What is known of a chain with a genesis block that is held: it has been started for one of
the members so far, and has grown by blocks of those that share the genesis block. -/
def HeldBy (execute : TransitionInput → TransitionOptions → FaultOr TransitionOutput)
    (chainId : Word) (pre : Alloc) (siblings : List Member) (g : Genesis)
    (c : TransitionChain) : Prop :=
  ∃ s ∈ siblings, s.fixture.genesisHash = g.hash ∧
    BlockRun.StartedAs execute chainId pre s.fixture g ∧
    TransitionChain.Grown (Member.kinHashes siblings g.hash)
      (TransitionChain.ofGenesis s.fixture.network pre s.fixture.genesis) c

variable {siblings : List Member} {g : Genesis} {c : TransitionChain}

lemma HeldBy.holds (h : HeldBy execute chainId pre siblings g c) : c.Holds g.hash := by
  obtain ⟨s, _, _, ⟨hhash, _⟩, hgrown⟩ := h
  rw [hhash]
  exact hgrown.holds _ (TransitionChain.holds_genesis _ _ _)

lemma kinHashes_subset (siblings : List Member) (m : Member) (h : Hash) :
    Member.kinHashes siblings h ⊆ Member.kinHashes (siblings ++ [m]) h := by
  intro hash hmem
  simp only [Member.kinHashes, List.filter_append, List.flatMap_append]
  exact List.mem_append_left _ hmem

lemma hashes_subset_kinHashes (siblings : List Member) {m : Member} {h : Hash}
    (hm : m.fixture.genesisHash = h) :
    FixtureBlock.hashes m.fixture.blocks ⊆ Member.kinHashes (siblings ++ [m]) h := by
  intro hash hmem
  simp only [Member.kinHashes, List.filter_append, List.flatMap_append]
  refine List.mem_append_right _ (List.mem_flatMap.mpr ⟨m, ?_, hmem⟩)
  exact List.mem_filter.mpr ⟨List.mem_singleton.mpr rfl, decide_eq_true hm⟩

section Member

variable {member : Member} {held : Option Genesis} {m : Moment (TransitionChain × ω)}
  {verdict : Verdict} {final : BlockRun (TransitionChain × ω)}

/-- One more member leaves what is known of the chain, whether it resumes the chain or starts
it anew. -/
lemma HeldBy.run (h : tool.Answers execute) (hc : terms.cancelAt = none)
    (hheld : ∀ g, held = some g → HeldBy execute chainId pre siblings g m.state.1)
    (hrun : BlockRun.run terms member.fixture pre (TransitionChain.target tool chainId)
      (held.filter fun g => g.hash = member.fixture.genesisHash) m = (verdict, final)) :
    ∀ g, final.genesis = some g →
      HeldBy execute chainId pre (siblings ++ [member]) g final.moment.state.1 := by
  intro g hg
  cases hresumed : held.filter fun g => g.hash = member.fixture.genesisHash with
  | none =>
    have hstarts := (BlockRun.run_started h hc member.fixture pre chainId m m).2
    rw [← hresumed, hrun] at hstarts
    obtain ⟨hhash, hstarted, hgrown⟩ := hstarts g hg
    exact ⟨member, List.mem_append_right _ List.mem_cons_self, hhash.symm, hstarted,
      hgrown.mono (hashes_subset_kinHashes siblings hhash.symm)⟩
  | some g₀ =>
    obtain ⟨hheld₀, hhash⟩ := Option.filter_eq_some_iff.mp hresumed
    have hknown := hheld g₀ hheld₀
    have hresumes := BlockRun.run_resumed h hc member.fixture pre chainId hknown.holds
    rw [← hresumed, hrun] at hresumes
    obtain ⟨rfl, hgrown⟩ := hresumes g hg
    obtain ⟨s, hs, hgenesis, hstarted, hbefore⟩ := hknown
    have hmember : member.fixture.genesisHash = g.hash := (of_decide_eq_true hhash).symm
    exact ⟨s, List.mem_append_left _ hs, hgenesis, hstarted,
      (hbefore.mono (kinHashes_subset siblings member g.hash)).trans
        (hgrown.mono (hashes_subset_kinHashes siblings hmember))⟩

lemma verdict_detached (h : tool.Answers execute) (hc : terms.cancelAt = none)
    (hheld : ∀ g, held = some g → HeldBy execute chainId pre siblings g m.state.1)
    (hrun : BlockRun.run terms member.fixture pre (TransitionChain.target tool chainId)
      (held.filter fun g => g.hash = member.fixture.genesisHash) m = (verdict, final))
    (hdetached : member.Detached siblings) (n : Moment (TransitionChain × ω)) :
    verdict =
      (BlockRun.run terms member.fixture pre (TransitionChain.target tool chainId) none n).1 := by
  rw [← show _ = verdict from congrArg Prod.fst hrun]
  cases hresumed : held.filter fun g => g.hash = member.fixture.genesisHash with
  | none => exact (BlockRun.run_started h hc member.fixture pre chainId m n).1
  | some g =>
    obtain ⟨hsome, hhash⟩ := Option.filter_eq_some_iff.mp hresumed
    have hmember : g.hash = member.fixture.genesisHash := of_decide_eq_true hhash
    have hknown := hheld g hsome
    have hholds := hknown.holds
    obtain ⟨s, hs, hgenesis, ⟨hstarted, houtput⟩, hgrown⟩ := hknown
    obtain ⟨hnetwork, hheader⟩ := hdetached.genesis_eq s hs (hgenesis.trans hmember)
    have hself : g.hash = member.fixture.genesis.hash :=
      hstarted.trans (Header.hash_eq hheader)
    rw [hmember, hnetwork] at hgrown
    have hcovers := hgrown.covers hheader
      (by rw [← hself, hmember]; exact hdetached.genesis_free) hdetached.parent_free
    rw [← hself] at hcovers
    refine BlockRun.run_covered h hc ⟨hself, houtput⟩ hcovers hholds ?_ n
    rw [← hself, hmember]
    exact hdetached.rooted

lemma runFrom_cons (hc : terms.cancelAt = none) {target : BlockTarget (TransitionChain × ω)}
    (member : Member) (rest : List Member) (held : Option Genesis)
    (hrun : BlockRun.run terms member.fixture pre target
      (held.filter fun g => g.hash = member.fixture.genesisHash) m = (verdict, final)) :
    (runFrom terms pre target (member :: rest) held m).1 =
      member.result (.ok verdict) ::
        (runFrom terms pre target rest (if verdict.poisonsClient then none else final.genesis)
          final.moment).1 := by
  have hnot : ¬isCancelled terms.cancelAt m.now = true := by
    rw [hc]
    exact Bool.false_ne_true
  change ((if isCancelled terms.cancelAt m.now then _ else _ : StateM _ _) m).1 = _
  rw [if_neg hnot, ← show _ = verdict from congrArg Prod.fst hrun,
    ← show _ = final from congrArg Prod.snd hrun]
  rfl

end Member

/-- The members of a group are run one after another on a chain of which no more is known than
what the members before them leave. -/
lemma runFrom_detached (h : tool.Answers execute) (hc : terms.cancelAt = none) (hash : Hash)
    (before members : List Member)
    (hchain : ∀ s ∈ ((before ++ members).filter (·.groupHash? = some hash)).head?,
      s.chainId = chainId)
    {held : Option Genesis} {m : Moment (TransitionChain × ω)}
    (hheld : ∀ g, held = some g →
      HeldBy execute chainId pre (before.filter (·.groupHash? = some hash)) g m.state.1) :
    List.Forall₂ (Member.Gets fun member r => ∀ n : Moment (TransitionChain × ω),
        r = member.result (.ok (BlockRun.run terms member.fixture pre
          (TransitionChain.target tool member.chainId) none n).1))
      ((Member.eachAfter before members).filter (·.2.groupHash? = some hash))
      (runFrom terms pre (TransitionChain.target tool chainId)
        (members.filter (·.groupHash? = some hash)) held m).1 := by
  -- By induction on the members of all groups: each one is judged by those before it, and those
  -- of other groups leave the chain as it is.
  induction members generalizing before held m with
  | nil => exact .nil
  | cons member rest ih =>
    have hrest : before ++ member :: rest = (before ++ [member]) ++ rest := by
      rw [List.append_assoc]
      rfl
    rw [hrest] at hchain
    by_cases hmember : member.groupHash? = some hash
    · have hbefore : (before ++ [member]).filter (·.groupHash? = some hash) =
          before.filter (·.groupHash? = some hash) ++ [member] := by
        simp only [List.filter_append, List.filter_cons, hmember, decide_true, if_true,
          List.filter_nil]
      have hsiblings : member.siblings before = before.filter (·.groupHash? = some hash) := by
        simp only [Member.siblings, hmember]
      simp only [Member.eachAfter, List.filter_cons, hmember, decide_true, if_true]
      generalize hrun : BlockRun.run terms member.fixture pre
        (TransitionChain.target tool chainId)
        (held.filter fun g => g.hash = member.fixture.genesisHash) m = outcome
      obtain ⟨verdict, final⟩ := outcome
      rw [runFrom_cons hc _ _ _ hrun]
      refine .cons ⟨rfl, rfl, fun hdetached n => ?_⟩ (ih _ hchain fun g hg => ?_)
      · rw [hsiblings] at hdetached
        have hchainId : chainId = member.chainId := by
          rw [List.filter_append, hbefore, List.append_assoc] at hchain
          cases hfirst : before.filter (·.groupHash? = some hash) with
          | nil =>
            rw [hfirst] at hchain
            exact (hchain member rfl).symm
          | cons s siblings =>
            rw [hfirst] at hchain hdetached
            exact (hchain s rfl).symm.trans (hdetached.chainId_eq s rfl)
        rw [← hchainId, ← verdict_detached h hc hheld hrun hdetached n]
      · rw [hbefore]
        cases hpoisons : verdict.poisonsClient with
        | true =>
          rw [hpoisons, if_pos rfl] at hg
          cases hg
        | false =>
          rw [hpoisons, if_neg Bool.false_ne_true] at hg
          exact HeldBy.run h hc hheld hrun g hg
    · have hbefore : (before ++ [member]).filter (·.groupHash? = some hash) =
          before.filter (·.groupHash? = some hash) := by
        simp only [List.filter_append, List.filter_cons, hmember, decide_false,
          Bool.false_eq_true, if_false, List.filter_nil, List.append_nil]
      simp only [Member.eachAfter, List.filter_cons, hmember, decide_false, Bool.false_eq_true,
        if_false]
      exact ih _ hchain (by rw [hbefore]; exact hheld)

/-- The members of a group that are detached from those before them get the verdicts that they
get alone. -/
theorem run_detached (h : tool.Answers execute) (hc : terms.cancelAt = none) (pre : Alloc)
    (hash : Hash) {members : List Member}
    (hchain : ∀ s ∈ (members.filter (·.groupHash? = some hash)).head?, s.chainId = chainId)
    (m : Moment (TransitionChain × ω)) :
    List.Forall₂ (Member.Gets fun member r => ∀ n : Moment (TransitionChain × ω),
        r = member.result (.ok (BlockRun.run terms member.fixture pre
          (TransitionChain.target tool member.chainId) none n).1))
      ((Member.eachAfter [] members).filter (·.2.groupHash? = some hash))
      (run terms pre (TransitionChain.target tool chainId)
        (members.filter (·.groupHash? = some hash)) m).1 :=
  runFrom_detached h hc hash [] members hchain nofun

end BlockGroup

end ChainConformance
