import ChainConformance.Proofs.BlockRecords
import ChainConformance.Proofs.ChainRoots
import ChainConformance.Proofs.HexCodec

/-!
# Where grouped fixtures start

The fixtures of a group are run on one chain, and a run remembers the genesis block that it leaves
on the chain. What is remembered is there: it is at the root of the chain, with the state of the
group. Every fixture starts from there, whatever became of the fixtures before it.
-/

namespace ChainConformance

variable {ω : Type}

def FixtureBlock.headers (bs : List FixtureBlock) : List Header :=
  bs.filterMap fun b => (BlockRun.decoded b).toOption.map (·.1.header)

def Member.headers (members : List Member) : List Header :=
  members.flatMap fun m => FixtureBlock.headers m.fixture.blocks

lemma FixtureBlock.mem_headers {bs : List FixtureBlock} {b : FixtureBlock} {block : Block}
    {raw : Bytes} (hb : b ∈ bs) (h : BlockRun.decoded b = .ok (block, raw)) :
    block.header ∈ headers bs :=
  List.mem_filterMap.mpr ⟨b, hb, by rw [h]; rfl⟩

lemma FixtureBlock.headers_single {b : FixtureBlock} {block : Block} {raw : Bytes}
    (h : BlockRun.decoded b = .ok (block, raw)) : headers [b] = [block.header] := by
  rw [headers, List.filterMap_cons, h]
  rfl

lemma BlockRun.decode_of_decoded {b : FixtureBlock} {block : Block} {raw : Bytes}
    (h : decoded b = .ok (block, raw)) : Block.decode raw = .ok block := by
  obtain ⟨raw', -, h⟩ := bind_eq_ok.mp h
  obtain ⟨block', hblock, h⟩ := bind_eq_ok.mp h
  cases h
  cases hdecode : Block.decode raw with
  | error e =>
    rw [hdecode] at hblock
    cases hblock
  | ok block' =>
    rw [hdecode] at hblock
    cases hblock
    rfl

namespace BlockCall

def given? {σ : Type} : BlockCall σ → Option σ
  | apply _ _ on _ => some on
  | _ => none

def firstGiven? {σ : Type} (calls : List (BlockCall σ)) : Option σ := calls.findSome? given?

end BlockCall

namespace TransitionChain

/-- What was called on a chain, and what came of it. -/
abbrev Record (ω : Type) := List (BlockCall (TransitionChain × ω))

/-- The head of the chain is the block with the given hash, and the state there is the given
one. -/
def IsAt (hash : Hash) (pre : Alloc) (c : TransitionChain) : Prop :=
  c.head = hash ∧ ∃ b, c.blocks.get? c.head = some b ∧ b.alloc = pre

/-- Of all calls on a chain, none sets it back to a block that it does not hold, and the first
block is given when the chain is at a genesis block with a state. -/
structure FromGenesis (hash : Hash) (pre : Alloc) (calls : Record ω) : Prop where
  reset : ∀ target s answer, .resetTo target s answer ∈ calls →
    s.1.Holds target ∧ answer = some (.ok ())
  given : ∀ s, BlockCall.firstGiven? calls = some s → s.1.IsAt hash pre

lemma start_answered {tool : TransitionTool ω} {chainId : Word} {fork : Fork} {pre : Alloc}
    {genesis : Header} {limit : Option Nat} {s : TransitionChain × ω} {g : Genesis}
    (h : (start tool chainId fork pre genesis limit s).answer = some (.ok g)) :
    g.hash = genesis.hash ∧
      (start tool chainId fork pre genesis limit s).state.1 = ofGenesis fork pre genesis := by
  obtain ⟨c, w⟩ := s
  rw [start_eq] at h ⊢
  unfold upon at h ⊢
  generalize (tool (Transition.idleInput pre) ⟨.frontier, chainId, none⟩ limit w).answer = answer
    at h ⊢
  rcases answer with _ | e | output <;> cases h
  exact ⟨rfl, rfl⟩

section FromGenesis

variable {hash : Hash} {pre : Alloc} {calls : Record ω}

lemma FromGenesis.nil : FromGenesis hash pre ([] : Record ω) where
  reset _ _ _ hmem := absurd hmem List.not_mem_nil
  given _ hs := by cases hs

lemma FromGenesis.snoc (h : FromGenesis hash pre calls)
    {call : BlockCall (TransitionChain × ω)}
    (reset : ∀ target s answer, call = .resetTo target s answer →
      s.1.Holds target ∧ answer = some (.ok ()))
    (given : ∀ s, call.given? = some s → BlockCall.firstGiven? calls = none →
      s.1.IsAt hash pre) : FromGenesis hash pre (calls ++ [call]) where
  reset target s answer hmem := by
    rcases List.mem_append.mp hmem with hmem | hmem
    · exact h.reset target s answer hmem
    · exact reset target s answer (List.mem_singleton.mp hmem).symm
  given s hs := by
    rw [BlockCall.firstGiven?, List.findSome?_append] at hs
    rcases Option.or_eq_some_iff.mp hs with hs | ⟨hnone, hs⟩
    · exact h.given s hs
    · exact given s (by simpa using hs) hnone

lemma fromGenesis_start (fork : Fork) (state : Alloc) (genesis : Header)
    (s : TransitionChain × ω) (answer : Option (FaultOr Genesis)) :
    FromGenesis hash pre [.start fork state genesis s answer] :=
  FromGenesis.nil.snoc (by rintro _ _ _ ⟨⟩) (by rintro _ ⟨⟩)

lemma fromGenesis_resetTo {target : Hash} {s : TransitionChain × ω} (h : s.1.Holds target) :
    FromGenesis hash pre [.resetTo target s (some (.ok ()))] := by
  refine FromGenesis.nil.snoc ?_ (by rintro _ ⟨⟩)
  rintro _ _ _ ⟨⟩
  exact ⟨h, rfl⟩

end FromGenesis

section Run

variable {tool : TransitionTool ω} {chainId : Word} {headers : List Header} {genesis : Header}
  {pre : Alloc} {record : Record ω}

/-- A run has been at its genesis block, which is still at the root of the chain, and has added
its calls to a record. -/
structure Underway (headers : List Header) (genesis : Header) (pre : Alloc)
    (record : Record ω) (p : (TransitionChain × ω) × Record ω) : Prop where
  rooted : Rooted headers genesis pre p.1.1
  made : ∃ calls, p.2 = record ++ calls ∧ FromGenesis genesis.hash pre calls ∧
    (BlockCall.firstGiven? calls = none → p.1.1.IsAt genesis.hash pre)

lemma keeps_apply (hacyclic : Header.Acyclic headers) {block : Block}
    (hheader : block.header ∈ headers) (hhash : block.hash = block.header.hash) (raw : Bytes) :
    ((target tool chainId).recorded.apply block raw).Keeps
      (Underway headers genesis pre record) := by
  rintro limit ⟨⟨c, w⟩, _⟩ ⟨hrooted, calls, rfl, hcalls, hat⟩
  refine ⟨hrooted.apply hacyclic hheader hhash tool chainId limit w, calls ++ [_],
    List.append_assoc .., hcalls.snoc (by rintro _ _ _ ⟨⟩) fun s hs hnone => ?_, fun hnone => ?_⟩
  · cases hs
    exact hat hnone
  · rw [BlockCall.firstGiven?, List.findSome?_append, Option.or_eq_none_iff] at hnone
    cases hnone.2

lemma keeps_readState (hint : Alloc) :
    ((target tool chainId).recorded.readState hint).Keeps
      (Underway headers genesis pre record) := by
  rintro limit ⟨⟨c, w⟩, _⟩ ⟨hrooted, calls, rfl, hcalls, hat⟩
  refine ⟨hrooted, calls ++ [_], List.append_assoc ..,
    hcalls.snoc (by rintro _ _ _ ⟨⟩) (by rintro _ ⟨⟩), fun hnone => ?_⟩
  rw [BlockCall.firstGiven?, List.findSome?_append, Option.or_eq_none_iff] at hnone
  exact hat hnone.1

/-- The genesis block that is remembered, if any, is at the root of the chain with the state of
the group. -/
def Remembers (headers : List Header) (pre : Alloc) (held : Option Genesis)
    (c : TransitionChain) : Prop :=
  ∀ g, held = some g → ∃ genesis : Header, genesis.hash = g.hash ∧ Rooted headers genesis pre c

lemma Rooted.isAt {c : TransitionChain} (h : Rooted headers genesis pre c)
    (hhead : c.head = genesis.hash) : c.IsAt genesis.hash pre :=
  ⟨hhead, _, hhead ▸ h.genesis_held, rfl⟩

lemma Underway.begun {p : (TransitionChain × ω) × Record ω}
    {call : BlockCall (TransitionChain × ω)} (hrooted : Rooted headers genesis pre p.1.1)
    (hhead : p.1.1.head = genesis.hash) (hrecord : p.2 = record ++ [call])
    (hcall : FromGenesis genesis.hash pre [call]) : Underway headers genesis pre record p :=
  ⟨hrooted, [call], hrecord, hcall, fun _ => hrooted.isAt hhead⟩

lemma begin_made (tool : TransitionTool ω) (chainId : Word) (f : Fixture)
    {resumed : Option Genesis} {s : TransitionChain × ω} (hheld : Remembers headers pre resumed s.1)
    (record : Record ω) (limit : Option Nat) :
    let a := BlockRun.begin f pre (target tool chainId).recorded resumed limit (s, record)
    (∃ calls, a.state.2 = record ++ calls ∧ FromGenesis f.genesisHash pre calls) ∧
    ∀ g, a.answer = some (.ok g) →
      ∃ genesis : Header, genesis.hash = g.hash ∧ Underway headers genesis pre record a.state := by
  cases resumed with
  | none =>
    let made := start tool chainId f.network pre f.genesis limit s
    let call : BlockCall (TransitionChain × ω) :=
      .start f.network pre f.genesis s made.answer
    have hbegin : BlockRun.begin f pre (target tool chainId).recorded none limit (s, record) =
        ⟨made.answer, made.elapsed, (made.state, record ++ [call])⟩ := rfl
    rw [hbegin]
    refine ⟨⟨[call], rfl, fromGenesis_start ..⟩, fun g hg => ?_⟩
    obtain ⟨hgenesis, hchain⟩ := start_answered hg
    refine ⟨f.genesis, hgenesis.symm, .begun ?_ ?_ rfl (fromGenesis_start ..)⟩
    · exact hchain ▸ rooted_ofGenesis ..
    · exact congrArg TransitionChain.head hchain
  | some g =>
    obtain ⟨genesis, hgenesis, hrooted⟩ := hheld g rfl
    have hholds : s.1.Holds g.hash := hgenesis ▸ hrooted.holds
    let call : BlockCall (TransitionChain × ω) := .resetTo g.hash s (some (.ok ()))
    have hreset : (target tool chainId).recorded.resetTo g.hash limit (s, record) =
        ⟨some (.ok ()), 0, (({ s.1 with head := g.hash }, s.2), record ++ [call])⟩ := by
      have hrevised : (target tool chainId).resetTo g.hash limit s =
          ⟨some (resetTo g.hash s.1).1, 0, ((resetTo g.hash s.1).2, s.2)⟩ := rfl
      rw [resetTo_of_holds hholds] at hrevised
      change Call.logged _ _ limit (s, record) = _
      unfold Call.logged
      rw [hrevised]
    have hbegin : BlockRun.begin f pre (target tool chainId).recorded (some g) limit (s, record) =
        ⟨some (.ok g), 0, (({ s.1 with head := g.hash }, s.2), record ++ [call])⟩ := by
      have hanswer : ((target tool chainId).recorded.resetTo g.hash limit (s, record)).answer =
          some (.ok ()) := by rw [hreset]
      refine (Call.bind_answered hanswer).trans ?_
      rw [hreset]
      rfl
    rw [hbegin]
    refine ⟨⟨[call], rfl, fromGenesis_resetTo hholds⟩, fun g' hg' => ?_⟩
    cases hg'
    exact ⟨genesis, hgenesis,
      .begun (hrooted.withHead _) hgenesis.symm rfl (fromGenesis_resetTo hholds)⟩

section Moments

variable (tool chainId) {terms : Terms} {f : Fixture} {resumed : Option Genesis}
  {m : Moment ((TransitionChain × ω) × Record ω)}

lemma underway_of_verifies (hheld : Remembers headers pre resumed m.state.1.1) {g : Genesis}
    {m₁ : Moment ((TransitionChain × ω) × Record ω)}
    (h : BlockRun.Verifies terms f pre (target tool chainId).recorded resumed m g m₁) :
    ∃ genesis : Header, genesis.hash = f.genesisHash ∧
      Underway headers genesis pre m.state.2 m₁.state := by
  have hanswer := h.answer
  rcases Moment.guarded_made (BlockRun.begin f pre (target tool chainId).recorded resumed)
    terms.cancelAt terms.callTimeout m with hcancelled | ⟨limit, hstate, hmade⟩
  · cases hcancelled.symm.trans hanswer
  · rw [hanswer] at hstate hmade
    obtain ⟨genesis, hgenesis, hunderway⟩ :=
      (begin_made tool chainId f hheld m.state.2 limit).2 g (hmade _ rfl)
    rw [show m₁.state = _ from hstate]
    exact ⟨genesis, hgenesis.trans h.hash_eq, hunderway⟩

lemma calls_of_begin (hheld : Remembers headers pre resumed m.state.1.1) :
    ∃ calls, (m.guarded terms.cancelAt terms.callTimeout
        (BlockRun.begin f pre (target tool chainId).recorded resumed)).2.state.2 =
      m.state.2 ++ calls ∧ FromGenesis f.genesisHash pre calls := by
  rcases Moment.guarded_made (BlockRun.begin f pre (target tool chainId).recorded resumed)
    terms.cancelAt terms.callTimeout m with hcancelled | ⟨limit, hstate, -⟩
  · rw [hcancelled]
    exact ⟨[], (List.append_nil _).symm, .nil⟩
  · rw [hstate]
    exact (begin_made tool chainId f hheld m.state.2 limit).1

variable (terms f) in
lemma run_made (hacyclic : Header.Acyclic headers)
    (hblocks : FixtureBlock.headers f.blocks ⊆ headers)
    (hheld : Remembers headers pre resumed m.state.1.1) :
    let ended := BlockRun.run terms f pre (target tool chainId).recorded resumed m
    (∃ calls, ended.2.moment.state.2 = m.state.2 ++ calls ∧
      FromGenesis f.genesisHash pre calls) ∧
    Remembers headers pre ended.2.genesis ended.2.moment.state.1.1 := by
  intro ended
  rcases BlockRun.run_cases terms f pre (target tool chainId).recorded resumed m with
    ⟨g, m₁, hverifies, hrun⟩ | ⟨-, e, hrun⟩
  · -- The run is at its genesis block, and none of its further calls changes the root.
    obtain ⟨genesis, hgenesis, hunderway⟩ := underway_of_verifies tool chainId hheld hverifies
    obtain ⟨m₂, ps, ⟨hrooted, calls, hrecord, hcalls, -⟩, hchain⟩ :=
      BlockRun.chain_keeps terms f pre
        (fun b hb block raw hdecoded => keeps_apply hacyclic
          (hblocks (FixtureBlock.mem_headers hb hdecoded))
          (Block.header_of_decode (BlockRun.decode_of_decoded hdecoded)).1 raw)
        (fun hint => keeps_readState hint) (BlockRun.genesisTip f g)
        (r := BlockRun.verified f m₁ g) hunderway
    have hended : ended = _ := hrun
    rw [hended, BlockRun.concluded, hchain]
    refine ⟨⟨calls, hrecord, hgenesis ▸ hcalls⟩, fun g' hg' => ?_⟩
    cases hg'
    exact ⟨genesis, hgenesis.trans hverifies.hash_eq.symm, hrooted⟩
  · have hended : ended = _ := hrun
    rw [hended]
    exact ⟨calls_of_begin tool chainId hheld, nofun⟩

end Moments

end Run

end TransitionChain

/-! ### Groups -/

namespace BlockGroup

section Append

variable {σ : Type} {terms : Terms} {pre : Alloc} {target : BlockTarget σ}
  {I : Option Genesis → σ → Prop}

/-- The loop over the members goes on, after some of them, with a genesis block and a state of
which the same is known as at its beginning. -/
lemma runFrom_append {before : List Member}
    (step : ∀ member ∈ before, ∀ held m, I held m.state →
      let ended := BlockRun.run terms member.fixture pre target
        (held.filter fun g => g.hash = member.fixture.genesisHash) m
      I (if ended.1.poisonsClient then none else ended.2.genesis) ended.2.moment.state)
    {held : Option Genesis} {m : Moment σ} (h : I held m.state) :
    ∃ held', I held' ((runFrom terms pre target before held).run m).2.state ∧
      ∀ rest, ((runFrom terms pre target (before ++ rest) held).run m).2 =
        ((runFrom terms pre target rest held').run
          ((runFrom terms pre target before held).run m).2).2 := by
  induction before generalizing held m with
  | nil => exact ⟨held, h, fun _ => rfl⟩
  | cons member before ih =>
    obtain ⟨hfirst, hothers⟩ := List.forall_mem_cons.mp step
    simp only [List.cons_append, run_runFrom_cons]
    by_cases hcancelled : isCancelled terms.cancelAt m.now
    · simp only [if_pos hcancelled]
      refine ⟨held, h, fun rest => ?_⟩
      cases rest with
      | nil => rfl
      | cons next rest => rw [run_runFrom_cons, if_pos hcancelled]
    · simp only [if_neg hcancelled]
      exact ih hothers (hfirst held m h)

end Append

variable {ω : Type}

/-- The calls that are made on a chain in running a group. -/
def callsOf (tool : TransitionTool ω) (chainId : Word) (terms : Terms) (pre : Alloc)
    (members : List Member) (m : Moment (TransitionChain × ω)) : TransitionChain.Record ω :=
  (run terms pre (TransitionChain.target tool chainId).recorded members
    (⟨m.now, m.state, []⟩ : Moment (_ × TransitionChain.Record ω))).2.state.2

/-- Whatever a tool answers, and whenever a group is cancelled, every member has one result, in
the order of the members. The calls of a member come after those of the members before it. No
member is set back to a block that is not held, and the first block of a member is given when the
head of the chain is the genesis block of the member, with the state of the group. -/
theorem run_from_genesis (tool : TransitionTool ω) (chainId : Word) (terms : Terms) (pre : Alloc)
    (members : List Member) (hacyclic : Header.Acyclic (Member.headers members))
    (m : Moment (TransitionChain × ω)) :
    (run terms pre (TransitionChain.target tool chainId) members m).1.map CaseResult.title =
        members.map Member.title ∧
    run terms pre (TransitionChain.target tool chainId) members m =
      Prod.map id (Moment.map Prod.fst)
        (run terms pre (TransitionChain.target tool chainId).recorded members
          (⟨m.now, m.state, []⟩ : Moment (_ × TransitionChain.Record ω))) ∧
    ∀ before member rest, members = before ++ member :: rest → ∃ calls later,
      callsOf tool chainId terms pre (before ++ [member]) m =
        callsOf tool chainId terms pre before m ++ calls ∧
      callsOf tool chainId terms pre members m =
        callsOf tool chainId terms pre before m ++ calls ++ later ∧
      TransitionChain.FromGenesis member.fixture.genesisHash pre calls := by
  refine ⟨runFrom_titles terms pre _ members none m, run_recorded terms pre _ members m [], ?_⟩
  rintro before member rest rfl
  let headers := Member.headers (before ++ member :: rest)
  let I (held : Option Genesis) (p : (TransitionChain × ω) × TransitionChain.Record ω) : Prop :=
    TransitionChain.Remembers headers pre held p.1.1
  -- What is remembered of a chain between two members is its genesis block with the group's state.
  have hrun : ∀ member' ∈ before ++ member :: rest, ∀ held m, I held m.state →
      let ended := BlockRun.run terms member'.fixture pre
        (TransitionChain.target tool chainId).recorded
        (held.filter fun g => g.hash = member'.fixture.genesisHash) m
      (∃ calls, ended.2.moment.state.2 = m.state.2 ++ calls ∧
        TransitionChain.FromGenesis member'.fixture.genesisHash pre calls) ∧
      I ended.2.genesis ended.2.moment.state := by
    intro member' hmember held m hheld
    refine TransitionChain.run_made tool chainId terms member'.fixture hacyclic ?_ ?_
    · exact fun x hx => List.mem_flatMap.mpr ⟨member', hmember, hx⟩
    · exact fun g hg => hheld g (Option.filter_eq_some_iff.mp hg).1
  have hstep : ∀ member' ∈ before, ∀ held m, I held m.state →
      let ended := BlockRun.run terms member'.fixture pre
        (TransitionChain.target tool chainId).recorded
        (held.filter fun g => g.hash = member'.fixture.genesisHash) m
      I (if ended.1.poisonsClient then none else ended.2.genesis) ended.2.moment.state := by
    intro member' hmember held m hheld ended
    split
    next => exact nofun
    next => exact (hrun member' (List.mem_append_left _ hmember) held m hheld).2
  let m₀ : Moment ((TransitionChain × ω) × TransitionChain.Record ω) :=
    ⟨m.now, m.state, []⟩
  have hnone : I none m₀.state := nofun
  obtain ⟨held, hheld, hrest⟩ := runFrom_append hstep hnone
  let target (_ : Nat) := (TransitionChain.target tool chainId).recorded
  let m₁ := ((runFrom terms pre target before none).run m₀).2
  have hafter : ∀ rest, callsOf tool chainId terms pre (before ++ rest) m =
      ((runFrom terms pre target rest held).run m₁).2.state.2 :=
    fun rest => congrArg (·.state.2) (hrest rest)
  have hbefore : callsOf tool chainId terms pre before m = m₁.state.2 := rfl
  rw [hafter, hafter, hbefore, run_runFrom_cons, run_runFrom_cons]
  by_cases hcancelled : isCancelled terms.cancelAt m₁.now
  · simp only [if_pos hcancelled]
    exact ⟨[], [], by simp, by simp, .nil⟩
  · simp only [if_neg hcancelled]
    obtain ⟨⟨calls, hrecord, hcalls⟩, -⟩ :=
      hrun member (List.mem_append_right _ List.mem_cons_self) held m₁ hheld
    let ended := BlockRun.run terms member.fixture pre target
      (held.filter fun g => g.hash = member.fixture.genesisHash) m₁
    obtain ⟨later, hlater⟩ := runFrom_extends terms pre (TransitionChain.target tool chainId) rest
      (if ended.1.poisonsClient then none else ended.2.genesis) ended.2.moment
    refine ⟨calls, later, hrecord, ?_, hcalls⟩
    rw [← hrecord]
    exact hlater.symm

def second : FixtureBlock where
  rlp := Hex.encode (TransitionChain.secondBlock []).encode
  header := none
  uncles := none
  withdrawals := none
  expected := none

lemma headers_second : FixtureBlock.headers [second] = [TransitionChain.secondHeader] := by
  have hwritten : second.rlp = Hex.encode (TransitionChain.secondBlock []).encode := by
    unfold second
    rfl
  exact FixtureBlock.headers_single (decoded_encoded hwritten
    (TransitionChain.decode_second TransitionChain.size_empty))

def brief : Fixture :=
  { BlockRun.garbled with network := .frontier, genesis := default, blocks := [second] }

theorem run_from_genesis_twice :
    let early : Member := ⟨"early", "early", brief⟩
    let late : Member := ⟨"late", "late", brief⟩
    let calls (members : List Member) := callsOf (TransitionChain.rootlessTool fun _ => .empty) 1
      { mapper := .empty, client := "client" } .empty members ⟨0, ({}, ())⟩
    Header.Acyclic (Member.headers [early, late]) ∧ ∃ later,
      calls [early, late] = calls [early] ++ later ∧
      TransitionChain.FromGenesis brief.genesisHash .empty later := by
  intro early late calls
  have hheaders : Member.headers [early, late] =
      [TransitionChain.secondHeader, TransitionChain.secondHeader] := by
    simp only [Member.headers, List.flatMap_cons, List.flatMap_nil, early, late, brief,
      headers_second]
    rfl
  have hacyclic : Header.Acyclic (Member.headers [early, late]) := by
    rw [hheaders]
    exact (TransitionChain.separated_of_subset (by simp)).acyclic
  obtain ⟨later, -, hcalls, -, hstart⟩ := (run_from_genesis
    (TransitionChain.rootlessTool fun _ => .empty) 1 { mapper := .empty, client := "client" }
    .empty [early, late] hacyclic ⟨0, ({}, ())⟩).2.2 [early] late [] rfl
  exact ⟨hacyclic, later, hcalls, hstart⟩

end BlockGroup

end ChainConformance
