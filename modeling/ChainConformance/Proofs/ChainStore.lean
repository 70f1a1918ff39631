import ChainConformance.Proofs.BlockCodec
import ChainConformance.Proofs.ChainCover
import ChainConformance.Proofs.KeccakNumber
import ChainConformance.Proofs.OrderedMaps
import Mathlib.Logic.Relation

/-!
# What a computed chain holds

Whatever calls are made on a chain that has been started, in whatever order and with whatever
success: every block that it holds follows another one that it holds and has the state that
the tool makes of that of the other, down to the genesis block with the state that was given.
What it holds stays as it is until it is started again.
-/

namespace ChainConformance

variable {ω : Type}

/-- A tool that gives one answer to one question, if it gives any. -/
def TransitionTool.Repeats (tool : TransitionTool ω)
    (execute : TransitionInput → TransitionOptions → FaultOr TransitionOutput) : Prop :=
  ∀ input options limit w a, (tool input options limit w).answer = some a →
    a = execute input options

namespace Header

/-- One of the headers has the first hash and names the second for its parent. -/
def Follows (headers : List Header) (hash parentHash : Hash) : Prop :=
  ∃ h ∈ headers, h.hash = hash ∧ h.parentHash = parentHash

/-- The hashes of the headers tell them apart, and no header comes before itself. -/
structure Separated (headers : List Header) : Prop where
  inj : ∀ h ∈ headers, ∀ h' ∈ headers, h.hash = h'.hash → h.encode = h'.encode
  acyclic : ∀ hash, ¬Relation.TransGen (Follows headers) hash hash

lemma acyclic_of_rank {headers : List Header} (rank : Hash → Nat)
    (h : ∀ x ∈ headers, rank x.parentHash < rank x.hash) (hash : Hash) :
    ¬Relation.TransGen (Follows headers) hash hash := by
  have hstep : ∀ a b, Follows headers a b → rank b < rank a := by
    rintro a b ⟨x, hx, rfl, rfl⟩
    exact h x hx
  have hpath : ∀ {a b}, Relation.TransGen (Follows headers) a b → rank b < rank a := by
    intro a b hab
    induction hab with
    | single hab => exact hstep _ _ hab
    | tail _ hbc ih => exact (hstep _ _ hbc).trans ih
  exact fun hcycle => Nat.lt_irrefl _ (hpath hcycle)

end Header

namespace Block

/-- A block that is decoded has the hash of its header, which its encoding tells in full. -/
lemma header_of_decode {raw : Bytes} {b : Block} (h : decode raw = .ok b) :
    b.hash = b.header.hash ∧ b.header.Canonical ∧ Rlp.Statable b.header.encodeFields.length := by
  obtain ⟨l, canonical, rfl, -⟩ := decode_eq_ok.mp h
  exact ⟨rfl, canonical.header, (Layout.statable_parts canonical.size).1⟩

lemma header_inj {raw raw' : Bytes} {b b' : Block} (h : decode raw = .ok b)
    (h' : decode raw' = .ok b') (hencode : b.header.encode = b'.header.encode) :
    b.header = b'.header :=
  (Header.exact_header.inj (header_of_decode h).2 (header_of_decode h').2
    (congrArg (· ++ []) hencode)).1

end Block

/-- A call on a chain. The blocks that it is given have been decoded. -/
inductive ChainCall where
  | start (fork : Fork) (pre : Alloc) (genesis : Header)
  | apply (raw : Bytes) (b : Block) (decoded : Block.decode raw = .ok b)
  | readState (hint : Alloc)
  | resetTo (hash : Hash)

namespace ChainCall

def block? : ChainCall → Option Block
  | apply _ b _ => some b
  | _ => none

/-- The blocks that are given with calls. -/
def blocks (calls : List ChainCall) : List Block := calls.filterMap block?

lemma decoded_of_mem {calls : List ChainCall} {b : Block} (h : b ∈ blocks calls) :
    ∃ raw, Block.decode raw = .ok b := by
  obtain ⟨call, _, hb⟩ := List.mem_filterMap.mp h
  cases call with
  | apply raw b' decoded =>
    obtain rfl := Option.some.inj hb
    exact ⟨raw, decoded⟩
  | start | readState | resetTo => cases hb

variable {σ : Type} (target : BlockTarget σ)

def after (limit : Option Nat) (s : σ) : ChainCall → σ
  | start fork pre genesis => (target.start fork pre genesis limit s).state
  | apply raw b _ => (target.apply b raw limit s).state
  | readState hint => (target.readState hint limit s).state
  | resetTo hash => (target.resetTo hash limit s).state

def Restarts (limit : Option Nat) (s : σ) : ChainCall → Prop
  | start fork pre genesis => ∃ g, (target.start fork pre genesis limit s).answer = some (.ok g)
  | _ => False

/-- Calls are made one after another, and none of them starts the chain again. -/
inductive Continues : List ChainCall → σ → σ → Prop
  | nil (s : σ) : Continues [] s s
  | cons {call : ChainCall} {calls : List ChainCall} {s s' : σ} (limit : Option Nat)
      (continues : ¬call.Restarts target limit s)
      (others : Continues calls (call.after target limit s) s') : Continues (call :: calls) s s'

end ChainCall

namespace TransitionChain

variable {tool : TransitionTool ω}
  {execute : TransitionInput → TransitionOptions → FaultOr TransitionOutput} {chainId : Word}

/-- The tool makes a state of that of the parent by executing the block, and the chain has
nothing against what it reports. -/
def Executed (execute : TransitionInput → TransitionOptions → FaultOr TransitionOutput)
    (chainId : Word) (c : TransitionChain) (parent : StoredBlock) (b : Block) (alloc : Alloc) :
    Prop :=
  ∃ output, execute (c.task chainId b parent).1 (c.task chainId b parent).2 = .ok output ∧
    refusal? b.header output.result = none ∧ output.alloc = alloc

/-- Blocks with one header that a chain could take over leave it one state. -/
def Consistent (execute : TransitionInput → TransitionOptions → FaultOr TransitionOutput)
    (chainId : Word) (blocks : List Block) : Prop :=
  ∀ b ∈ blocks, ∀ b' ∈ blocks, b.header = b'.header →
    ∀ c parent, parentFor c b.header = .ok parent →
      ∀ alloc alloc', Executed execute chainId c parent b alloc →
        Executed execute chainId c parent b' alloc' → alloc = alloc'

lemma apply_after (hrepeats : tool.Repeats execute) (chainId : Word) (b : Block)
    (limit : Option Nat) (s : TransitionChain × ω) :
    (apply tool chainId b limit s).state.1 = s.1 ∨
    ∃ parent alloc, s.1.parentFor b.header = .ok parent ∧
      Executed execute chainId s.1 parent b alloc ∧
      (apply tool chainId b limit s).state.1 = s.1.extended b alloc := by
  obtain ⟨c, w⟩ := s
  rcases apply_cases tool chainId limit c w b with ⟨parent, output, himports⟩ | ⟨-, hsame⟩
  · exact .inr ⟨parent, output.alloc, himports.follows,
      ⟨output, (hrepeats _ _ _ _ _ himports.ran).symm, himports.agrees, rfl⟩, himports.accepted.2⟩
  · exact .inl hsame

lemma start_after (tool : TransitionTool ω) (chainId : Word) (fork : Fork) (pre : Alloc)
    (genesis : Header) (limit : Option Nat) (s : TransitionChain × ω) :
    (∃ g, (start tool chainId fork pre genesis limit s).answer = some (.ok g) ∧
      (start tool chainId fork pre genesis limit s).state.1 = ofGenesis fork pre genesis) ∨
    (∀ g, (start tool chainId fork pre genesis limit s).answer ≠ some (.ok g)) ∧
      (start tool chainId fork pre genesis limit s).state.1 = s.1 := by
  obtain ⟨c, w⟩ := s
  rw [start_eq]
  unfold upon
  rcases (tool (Transition.idleInput pre) ⟨.frontier, chainId, none⟩ limit w).answer with
    _ | e | output
  · exact .inr ⟨nofun, rfl⟩
  · exact .inr ⟨nofun, rfl⟩
  · exact .inl ⟨_, rfl, rfl⟩

/-! ### What is held -/

/-- A stored block that is not the first: one of the blocks that were given, which follows
another stored block and has the state that the tool makes of that of the other. -/
structure Child (execute : TransitionInput → TransitionOptions → FaultOr TransitionOutput)
    (chainId : Word) (blocks : List Block) (c : TransitionChain) (hash : Hash)
    (stored : StoredBlock) (b : Block) (parent : StoredBlock) : Prop where
  given : b ∈ blocks
  hash_eq : b.hash = hash
  header_eq : b.header = stored.header
  follows : c.blocks.get? b.header.parentHash = some parent
  number_eq : b.header.number = parent.header.number + 1
  later : parent.header.timestamp < b.header.timestamp
  executed : Executed execute chainId c parent b stored.alloc

/-- A chain that holds the genesis block with the state that was given for it, and beside it
children of what it holds. -/
structure Store (execute : TransitionInput → TransitionOptions → FaultOr TransitionOutput)
    (chainId : Word) (fork : Fork) (pre : Alloc) (genesis : Header) (blocks : List Block)
    (c : TransitionChain) : Prop where
  fork_eq : c.fork = fork
  head_held : c.Holds c.head
  genesis_held : c.blocks.get? genesis.hash = some ⟨genesis, pre⟩
  child : ∀ hash stored, c.blocks.get? hash = some stored → hash ≠ genesis.hash →
    ∃ b parent, Child execute chainId blocks c hash stored b parent

/-- One chain holds everything that another one holds. -/
def Keeps (c c' : TransitionChain) : Prop :=
  ∀ hash stored, c.blocks.get? hash = some stored → c'.blocks.get? hash = some stored

section Store

variable {fork : Fork} {pre : Alloc} {genesis : Header} {blocks : List Block}
  {c : TransitionChain}

lemma store_ofGenesis (blocks : List Block) :
    Store execute chainId fork pre genesis blocks (ofGenesis fork pre genesis) where
  fork_eq := rfl
  head_held := holds_genesis fork pre genesis
  genesis_held := by rw [get?_ofGenesis, if_pos rfl]
  child hash stored hstored hne := by
    rw [get?_ofGenesis, if_neg hne] at hstored
    cases hstored

lemma Store.withHead (h : Store execute chainId fork pre genesis blocks c) {hash : Hash}
    (hhash : c.Holds hash) :
    Store execute chainId fork pre genesis blocks { c with head := hash } := by
  refine ⟨h.fork_eq, hhash, h.genesis_held, fun hash' stored hstored hne => ?_⟩
  obtain ⟨b, parent, hchild⟩ := h.child hash' stored hstored hne
  exact ⟨b, parent, { hchild with }⟩

variable (hdecoded : ∀ b ∈ blocks, ∃ raw, Block.decode raw = .ok b)

include hdecoded in
lemma Store.descends (h : Store execute chainId fork pre genesis blocks c)
    {hash : Hash} {stored : StoredBlock} (hstored : c.blocks.get? hash = some stored) :
    Relation.ReflTransGen (Header.Follows (genesis :: blocks.map (·.header))) hash
      genesis.hash := by
  -- Timestamps decrease from a block to its parent.
  induction htime : stored.header.timestamp.toNat using Nat.strong_induction_on
    generalizing hash stored with
  | _ time ih =>
    by_cases hgenesis : hash = genesis.hash
    · rw [hgenesis]
    · obtain ⟨b, parent, hchild⟩ := h.child hash stored hstored hgenesis
      obtain ⟨raw, hraw⟩ := hdecoded b hchild.given
      have hearlier : parent.header.timestamp.toNat < time := by
        rw [← htime, ← hchild.header_eq]
        exact hchild.later
      refine .head ⟨b.header, ?_, ?_, rfl⟩ (ih _ hearlier hchild.follows rfl)
      · exact List.mem_cons_of_mem _ (List.mem_map_of_mem hchild.given)
      · rw [← hchild.hash_eq, (Block.header_of_decode hraw).1]

variable (hsep : Header.Separated (genesis :: blocks.map (·.header)))

include hdecoded hsep

lemma Store.hash_ne (h : Store execute chainId fork pre genesis blocks c)
    {b : Block} (hb : b ∈ blocks)
    {parent : StoredBlock} (hparent : c.blocks.get? b.header.parentHash = some parent) :
    b.hash ≠ genesis.hash ∧ b.hash ≠ genesis.parentHash := by
  obtain ⟨raw, hraw⟩ := hdecoded b hb
  have hdown : Relation.TransGen (Header.Follows (genesis :: blocks.map (·.header))) b.hash
      genesis.hash := by
    refine .head' ⟨b.header, ?_, (Block.header_of_decode hraw).1.symm, rfl⟩
      (h.descends hdecoded hparent)
    exact List.mem_cons_of_mem _ (List.mem_map_of_mem hb)
  refine ⟨fun heq => ?_, fun heq => ?_⟩
  · rw [heq] at hdown
    exact hsep.acyclic _ hdown
  · have hlast := hdown.tail ⟨genesis, List.mem_cons_self, rfl, rfl⟩
    rw [heq] at hlast
    exact hsep.acyclic _ hlast

lemma Store.keeps_extended (hconsistent : Consistent execute chainId blocks)
    (h : Store execute chainId fork pre genesis blocks c)
    {b : Block} (hb : b ∈ blocks)
    {parent : StoredBlock} (hparent : c.parentFor b.header = .ok parent)
    {alloc : Alloc} (hexecuted : Executed execute chainId c parent b alloc) :
    Keeps c (c.extended b alloc) := by
  obtain ⟨hheld, -, -⟩ := parentFor_eq_ok.mp hparent
  intro hash stored hstored
  rw [extended, OrderedMap.get?_insert]
  by_cases hhash : hash = b.hash
  · obtain ⟨b', parent', hchild⟩ := h.child hash stored hstored
      (hhash ▸ (h.hash_ne hdecoded hsep hb hheld).1)
    obtain ⟨raw, hraw⟩ := hdecoded b hb
    obtain ⟨raw', hraw'⟩ := hdecoded b' hchild.given
    have hencode : b.header.encode = b'.header.encode := by
      refine hsep.inj _ (List.mem_cons_of_mem _ (List.mem_map_of_mem hb)) _
        (List.mem_cons_of_mem _ (List.mem_map_of_mem hchild.given)) ?_
      rw [← (Block.header_of_decode hraw).1, ← (Block.header_of_decode hraw').1, hchild.hash_eq,
        hhash]
    have hheader : b.header = b'.header := Block.header_inj hraw hraw' hencode
    have hsame : parent = parent' := by
      rw [hheader, hchild.follows] at hheld
      exact (Option.some.inj hheld).symm
    have halloc : alloc = stored.alloc := hconsistent b hb b' hchild.given hheader c parent
      hparent alloc stored.alloc hexecuted (hsame ▸ hchild.executed)
    rw [if_pos hhash, hheader, hchild.header_eq, halloc]
  · rw [if_neg hhash, hstored]

lemma Store.task_extended (h : Store execute chainId fork pre genesis blocks c)
    {b : Block} (hb : b ∈ blocks)
    {parent : StoredBlock} (hparent : c.blocks.get? b.header.parentHash = some parent)
    {alloc : Alloc} (hkeeps : Keeps c (c.extended b alloc)) {b' : Block} {parent' : StoredBlock}
    (hparent' : c.blocks.get? b'.header.parentHash = some parent') :
    (c.extended b alloc).task chainId b' parent' = c.task chainId b' parent' := by
  have hcovers : Covers (· = b.hash) { c.extended b alloc with head := c.head } c := by
    refine ⟨rfl, rfl, h.head_held, fun hash hhash => ?_, fun hash stored hstored => ?_⟩
    · change SameEntry ((c.extended b alloc).blocks.get? hash) (c.blocks.get? hash)
      cases hget : c.blocks.get? hash with
      | some stored =>
        rw [hkeeps hash stored hget]
        exact .some (StoredBlock.same_refl stored)
      | none =>
        have hne : hash ≠ b.hash := hhash.resolve_left fun ⟨stored, hstored⟩ => by
          rw [hget] at hstored
          cases hstored
        rw [extended, OrderedMap.get?_insert, if_neg hne, hget]
        exact .none
    · by_cases hgenesis : hash = genesis.hash
      · rw [hgenesis, h.genesis_held] at hstored
        cases hstored
        exact .inr (h.hash_ne hdecoded hsep hb hparent).2.symm
      · obtain ⟨b'', parent'', hchild⟩ := h.child hash stored hstored hgenesis
        rw [← hchild.header_eq]
        exact .inl ⟨parent'', hchild.follows⟩
  exact hcovers.task_eq chainId b' (StoredBlock.same_refl parent') ⟨parent', hparent'⟩

lemma Child.extended (h : Store execute chainId fork pre genesis blocks c)
    {b : Block} (hb : b ∈ blocks)
    {parent : StoredBlock} (hparent : c.blocks.get? b.header.parentHash = some parent)
    {alloc : Alloc} (hkeeps : Keeps c (c.extended b alloc)) {hash : Hash} {stored : StoredBlock}
    {b' : Block} {parent' : StoredBlock}
    (hchild : Child execute chainId blocks c hash stored b' parent') :
    Child execute chainId blocks (c.extended b alloc) hash stored b' parent' := by
  refine { hchild with follows := hkeeps _ _ hchild.follows, executed := ?_ }
  unfold Executed
  rw [h.task_extended hdecoded hsep hb hparent hkeeps hchild.follows]
  exact hchild.executed

lemma Store.extended (hconsistent : Consistent execute chainId blocks)
    (h : Store execute chainId fork pre genesis blocks c)
    {b : Block} (hb : b ∈ blocks)
    {parent : StoredBlock} (hparent : c.parentFor b.header = .ok parent) {alloc : Alloc}
    (hexecuted : Executed execute chainId c parent b alloc) :
    Store execute chainId fork pre genesis blocks (c.extended b alloc) ∧
      Keeps c (c.extended b alloc) := by
  obtain ⟨hheld, hnumber, htime⟩ := parentFor_eq_ok.mp hparent
  have hkeeps := h.keeps_extended hdecoded hsep hconsistent hb hparent hexecuted
  have hnew : Child execute chainId blocks c b.hash ⟨b.header, alloc⟩ b parent :=
    ⟨hb, rfl, rfl, hheld, hnumber, htime, hexecuted⟩
  refine ⟨⟨h.fork_eq, holds_extended c b alloc, hkeeps _ _ h.genesis_held,
    fun hash stored hstored hne => ?_⟩, hkeeps⟩
  by_cases hhash : hash = b.hash
  · rw [TransitionChain.extended, OrderedMap.get?_insert, if_pos hhash] at hstored
    obtain rfl := Option.some.inj hstored
    rw [hhash]
    exact ⟨b, parent, hnew.extended hdecoded hsep h hb hheld hkeeps⟩
  · rw [TransitionChain.extended, OrderedMap.get?_insert, if_neg hhash] at hstored
    obtain ⟨b', parent', hchild⟩ := h.child hash stored hstored hne
    exact ⟨b', parent', hchild.extended hdecoded hsep h hb hheld hkeeps⟩

/-- A call that does not start the chain again leaves it a store of the blocks that were given,
and keeps what it holds. -/
lemma Store.after_call (hrepeats : tool.Repeats execute)
    (hconsistent : Consistent execute chainId blocks) {s : TransitionChain × ω}
    (h : Store execute chainId fork pre genesis blocks s.1) {call : ChainCall}
    {limit : Option Nat} (hgiven : ∀ b, call.block? = some b → b ∈ blocks)
    (hcontinues : ¬call.Restarts (target tool chainId) limit s) :
    Store execute chainId fork pre genesis blocks
        (call.after (target tool chainId) limit s).1 ∧
      Keeps s.1 (call.after (target tool chainId) limit s).1 := by
  have hsame : ∀ {c : TransitionChain}, c = s.1 →
      Store execute chainId fork pre genesis blocks c ∧ Keeps s.1 c := by
    rintro _ rfl
    exact ⟨h, fun _ _ hstored => hstored⟩
  cases call with
  | start fork' pre' genesis' =>
    rcases start_after tool chainId fork' pre' genesis' limit s with
      ⟨g, hanswer, _⟩ | ⟨_, hafter⟩
    · exact absurd ⟨g, hanswer⟩ hcontinues
    · exact hsame hafter
  | apply raw b decoded =>
    rcases apply_after hrepeats chainId b limit s with
      hafter | ⟨parent, alloc, hparent, hexecuted, hafter⟩
    · exact hsame hafter
    · change Store _ _ _ _ _ _ (apply tool chainId b limit s).state.1 ∧
        Keeps s.1 (apply tool chainId b limit s).state.1
      rw [hafter]
      exact h.extended hdecoded hsep hconsistent (hgiven b rfl) hparent hexecuted
  | readState hint => exact hsame rfl
  | resetTo hash =>
    change Store _ _ _ _ _ _ (resetTo hash s.1).2 ∧ Keeps s.1 (resetTo hash s.1).2
    unfold resetTo
    split
    next hheld =>
      exact ⟨h.withHead (OrderedMap.contains_iff.mp hheld), fun _ _ hstored => hstored⟩
    next => exact hsame rfl

/-- Whatever calls are made, the chain stays a store of the blocks that were given, and keeps
what it holds, until it is started again. -/
lemma Store.continues (hrepeats : tool.Repeats execute)
    (hconsistent : Consistent execute chainId blocks) {calls : List ChainCall}
    {s s' : TransitionChain × ω} (h : Store execute chainId fork pre genesis blocks s.1)
    (hgiven : ∀ b ∈ ChainCall.blocks calls, b ∈ blocks)
    (hrun : ChainCall.Continues (target tool chainId) calls s s') :
    Store execute chainId fork pre genesis blocks s'.1 ∧ Keeps s.1 s'.1 := by
  induction hrun with
  | nil s => exact ⟨h, fun _ _ hstored => hstored⟩
  | @cons call calls s s' limit hcontinues _ ih =>
    have hfirst : ∀ b, call.block? = some b → b ∈ blocks := fun b hb =>
      hgiven b (List.mem_filterMap.mpr ⟨call, List.mem_cons_self, hb⟩)
    have hrest : ∀ b ∈ ChainCall.blocks calls, b ∈ blocks := fun b hb =>
      hgiven b ((List.sublist_cons_self call calls).filterMap _ |>.subset hb)
    obtain ⟨hstore, hkeeps⟩ :=
      h.after_call hdecoded hsep hrepeats hconsistent hfirst hcontinues
    obtain ⟨hstore', hkeeps'⟩ := ih hstore hrest
    exact ⟨hstore', fun hash stored hstored => hkeeps' _ _ (hkeeps _ _ hstored)⟩

end Store

/-- What the tool makes of a state by executing a block, after the stored parent of the
block. -/
def replay (execute : TransitionInput → TransitionOptions → FaultOr TransitionOutput)
    (chainId : Word) (c : TransitionChain) (alloc : Alloc) (b : Block) : Option Alloc := do
  let parent ← c.blocks.get? b.header.parentHash
  let (input, options) := c.task chainId b { parent with alloc := alloc }
  let output ← (execute input options).toOption
  return output.alloc

/-- Blocks, each of which follows the one before it, from a first hash to a last. -/
inductive Line (origin : Hash) : List Block → Hash → Prop
  | nil : Line origin [] origin
  | snoc {line : List Block} {b : Block} (before : Line origin line b.header.parentHash) :
      Line origin (line ++ [b]) b.hash

/-- The state that is stored with a block is made from that of the genesis block by the blocks
in between. -/
lemma Store.replays {fork : Fork} {pre : Alloc} {genesis : Header} {blocks : List Block}
    {c : TransitionChain} (h : Store execute chainId fork pre genesis blocks c) {hash : Hash}
    {stored : StoredBlock} (hstored : c.blocks.get? hash = some stored) :
    ∃ line, Line genesis.hash line hash ∧ (∀ b ∈ line, b ∈ blocks) ∧
      line.foldlM (replay execute chainId c) pre = some stored.alloc := by
  induction htime : stored.header.timestamp.toNat using Nat.strong_induction_on
    generalizing hash stored with
  | _ time ih =>
    by_cases hgenesis : hash = genesis.hash
    · rw [hgenesis, h.genesis_held] at hstored
      obtain rfl := Option.some.inj hstored
      exact ⟨[], hgenesis ▸ .nil, nofun, rfl⟩
    · obtain ⟨b, parent, hchild⟩ := h.child hash stored hstored hgenesis
      have hearlier : parent.header.timestamp.toNat < time := by
        rw [← htime, ← hchild.header_eq]
        exact hchild.later
      obtain ⟨line, hline, hgiven, hfold⟩ := ih _ hearlier hchild.follows rfl
      obtain ⟨output, houtput, _, halloc⟩ := hchild.executed
      refine ⟨line ++ [b], hchild.hash_eq ▸ .snoc hline, ?_, ?_⟩
      · intro b' hb'
        rcases List.mem_append.mp hb' with hb' | hb'
        · exact hgiven b' hb'
        · rw [List.mem_singleton.mp hb']
          exact hchild.given
      · rw [List.foldlM_append, hfold]
        simp [replay, hchild.follows, houtput, halloc, Except.toOption]

/-- After a chain has been started, and until it is started again, its head is a block that it
holds; it holds the genesis block with the state that was given; every other block that it
holds is a child of another one; nothing that it holds changes; and the state at its head is
what the blocks from the genesis block to the head make of the state that was given. -/
theorem store_after_start (hrepeats : tool.Repeats execute) {fork : Fork} {pre : Alloc}
    {genesis : Header} {limit : Option Nat} {s₀ s₁ s₂ : TransitionChain × ω} {g : Genesis}
    (hstart : ((target tool chainId).start fork pre genesis limit s₀).answer = some (.ok g))
    {calls calls' : List ChainCall}
    (hrun : ChainCall.Continues (target tool chainId) calls
      ((target tool chainId).start fork pre genesis limit s₀).state s₁)
    (hrun' : ChainCall.Continues (target tool chainId) calls' s₁ s₂)
    (hsep : Header.Separated
      (genesis :: (ChainCall.blocks (calls ++ calls')).map (·.header)))
    (hconsistent : Consistent execute chainId (ChainCall.blocks (calls ++ calls'))) :
    Store execute chainId fork pre genesis (ChainCall.blocks (calls ++ calls')) s₂.1 ∧
    Keeps s₁.1 s₂.1 ∧
    ∃ line alloc, Line genesis.hash line s₂.1.head ∧
      (∀ b ∈ line, b ∈ ChainCall.blocks (calls ++ calls')) ∧
      line.foldlM (replay execute chainId s₂.1) pre = some alloc ∧
      ∀ hint limit,
        ((target tool chainId).readState hint limit s₂).answer = some (.ok alloc) := by
  have hdecoded : ∀ b ∈ ChainCall.blocks (calls ++ calls'), ∃ raw, Block.decode raw = .ok b :=
    fun _ => ChainCall.decoded_of_mem
  have hblocks : ChainCall.blocks (calls ++ calls') =
      ChainCall.blocks calls ++ ChainCall.blocks calls' := List.filterMap_append
  have hstarted : Store execute chainId fork pre genesis (ChainCall.blocks (calls ++ calls'))
      ((target tool chainId).start fork pre genesis limit s₀).state.1 := by
    rcases start_after tool chainId fork pre genesis limit s₀ with
      ⟨_, _, hafter⟩ | ⟨hnot, _⟩
    · change Store _ _ _ _ _ _ (start tool chainId fork pre genesis limit s₀).state.1
      rw [hafter]
      exact store_ofGenesis _
    · exact absurd hstart (hnot g)
  obtain ⟨hstore, -⟩ := hstarted.continues hdecoded hsep hrepeats hconsistent
    (fun b hb => hblocks ▸ List.mem_append_left _ hb) hrun
  obtain ⟨hstore', hkeeps⟩ := hstore.continues hdecoded hsep hrepeats hconsistent
    (fun b hb => hblocks ▸ List.mem_append_right _ hb) hrun'
  obtain ⟨stored, hhead⟩ := hstore'.head_held
  obtain ⟨line, hline, hgiven, hfold⟩ := hstore'.replays hhead
  refine ⟨hstore', hkeeps, line, stored.alloc, hline, hgiven, hfold, fun hint limit => ?_⟩
  have hread : s₂.1.readState = .ok stored.alloc := by
    unfold readState
    rw [hhead]
  exact congrArg some hread

lemma consistent_of_roots (h : ∀ input options input' options' out out',
      execute input options = .ok out → execute input' options' = .ok out' →
        out.result.stateRoot = out'.result.stateRoot → out.alloc = out'.alloc)
    (blocks : List Block) : Consistent execute chainId blocks := by
  rintro b _ b' _ hheader c parent _ alloc alloc' ⟨out, hout, hrefusal, rfl⟩
    ⟨out', hout', hrefusal', rfl⟩
  refine h _ _ _ _ _ _ hout hout' ?_
  obtain ⟨-, -, -, hroot⟩ := refusal?_eq_none_iff.mp hrefusal
  obtain ⟨-, -, -, hroot'⟩ := refusal?_eq_none_iff.mp hrefusal'
  rw [hroot, hroot', hheader]

/-! ### One header over two bodies -/

def firstHash : Hash := ⟨[
  0xc3, 0xbd, 0x2d, 0x00, 0x74, 0x5c, 0x03, 0x04, 0x8a, 0x56, 0x16, 0x14, 0x6a, 0x96, 0xf5, 0xff,
  0x78, 0xe5, 0x4e, 0xfb, 0x9e, 0x5b, 0x04, 0xaf, 0x20, 0x8c, 0xda, 0xff, 0x6f, 0x38, 0x30, 0xee],
  rfl⟩

lemma hash_first : (default : Header).hash = firstHash := by
  rw [FixedBytes.ext_iff, Header.hash, Keccak.keccak256_bytes]
  decide +kernel

def secondHeader : Header :=
  { (default : Header) with parentHash := firstHash, number := 1, timestamp := 1 }

def secondHash : Hash := ⟨[
  0xbd, 0xa0, 0x96, 0x27, 0x60, 0xda, 0xad, 0xa4, 0xab, 0x8b, 0x59, 0xfb, 0x04, 0x08, 0xd0, 0x82,
  0x94, 0xe2, 0x40, 0xa4, 0x52, 0x7e, 0xde, 0x35, 0x4f, 0x6e, 0xa4, 0x41, 0x81, 0x89, 0x17, 0x2a],
  rfl⟩

lemma hash_second : secondHeader.hash = secondHash := by
  rw [FixedBytes.ext_iff, Header.hash, Keccak.keccak256_bytes]
  decide +kernel

def rank (hash : Hash) : Nat := if hash = secondHash then 2 else if hash = firstHash then 1 else 0

lemma separated_of_subset {headers : List Header} (h : headers ⊆ [default, secondHeader]) :
    Header.Separated headers := by
  have hcases : ∀ x ∈ headers, x = default ∨ x = secondHeader := fun x hx =>
    List.mem_pair.mp (h hx)
  have hne : firstHash ≠ secondHash := by decide
  constructor
  · intro x hx y hy hhash
    rcases hcases x hx with rfl | rfl <;> rcases hcases y hy with rfl | rfl
    · rfl
    · rw [hash_first, hash_second] at hhash
      exact absurd hhash hne
    · rw [hash_first, hash_second] at hhash
      exact absurd hhash.symm hne
    · rfl
  · refine Header.acyclic_of_rank rank fun x hx => ?_
    rcases hcases x hx with rfl | rfl
    · rw [hash_first]
      decide
    · rw [hash_second]
      decide

def secondBlock (items : List Rlp.Item) : Block.Layout := ⟨secondHeader, items, [], none⟩

lemma canonical_second : secondHeader.Canonical := ⟨rfl, by decide⟩

lemma decode_second {items : List Rlp.Item}
    (h : (secondBlock items).payload.length < UInt64.size) :
    Block.decode (secondBlock items).encode = .ok (secondBlock items).block :=
  Block.decode_eq_ok.mpr ⟨secondBlock items, ⟨canonical_second, nofun, h⟩, rfl, rfl⟩

/-- The block is given to the chain. -/
def give (items : List Rlp.Item) (h : (secondBlock items).payload.length < UInt64.size) :
    ChainCall := .apply (secondBlock items).encode (secondBlock items).block (decode_second h)

/-- What a tool answers that finds one root for all states. -/
def rootless (after : Bytes → Alloc) (input : TransitionInput) (_ : TransitionOptions) :
    FaultOr TransitionOutput := .ok ⟨after input.transactions, { stateRoot := .zero }⟩

def rootlessTool (after : Bytes → Alloc) : TransitionTool Unit := fun input options =>
  .instantly fun w => (rootless after input options, w)

lemma rootlessTool_answers (after : Bytes → Alloc) :
    (rootlessTool after).Answers (rootless after) := fun _ _ _ _ => rfl

lemma continues_give (after : Bytes → Alloc) {items : List Rlp.Item}
    (h : (secondBlock items).payload.length < UInt64.size) {c : TransitionChain}
    (hc : c.blocks.get? firstHash = some ⟨default, .empty⟩) :
    ChainCall.Continues (target (rootlessTool after) 1) [give items h] (c, ())
      (c.extended (secondBlock items).block
        (after (Transition.encodeTransactions (secondBlock items).block.transactions)), ()) := by
  have hparent : c.parentFor secondHeader = .ok ⟨default, .empty⟩ :=
    parentFor_eq_ok.mpr ⟨hc, by decide, by decide⟩
  have happly : applyOn (rootless after) 1 (secondBlock items).block c =
      (.ok (.accepted (secondBlock items).block.head secondHeader.stateRoot),
        c.extended (secondBlock items).block
          (after (Transition.encodeTransactions (secondBlock items).block.transactions))) := by
    unfold applyOn
    rw [show c.parentFor (secondBlock items).block.header = _ from hparent]
    rfl
  have hyields := yields_apply (rootlessTool_answers after) 1 (secondBlock items).block c none ()
  have hafter : (give items h).after (target (rootlessTool after) 1) none (c, ()) =
      (c.extended (secondBlock items).block
        (after (Transition.encodeTransactions (secondBlock items).block.transactions)), ()) :=
    Prod.ext (hyields.2.trans (congrArg Prod.snd happly)) rfl
  refine .cons none (fun hrestarts => hrestarts) ?_
  rw [hafter]
  exact .nil _

def started : TransitionChain × Unit := (ofGenesis .frontier .empty default, ())

lemma start_answer (after : Bytes → Alloc) :
    ((target (rootlessTool after) 1).start .frontier .empty default none ({}, ())).answer =
      some (.ok ⟨.zero, (default : Header).hash⟩) := rfl

lemma get?_started : started.1.blocks.get? firstHash = some ⟨default, .empty⟩ := by
  rw [started, get?_ofGenesis, hash_first, if_pos rfl]

lemma size_empty : (secondBlock []).payload.length < UInt64.size := by decide +kernel

lemma size_full : (secondBlock [⟨false, [2]⟩]).payload.length < UInt64.size := by decide +kernel

lemma get?_extended_second (c : TransitionChain) (items : List Rlp.Item) (alloc : Alloc)
    (hash : Hash) : (c.extended (secondBlock items).block alloc).blocks.get? hash =
      if hash = secondHash then some ⟨secondHeader, alloc⟩ else c.blocks.get? hash := by
  have hhash : (secondBlock items).block.hash = secondHash := hash_second
  rw [extended, OrderedMap.get?_insert, hhash]
  rfl

lemma get?_extended_first {c : TransitionChain} {stored : StoredBlock}
    (hc : c.blocks.get? firstHash = some stored) (items : List Rlp.Item) (alloc : Alloc) :
    (c.extended (secondBlock items).block alloc).blocks.get? firstHash = some stored := by
  rw [get?_extended_second, if_neg (by decide), hc]

lemma headers_subset (items items' : List Rlp.Item)
    (h : (secondBlock items).payload.length < UInt64.size)
    (h' : (secondBlock items').payload.length < UInt64.size) :
    default :: (ChainCall.blocks [give items h, give items' h']).map (·.header) ⊆
      [default, secondHeader] := by
  intro x hx
  have hlist : default :: (ChainCall.blocks [give items h, give items' h']).map (·.header) =
      [default, secondHeader, secondHeader] := rfl
  rw [hlist] at hx
  simpa using hx

def oneAccount : Alloc := OrderedMap.ofList [(.zero, default)]

theorem store_after_start_refilled :
    Header.Separated (default ::
      (ChainCall.blocks [give [] size_empty, give [⟨false, [2]⟩] size_full]).map (·.header)) ∧
    Consistent (rootless fun _ => oneAccount) 1
      (ChainCall.blocks [give [] size_empty, give [⟨false, [2]⟩] size_full]) ∧
    ∃ s₁ s₂,
      ChainCall.Continues (target (rootlessTool fun _ => oneAccount) 1) [give [] size_empty]
        ((target (rootlessTool fun _ => oneAccount) 1).start .frontier .empty default none
          ({}, ())).state s₁ ∧
      ChainCall.Continues (target (rootlessTool fun _ => oneAccount) 1)
        [give [⟨false, [2]⟩] size_full] s₁ s₂ ∧
      s₁.1.blocks.get? secondHash = some ⟨secondHeader, oneAccount⟩ ∧
      Store (rootless fun _ => oneAccount) 1 .frontier .empty default
        (ChainCall.blocks [give [] size_empty, give [⟨false, [2]⟩] size_full]) s₂.1 ∧
      Keeps s₁.1 s₂.1 ∧
      ∃ line alloc, Line (default : Header).hash line s₂.1.head ∧
        line.foldlM (replay (rootless fun _ => oneAccount) 1 s₂.1) .empty = some alloc ∧
        ∀ hint limit, ((target (rootlessTool fun _ => oneAccount) 1).readState hint limit
          s₂).answer = some (.ok alloc) := by
  have hsep := separated_of_subset (headers_subset [] [⟨false, [2]⟩] size_empty size_full)
  have hconsistent : Consistent (rootless fun _ => oneAccount) 1
      (ChainCall.blocks [give [] size_empty, give [⟨false, [2]⟩] size_full]) :=
    consistent_of_roots (fun _ _ _ _ out out' h h' _ => by cases h; cases h'; rfl) _
  have hfirst := continues_give (fun _ => oneAccount) size_empty get?_started
  have hsecond := continues_give (fun _ => oneAccount) size_full
    (get?_extended_first get?_started [] oneAccount)
  obtain ⟨hstore, hkeeps, line, alloc, hline, -, hfold, hread⟩ := store_after_start
    (fun _ _ _ _ _ h => (Option.some.inj h).symm) (start_answer fun _ => oneAccount) hfirst
    hsecond hsep hconsistent
  refine ⟨hsep, hconsistent, _, _, hfirst, hsecond, ?_, hstore, hkeeps, line, alloc, hline, hfold,
    hread⟩
  rw [get?_extended_second, if_pos rfl]

/-- The tool makes a state of one account of a block with transactions. -/
def counted (txs : Bytes) : Alloc :=
  if txs = Transition.encodeTransactions [] then .empty else oneAccount

/-- A block that is given again with other transactions under the same header is stored over
the first one, with the state that the tool makes of it. -/
theorem store_overwritten :
    (rootlessTool counted).Repeats (rootless counted) ∧
    ((target (rootlessTool counted) 1).start .frontier .empty default none ({}, ())).answer =
      some (.ok ⟨.zero, (default : Header).hash⟩) ∧
    Header.Separated (default ::
      (ChainCall.blocks [give [] size_empty, give [⟨false, [2]⟩] size_full]).map (·.header)) ∧
    ∃ s₁ s₂,
      ChainCall.Continues (target (rootlessTool counted) 1) [give [] size_empty]
        ((target (rootlessTool counted) 1).start .frontier .empty default none ({}, ())).state s₁ ∧
      ChainCall.Continues (target (rootlessTool counted) 1) [give [⟨false, [2]⟩] size_full] s₁ s₂ ∧
      s₁.1.blocks.get? secondHash = some ⟨secondHeader, .empty⟩ ∧
      s₂.1.blocks.get? secondHash = some ⟨secondHeader, oneAccount⟩ ∧
      ¬Keeps s₁.1 s₂.1 := by
  have hfirst := continues_give counted size_empty get?_started
  have hsecond := continues_give counted size_full (get?_extended_first get?_started []
    (counted (Transition.encodeTransactions (secondBlock []).block.transactions)))
  refine ⟨fun _ _ _ _ _ h => (Option.some.inj h).symm, start_answer counted,
    separated_of_subset (headers_subset ..), _, _, hfirst, hsecond, ?_, ?_, fun hkeeps => ?_⟩
  · rw [get?_extended_second, if_pos rfl]
    rfl
  · rw [get?_extended_second, if_pos rfl]
    rfl
  · have hkept := hkeeps secondHash ⟨secondHeader, .empty⟩ (by
      rw [get?_extended_second, if_pos rfl]
      rfl)
    rw [get?_extended_second, if_pos rfl] at hkept
    cases congrArg (·.map (·.alloc.size)) hkept

end TransitionChain

end ChainConformance
