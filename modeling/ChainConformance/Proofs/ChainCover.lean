import ChainConformance.Proofs.ChainCalls

/-!
# Chains that hold more than others

A chain that holds the blocks of another one, and maybe some that are foreign to it, treats a
block like the other one as long as neither the block nor the ancestors that are asked for
lead to a foreign block.
-/

namespace ChainConformance

lemma Header.field_eq {α : Type} {h h' : Header}
    (heq : { h with statedHash := none } = { h' with statedHash := none })
    (field : Header → α) (hfield : ∀ x, field { x with statedHash := none } = field x) :
    field h = field h' := by
  rw [← hfield h, heq, hfield]

lemma Header.hash_eq {h h' : Header}
    (heq : { h with statedHash := none } = { h' with statedHash := none }) :
    h.hash = h'.hash := Header.field_eq heq Header.hash fun _ => rfl

/-- Two blocks are held alike, but for the hash that is stated for one of them. -/
structure StoredBlock.Same (a b : StoredBlock) : Prop where
  header : { a.header with statedHash := none } = { b.header with statedHash := none }
  alloc : a.alloc = b.alloc

namespace StoredBlock

lemma same_refl (a : StoredBlock) : a.Same a := ⟨rfl, rfl⟩

lemma Same.field_eq {α : Type} {a b : StoredBlock} (h : a.Same b) (field : Header → α)
    (hfield : ∀ x, field { x with statedHash := none } = field x) :
    field a.header = field b.header := Header.field_eq h.header field hfield

end StoredBlock

/-- What is held under a hash, if anything is, is the same. -/
inductive SameEntry : Option StoredBlock → Option StoredBlock → Prop
  | none : SameEntry none none
  | some {a b : StoredBlock} (h : a.Same b) : SameEntry (some a) (some b)

namespace TransitionChain

def Holds (c : TransitionChain) (h : Hash) : Prop := ∃ b, c.blocks.get? h = some b

/-- A chain holds what another one does, and beside that foreign blocks at most. No block of
the other chain follows a foreign one that is not in it. -/
structure Covers (foreign : Hash → Prop) (c d : TransitionChain) : Prop where
  fork_eq : c.fork = d.fork
  head_eq : c.head = d.head
  head_held : d.Holds d.head
  agree : ∀ h, d.Holds h ∨ ¬foreign h → SameEntry (c.blocks.get? h) (d.blocks.get? h)
  closed : ∀ h b, d.blocks.get? h = some b →
    d.Holds b.header.parentHash ∨ ¬foreign b.header.parentHash

variable {foreign : Hash → Prop} {c d : TransitionChain}

lemma Covers.get?_cases (h : Covers foreign c d) {hash : Hash}
    (hhash : d.Holds hash ∨ ¬foreign hash) :
    (c.blocks.get? hash = none ∧ d.blocks.get? hash = none) ∨
      ∃ a b, c.blocks.get? hash = some a ∧ d.blocks.get? hash = some b ∧ a.Same b := by
  have hagree := h.agree hash hhash
  generalize c.blocks.get? hash = left, d.blocks.get? hash = right at hagree ⊢
  cases hagree with
  | none => exact Or.inl ⟨rfl, rfl⟩
  | some hsame => exact Or.inr ⟨_, _, rfl, rfl, hsame⟩

lemma Covers.ancestorsFrom_eq (h : Covers foreign c d) (count : Nat) {hash : Hash}
    (hhash : d.Holds hash ∨ ¬foreign hash) (found : OrderedMap Word Hash) :
    ancestorsFrom c.blocks count hash found = ancestorsFrom d.blocks count hash found := by
  induction count generalizing hash found with
  | zero => rfl
  | succ count ih =>
    unfold ancestorsFrom
    rcases h.get?_cases hhash with ⟨hc, hd⟩ | ⟨a, b, hc, hd, hsame⟩
    · rw [hc, hd]
    · have hclosed := h.closed hash b hd
      simp only [hc, hd, hsame.field_eq Header.number fun _ => rfl,
        hsame.field_eq Header.parentHash fun _ => rfl]
      by_cases hzero : b.header.number = 0
      · rw [if_pos hzero, if_pos hzero]
      · rw [if_neg hzero, if_neg hzero]
        exact ih hclosed _

lemma Covers.parentFor_cases (h : Covers foreign c d) {header : Header}
    (hparent : d.Holds header.parentHash ∨ ¬foreign header.parentHash) :
    (∃ outcome, c.parentFor header = .error outcome ∧ d.parentFor header = .error outcome) ∨
    ∃ a b, c.parentFor header = .ok a ∧ d.parentFor header = .ok b ∧ a.Same b ∧
      d.Holds header.parentHash := by
  unfold parentFor
  rcases h.get?_cases hparent with ⟨hc, hd⟩ | ⟨a, b, hc, hd, hsame⟩
  · rw [hc, hd]
    exact Or.inl ⟨_, rfl, rfl⟩
  · simp only [hc, hd, hsame.field_eq Header.number fun _ => rfl,
      hsame.field_eq Header.timestamp fun _ => rfl]
    by_cases hnumber : header.number ≠ b.header.number + 1
    · rw [if_pos hnumber, if_pos hnumber]
      exact Or.inl ⟨_, rfl, rfl⟩
    · rw [if_neg hnumber, if_neg hnumber]
      by_cases htime : header.timestamp ≤ b.header.timestamp
      · rw [if_pos htime, if_pos htime]
        exact Or.inl ⟨_, rfl, rfl⟩
      · rw [if_neg htime, if_neg htime]
        exact Or.inr ⟨a, b, rfl, rfl, hsame, b, hd⟩

lemma Covers.task_eq (h : Covers foreign c d) (chainId : Word) (b : Block)
    {parent parent' : StoredBlock} (hsame : parent.Same parent')
    (hparent : d.Holds b.header.parentHash) :
    c.task chainId b parent = d.task chainId b parent' := by
  have hancestors : c.ancestors b.header.parentHash = d.ancestors b.header.parentHash :=
    h.ancestorsFrom_eq ancestorWindow (Or.inl hparent) .empty
  unfold task environment
  simp only [h.fork_eq, hancestors, hsame.alloc, hsame.field_eq Header.timestamp fun _ => rfl,
    hsame.field_eq Header.difficulty fun _ => rfl, hsame.field_eq Header.unclesHash fun _ => rfl]

lemma holds_extended (c : TransitionChain) (b : Block) (alloc : Alloc) :
    (c.extended b alloc).Holds b.hash := by
  refine ⟨⟨b.header, alloc⟩, ?_⟩
  simp only [extended, OrderedMap.get?_insert, if_true]

lemma Holds.extended {h : Hash} (hc : c.Holds h) (b : Block) (alloc : Alloc) :
    (c.extended b alloc).Holds h := by
  by_cases hh : h = b.hash
  · rw [hh]
    exact holds_extended c b alloc
  · obtain ⟨a, ha⟩ := hc
    refine ⟨a, ?_⟩
    simp only [TransitionChain.extended, OrderedMap.get?_insert, hh, if_false, ha]

lemma Covers.extended (h : Covers foreign c d) (b : Block) (alloc : Alloc)
    (hparent : d.Holds b.header.parentHash) :
    Covers foreign (c.extended b alloc) (d.extended b alloc) where
  fork_eq := h.fork_eq
  head_eq := rfl
  head_held := holds_extended d b alloc
  agree hash hhash := by
    by_cases hh : hash = b.hash
    · simp only [TransitionChain.extended, OrderedMap.get?_insert, hh, if_true]
      exact .some (StoredBlock.same_refl _)
    · simp only [TransitionChain.extended, OrderedMap.get?_insert, hh, if_false]
      refine h.agree hash (hhash.imp_left ?_)
      rintro ⟨a, ha⟩
      simp only [TransitionChain.extended, OrderedMap.get?_insert, hh, if_false] at ha
      exact ⟨a, ha⟩
  closed hash a ha := by
    by_cases hh : hash = b.hash
    · simp only [TransitionChain.extended, OrderedMap.get?_insert, hh, if_true] at ha
      cases ha
      exact Or.inl (hparent.extended b alloc)
    · simp only [TransitionChain.extended, OrderedMap.get?_insert, hh, if_false] at ha
      exact (h.closed hash a ha).imp_left fun hheld => hheld.extended b alloc

variable {execute : TransitionInput → TransitionOptions → FaultOr TransitionOutput}

/-- A block that leads to no foreign one is treated alike. If it is accepted the chain holds
it from then on. -/
lemma Covers.applyOn (h : Covers foreign c d)
    (execute : TransitionInput → TransitionOptions → FaultOr TransitionOutput)
    (chainId : Word) (b : Block)
    (hparent : d.Holds b.header.parentHash ∨ ¬foreign b.header.parentHash) :
    ∃ answer c' d', applyOn execute chainId b c = (answer, c') ∧
      applyOn execute chainId b d = (answer, d') ∧ Covers foreign c' d' ∧
      (∀ hash, d.Holds hash → d'.Holds hash) ∧
      ∀ head stateRoot, answer = .ok (.accepted head stateRoot) → d'.Holds b.hash := by
  unfold TransitionChain.applyOn
  rcases h.parentFor_cases hparent with
    ⟨outcome, hc, hd⟩ | ⟨parent, parent', hc, hd, hsame, hheld⟩
  · rw [hc, hd]
    obtain ⟨message, tag, rfl⟩ := parentFor_rejects hd
    exact ⟨_, c, d, rfl, rfl, h, fun _ hh => hh, nofun⟩
  · rw [hc, hd]
    simp only [h.task_eq chainId b hsame hheld]
    rcases conclude_cases b (execute (d.task chainId b parent').1 (d.task chainId b parent').2)
      with ⟨answer, hanswer, hnot⟩ | ⟨output, -, -, hanswer⟩
    · rw [hanswer, hanswer]
      exact ⟨answer, c, d, rfl, rfl, h, fun _ hh => hh,
        fun head stateRoot haccepted => absurd haccepted (hnot head stateRoot)⟩
    · rw [hanswer, hanswer]
      exact ⟨_, _, _, rfl, rfl, h.extended b output.alloc hheld,
        fun _ hh => hh.extended b output.alloc, fun _ _ _ => holds_extended d b output.alloc⟩

lemma Covers.readState (h : Covers foreign c d) : c.readState = d.readState := by
  unfold TransitionChain.readState
  rw [h.head_eq]
  rcases h.get?_cases (Or.inl h.head_held) with ⟨hc, hd⟩ | ⟨a, b, hc, hd, hsame⟩
  · rw [hc, hd]
  · rw [hc, hd]
    simp only [hsame.alloc]

@[simp] lemma get?_ofGenesis (fork : Fork) (pre : Alloc) (genesis : Header) (h : Hash) :
    (ofGenesis fork pre genesis).blocks.get? h =
      if h = genesis.hash then some ⟨genesis, pre⟩ else none := by
  simp only [ofGenesis, OrderedMap.ofList, List.foldl_cons, List.foldl_nil,
    OrderedMap.get?_insert, OrderedMap.get?_empty]

lemma holds_genesis (fork : Fork) (pre : Alloc) (genesis : Header) :
    (ofGenesis fork pre genesis).Holds genesis.hash :=
  ⟨⟨genesis, pre⟩, by rw [get?_ofGenesis, if_pos rfl]⟩

lemma resetTo_of_holds {c : TransitionChain} {hash : Hash} (h : c.Holds hash) :
    resetTo hash c = (.ok (), { c with head := hash }) := by
  obtain ⟨b, hb⟩ := h
  have hcontains : c.blocks.contains hash := by rw [OrderedMap.contains, hb]; rfl
  rw [resetTo, if_pos hcontains]

/-- A chain has become another one by blocks with some of the given hashes. -/
structure Grown (hashes : List Hash) (c c' : TransitionChain) : Prop where
  fork_eq : c'.fork = c.fork
  holds : ∀ h, c.Holds h → c'.Holds h
  get?_eq : ∀ h, h ∉ hashes → c'.blocks.get? h = c.blocks.get? h

lemma grown_refl (hashes : List Hash) (c : TransitionChain) : Grown hashes c c :=
  ⟨rfl, fun _ hh => hh, fun _ _ => rfl⟩

lemma Grown.trans {hashes : List Hash} {c c' c'' : TransitionChain} (h : Grown hashes c c')
    (h' : Grown hashes c' c'') : Grown hashes c c'' where
  fork_eq := h'.fork_eq.trans h.fork_eq
  holds hash hh := h'.holds hash (h.holds hash hh)
  get?_eq hash hh := (h'.get?_eq hash hh).trans (h.get?_eq hash hh)

lemma Grown.mono {hashes hashes' : List Hash} {c c' : TransitionChain}
    (h : Grown hashes c c') (hsubset : hashes ⊆ hashes') : Grown hashes' c c' :=
  ⟨h.fork_eq, h.holds, fun hash hh => h.get?_eq hash fun hmem => hh (hsubset hmem)⟩

lemma grown_extended (c : TransitionChain) (b : Block) (alloc : Alloc) :
    Grown [b.hash] c (c.extended b alloc) where
  fork_eq := rfl
  holds _ hh := hh.extended b alloc
  get?_eq hash hh := by
    have hne : hash ≠ b.hash := fun heq => hh (List.mem_singleton.mpr heq)
    simp only [TransitionChain.extended, OrderedMap.get?_insert, hne, if_false]

lemma grown_applyOn (chainId : Word) (b : Block) (c : TransitionChain) :
    Grown [b.hash] c (TransitionChain.applyOn execute chainId b c).2 := by
  unfold TransitionChain.applyOn
  cases c.parentFor b.header with
  | error outcome => exact grown_refl _ c
  | ok parent =>
    simp only
    rcases conclude_cases b (execute (c.task chainId b parent).1 (c.task chainId b parent).2)
      with ⟨answer, hanswer, _⟩ | ⟨output, -, -, hanswer⟩
    · rw [hanswer]
      exact grown_refl _ c
    · rw [hanswer]
      exact grown_extended c b output.alloc

/-- A chain that has grown from a genesis block by foreign blocks covers one that is started
from the same block, if the block is no child of a foreign one and is not foreign itself. -/
lemma Grown.covers {hashes : List Hash} {fork : Fork} {pre : Alloc} {genesis genesis' : Header}
    {c : TransitionChain} (h : Grown hashes (ofGenesis fork pre genesis') c)
    (hheader : { genesis' with statedHash := none } = { genesis with statedHash := none })
    (hself : genesis.hash ∉ hashes) (hparent : genesis.parentHash ∉ hashes) :
    Covers (· ∈ hashes) { c with head := genesis.hash } (ofGenesis fork pre genesis) where
  fork_eq := h.fork_eq
  head_eq := rfl
  head_held := holds_genesis fork pre genesis
  agree hash hhash := by
    have hhashes : genesis'.hash = genesis.hash := Header.hash_eq hheader
    by_cases hh : hash = genesis.hash
    · simp only [hh, h.get?_eq _ hself, get?_ofGenesis, hhashes, if_true]
      exact .some ⟨hheader, rfl⟩
    · have hnew : hash ∉ hashes := by
        refine hhash.resolve_left ?_
        rintro ⟨b, hb⟩
        rw [get?_ofGenesis, if_neg hh] at hb
        cases hb
      simp only [h.get?_eq hash hnew, get?_ofGenesis, hhashes, hh, if_false]
      exact .none
  closed hash b hb := by
    rw [get?_ofGenesis] at hb
    split at hb <;> cases hb
    exact Or.inr hparent

end TransitionChain

end ChainConformance
