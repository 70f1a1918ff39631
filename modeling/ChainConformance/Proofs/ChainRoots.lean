import ChainConformance.Proofs.ChainStore

/-!
# Roots of chains

The parents of every block that a chain holds lead down to its genesis block. As long as no
header comes before itself no block can be stored over the genesis block then, which keeps the
state that was given for it, whatever the tool answers.
-/

namespace ChainConformance

variable {ω : Type}

namespace Header

variable {headers headers' : List Header}

lemma Follows.mono (h : headers ⊆ headers') {hash parentHash : Hash}
    (hfollows : Follows headers hash parentHash) : Follows headers' hash parentHash := by
  obtain ⟨x, hx, hhash, hparent⟩ := hfollows
  exact ⟨x, h hx, hhash, hparent⟩

/-- No header comes before itself. -/
def Acyclic (headers : List Header) : Prop :=
  ∀ hash, ¬Relation.TransGen (Follows headers) hash hash

lemma Acyclic.mono (h : Acyclic headers') (hsubset : headers ⊆ headers') : Acyclic headers :=
  fun hash hcycle =>
    h hash (Relation.TransGen.mono (fun _ _ hfollows => hfollows.mono hsubset) _ _ hcycle)

lemma Separated.mono (h : Separated headers') (hsubset : headers ⊆ headers') :
    Separated headers where
  inj x hx y hy := h.inj x (hsubset hx) y (hsubset hy)
  acyclic := Acyclic.mono h.acyclic hsubset

end Header

namespace TransitionChain

/-- A chain that holds a genesis block with a state, to which headers lead down from every block
that it holds. -/
structure Rooted (headers : List Header) (genesis : Header) (pre : Alloc)
    (c : TransitionChain) : Prop where
  genesis_held : c.blocks.get? genesis.hash = some ⟨genesis, pre⟩
  descends : ∀ hash, c.Holds hash →
    Relation.ReflTransGen (Header.Follows headers) hash genesis.hash

lemma rooted_ofGenesis (headers : List Header) (fork : Fork) (pre : Alloc) (genesis : Header) :
    Rooted headers genesis pre (ofGenesis fork pre genesis) where
  genesis_held := by rw [get?_ofGenesis, if_pos rfl]
  descends hash := by
    rintro ⟨stored, hstored⟩
    rw [get?_ofGenesis] at hstored
    split at hstored
    next heq => rw [heq]
    next => cases hstored

variable {headers headers' : List Header} {genesis : Header} {pre : Alloc}
  {c : TransitionChain}

namespace Rooted

lemma holds (h : Rooted headers genesis pre c) : c.Holds genesis.hash := ⟨_, h.genesis_held⟩

lemma withHead (h : Rooted headers genesis pre c) (hash : Hash) :
    Rooted headers genesis pre { c with head := hash } := ⟨h.genesis_held, h.descends⟩

lemma mono (h : Rooted headers genesis pre c) (hsubset : headers ⊆ headers') :
    Rooted headers' genesis pre c where
  genesis_held := h.genesis_held
  descends hash hhash := Relation.ReflTransGen.mono
    (fun _ _ hfollows => hfollows.mono hsubset) _ _ (h.descends hash hhash)

lemma parent_free (h : Rooted headers genesis pre c)
    (hacyclic : Header.Acyclic (genesis :: headers)) : ¬c.Holds genesis.parentHash := by
  intro hheld
  have hdown := (h.mono (List.subset_cons_self genesis headers)).descends _ hheld
  exact hacyclic _ (.head' ⟨genesis, List.mem_cons_self, rfl, rfl⟩ hdown)

variable {b : Block}

lemma hash_ne (h : Rooted headers genesis pre c) (hacyclic : Header.Acyclic headers)
    (hheader : b.header ∈ headers) (hhash : b.hash = b.header.hash)
    (hparent : c.Holds b.header.parentHash) : b.hash ≠ genesis.hash := by
  intro heq
  have hdown : Relation.TransGen (Header.Follows headers) b.hash genesis.hash :=
    .head' ⟨b.header, hheader, hhash.symm, rfl⟩ (h.descends _ hparent)
  rw [heq] at hdown
  exact hacyclic _ hdown

lemma extended (h : Rooted headers genesis pre c) (hacyclic : Header.Acyclic headers)
    (hheader : b.header ∈ headers) (hhash : b.hash = b.header.hash)
    (hparent : c.Holds b.header.parentHash) (alloc : Alloc) :
    Rooted headers genesis pre (c.extended b alloc) where
  genesis_held := by
    have hne := h.hash_ne hacyclic hheader hhash hparent
    rw [TransitionChain.extended, OrderedMap.get?_insert, if_neg hne.symm, h.genesis_held]
  descends hash := by
    rintro ⟨stored, hstored⟩
    by_cases heq : hash = b.hash
    · rw [heq]
      exact .head ⟨b.header, hheader, hhash.symm, rfl⟩ (h.descends _ hparent)
    · rw [TransitionChain.extended, OrderedMap.get?_insert, if_neg heq] at hstored
      exact h.descends hash ⟨stored, hstored⟩

lemma apply {c : TransitionChain} (h : Rooted headers genesis pre c)
    (hacyclic : Header.Acyclic headers) (hheader : b.header ∈ headers)
    (hhash : b.hash = b.header.hash) (tool : TransitionTool ω) (chainId : Word)
    (limit : Option Nat) (w : ω) :
    Rooted headers genesis pre (TransitionChain.apply tool chainId b limit (c, w)).state.1 := by
  rcases apply_cases tool chainId limit c w b with ⟨parent, output, himports⟩ | ⟨-, hsame⟩
  · obtain ⟨hheld, -, -⟩ := parentFor_eq_ok.mp himports.follows
    rw [himports.accepted.2]
    exact h.extended hacyclic hheader hhash ⟨parent, hheld⟩ output.alloc
  · rw [hsame]
    exact h

end Rooted

end TransitionChain

end ChainConformance
