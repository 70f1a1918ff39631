import ChainConformance.Proofs.ChainRoots
import Mathlib.Data.PFun

/-!
# The window of ancestors

The hashes that a block may ask for are gathered from parent to parent, until there are enough
of them, until a block has the number zero, or until there is no parent. Nothing counts the
steps of that loop: it goes by how many numbers it has found, so that it ends because numbers
become smaller from a block to its parent, and the window is as wide as it should be because no
number comes twice. Both hold of every chain that calls can lead to, whatever its tool answers.
-/

namespace ChainConformance

variable {ω : Type}

namespace TransitionChain

/-- One turn of the loop that gathers hashes. It is the last at a block that is not held, and
once there is no room for more or a block has the number zero. -/
def gatherStep (blocks : OrderedMap Hash StoredBlock) (hash : Hash)
    (found : OrderedMap Word Hash) : OrderedMap Word Hash ⊕ Hash × OrderedMap Word Hash :=
  match blocks.get? hash with
  | none => .inl found
  | some b =>
    let found := found.insert b.header.number hash
    if ancestorWindow ≤ found.size ∨ b.header.number = 0 then .inl found
    else .inr (b.header.parentHash, found)

/-- Gathers hashes from a block on, turn after turn. A loop that does not end has no value. -/
def gather (blocks : OrderedMap Hash StoredBlock) (hash : Hash) (found : OrderedMap Word Hash) :
    Part (OrderedMap Word Hash) :=
  PFun.fix (fun turn => Part.some (gatherStep blocks turn.1 turn.2)) (hash, found)

section Turns

variable {blocks : OrderedMap Hash StoredBlock} {hash : Hash}

lemma gather_of_absent (hnone : blocks.get? hash = none) (found : OrderedMap Word Hash) :
    gather blocks hash found = Part.some found := by
  refine Part.eq_some_iff.mpr (PFun.fix_stop (Part.mem_some_iff.mpr ?_))
  simp only [gatherStep, hnone]

lemma gather_of_held {b : StoredBlock} (held : blocks.get? hash = some b)
    (found : OrderedMap Word Hash) :
    gather blocks hash found =
      if ancestorWindow ≤ (found.insert b.header.number hash).size ∨ b.header.number = 0 then
        Part.some (found.insert b.header.number hash)
      else gather blocks b.header.parentHash (found.insert b.header.number hash) := by
  split
  next hlast =>
    refine Part.eq_some_iff.mpr (PFun.fix_stop (Part.mem_some_iff.mpr ?_))
    simp only [gatherStep, held, if_pos hlast]
  next hmore =>
    refine PFun.fix_fwd_eq (Part.mem_some_iff.mpr ?_)
    simp only [gatherStep, held, if_neg hmore]

end Turns

/-- The blocks from one that is held back to the first. -/
inductive Lineage (c : TransitionChain) (first : Hash) : Hash → List (Hash × StoredBlock) → Prop
  | first {stored : StoredBlock} (held : c.blocks.get? first = some stored) :
      Lineage c first first [(first, stored)]
  | child {hash : Hash} {stored : StoredBlock} {line : List (Hash × StoredBlock)}
      (held : c.blocks.get? hash = some stored) (other : hash ≠ first)
      (before : Lineage c first stored.header.parentHash line) :
      Lineage c first hash ((hash, stored) :: line)

lemma Lineage.holds {c : TransitionChain} {first hash : Hash}
    {line : List (Hash × StoredBlock)} (h : Lineage c first hash line) : c.Holds hash := by
  cases h with
  | first held => exact ⟨_, held⟩
  | child held _ _ => exact ⟨_, held⟩

/-- How many blocks of a line are within a window: no more than it is wide, and none beyond one
that has the number zero. -/
def reach (width : Nat) (line : List (Hash × StoredBlock)) : Nat :=
  min width (min line.length (line.findIdx (fun e => e.2.header.number = 0) + 1))

def numbered (e : Hash × StoredBlock) : Word × Hash := (e.2.header.number, e.1)

section Reach

variable {e : Hash × StoredBlock} {line : List (Hash × StoredBlock)}

lemma reach_single (width : Nat) (e : Hash × StoredBlock) : reach (width + 1) [e] = 1 := by
  simp only [reach, List.length_singleton]
  omega

lemma reach_zero (width : Nat) (line : List (Hash × StoredBlock))
    (h : e.2.header.number = 0) : reach (width + 1) (e :: line) = 1 := by
  simp only [reach, List.findIdx_cons, h, List.length_cons, decide_true, cond_true]
  omega

lemma reach_one (e : Hash × StoredBlock) (line : List (Hash × StoredBlock)) :
    reach 1 (e :: line) = 1 := by
  simp only [reach, List.length_cons]
  omega

lemma reach_cons (width : Nat) (line : List (Hash × StoredBlock))
    (h : e.2.header.number ≠ 0) : reach (width + 1) (e :: line) = reach width line + 1 := by
  simp only [reach, List.findIdx_cons, h, List.length_cons, decide_false, cond_false]
  omega

end Reach

/-! ### What calls can lead to -/

/-- A stored block that is not the first: one of the blocks that were given, which follows
another stored block. -/
structure Link (blocks : List Block) (c : TransitionChain) (hash : Hash) (stored : StoredBlock)
    (b : Block) (parent : StoredBlock) : Prop where
  given : b ∈ blocks
  hash_eq : b.hash = hash
  header_eq : b.header = stored.header
  follows : c.blocks.get? b.header.parentHash = some parent
  number_eq : b.header.number = parent.header.number + 1
  later : parent.header.timestamp < b.header.timestamp

/-- A chain of blocks that were given, down to its genesis block. -/
structure Linked (genesis : Header) (blocks : List Block) (c : TransitionChain) : Prop where
  rooted : ∃ pre, Rooted (blocks.map (·.header)) genesis pre c
  link : ∀ hash stored, c.blocks.get? hash = some stored → hash ≠ genesis.hash →
    ∃ b parent, Link blocks c hash stored b parent

section Linked

variable {genesis : Header} {blocks blocks' : List Block} {c : TransitionChain}

lemma linked_ofGenesis (fork : Fork) (pre : Alloc) (genesis : Header) :
    Linked genesis [] (ofGenesis fork pre genesis) where
  rooted := ⟨pre, rooted_ofGenesis [] fork pre genesis⟩
  link hash stored hstored hne := by
    rw [get?_ofGenesis, if_neg hne] at hstored
    cases hstored

namespace Linked

lemma withHead (h : Linked genesis blocks c) (hash : Hash) :
    Linked genesis blocks { c with head := hash } where
  rooted := h.rooted.imp fun _ hrooted => hrooted.withHead hash
  link hash' stored hstored hne := by
    obtain ⟨b, parent, hlink⟩ := h.link hash' stored hstored hne
    exact ⟨b, parent, { hlink with }⟩

lemma mono (h : Linked genesis blocks c) (hsubset : blocks ⊆ blocks') :
    Linked genesis blocks' c where
  rooted := h.rooted.imp fun _ hrooted => hrooted.mono (List.map_subset _ hsubset)
  link hash stored hstored hne := by
    obtain ⟨b, parent, hlink⟩ := h.link hash stored hstored hne
    exact ⟨b, parent, { hlink with given := hsubset hlink.given }⟩

lemma lineage (h : Linked genesis blocks c) {hash : Hash} {stored : StoredBlock}
    (hstored : c.blocks.get? hash = some stored) : ∃ line, Lineage c genesis.hash hash line := by
  -- Timestamps decrease from a block to its parent.
  induction htime : stored.header.timestamp.toNat using Nat.strong_induction_on
    generalizing hash stored with
  | _ time ih =>
    by_cases hgenesis : hash = genesis.hash
    · subst hgenesis
      exact ⟨_, .first hstored⟩
    · obtain ⟨b, parent, hlink⟩ := h.link hash stored hstored hgenesis
      have hfollows := hlink.follows
      have hearlier : parent.header.timestamp.toNat < time := by
        rw [← htime, ← hlink.header_eq]
        exact hlink.later
      rw [hlink.header_eq] at hfollows
      obtain ⟨line, hline⟩ := ih _ hearlier hfollows rfl
      exact ⟨_, .child hstored hgenesis hline⟩

lemma number_lt (h : Linked genesis blocks c) {hash : Hash} {stored parent : StoredBlock}
    (hstored : c.blocks.get? hash = some stored) (hne : hash ≠ genesis.hash)
    (hparent : c.blocks.get? stored.header.parentHash = some parent)
    (hzero : stored.header.number ≠ 0) : parent.header.number < stored.header.number := by
  obtain ⟨b, parent', hlink⟩ := h.link hash stored hstored hne
  have hnumber := hlink.number_eq
  have hfollows := hlink.follows
  rw [hlink.header_eq] at hnumber hfollows
  rw [hfollows] at hparent
  obtain rfl := Option.some.inj hparent
  rw [hnumber] at hzero ⊢
  have hsize := parent'.header.number.isLt
  rw [BitVec.lt_def, BitVec.toNat_add]
  rw [ne_eq, ← BitVec.toNat_inj, BitVec.toNat_add] at hzero
  change ¬(parent'.header.number.toNat + 1) % 2 ^ 256 = 0 at hzero
  change _ < (parent'.header.number.toNat + 1) % 2 ^ 256
  omega

section Extended

variable (hdecoded : ∀ b ∈ blocks, ∃ raw, Block.decode raw = .ok b)
  (hsep : Header.Separated (genesis :: blocks.map (·.header)))

include hdecoded hsep

lemma keeps_header (h : Linked genesis blocks c) {b : Block} (hb : b ∈ blocks)
    (hheld : c.Holds b.header.parentHash) (alloc : Alloc) {hash : Hash} {stored : StoredBlock}
    (hstored : c.blocks.get? hash = some stored) :
    ∃ stored', (c.extended b alloc).blocks.get? hash = some stored' ∧
      stored'.header = stored.header := by
  by_cases hhash : hash = b.hash
  · obtain ⟨pre, hrooted⟩ := h.rooted
    obtain ⟨raw, hraw⟩ := hdecoded b hb
    have hne : b.hash ≠ genesis.hash := hrooted.hash_ne
      (Header.Acyclic.mono hsep.acyclic (List.subset_cons_self ..)) (List.mem_map_of_mem hb)
      (Block.header_of_decode hraw).1 hheld
    obtain ⟨b', parent, hlink⟩ := h.link hash stored hstored (hhash ▸ hne)
    obtain ⟨raw', hraw'⟩ := hdecoded b' hlink.given
    have hencode : b.header.encode = b'.header.encode := by
      refine hsep.inj _ (List.mem_cons_of_mem _ (List.mem_map_of_mem hb)) _
        (List.mem_cons_of_mem _ (List.mem_map_of_mem hlink.given)) ?_
      rw [← (Block.header_of_decode hraw).1, ← (Block.header_of_decode hraw').1, hlink.hash_eq,
        hhash]
    refine ⟨⟨b.header, alloc⟩, ?_, ?_⟩
    · rw [TransitionChain.extended, OrderedMap.get?_insert, if_pos hhash]
    · rw [← hlink.header_eq]
      exact Block.header_inj hraw hraw' hencode
  · refine ⟨stored, ?_, rfl⟩
    rw [TransitionChain.extended, OrderedMap.get?_insert, if_neg hhash, hstored]

lemma extended (h : Linked genesis blocks c) {b : Block} (hb : b ∈ blocks)
    {parent : StoredBlock} (hparent : c.parentFor b.header = .ok parent) (alloc : Alloc) :
    Linked genesis blocks (c.extended b alloc) := by
  obtain ⟨hheld, hnumber, htime⟩ := parentFor_eq_ok.mp hparent
  obtain ⟨raw, hraw⟩ := hdecoded b hb
  have hkept : ∀ {hash : Hash} {stored : StoredBlock} {b' : Block} {parent' : StoredBlock},
      Link blocks c hash stored b' parent' →
      ∃ parent'', Link blocks (c.extended b alloc) hash stored b' parent'' := by
    intro hash stored b' parent' hlink
    obtain ⟨parent'', hparent'', hheader⟩ :=
      h.keeps_header hdecoded hsep hb ⟨parent, hheld⟩ alloc hlink.follows
    exact ⟨parent'', { hlink with
      follows := hparent''
      number_eq := by rw [hheader, hlink.number_eq]
      later := by rw [hheader]; exact hlink.later }⟩
  constructor
  · obtain ⟨pre, hrooted⟩ := h.rooted
    exact ⟨pre, hrooted.extended
      (Header.Acyclic.mono hsep.acyclic (List.subset_cons_self ..)) (List.mem_map_of_mem hb)
      (Block.header_of_decode hraw).1 ⟨parent, hheld⟩ alloc⟩
  · intro hash stored hstored hne
    by_cases hhash : hash = b.hash
    · rw [TransitionChain.extended, OrderedMap.get?_insert, if_pos hhash] at hstored
      obtain rfl := Option.some.inj hstored
      exact ⟨b, hkept ⟨hb, hhash.symm, rfl, hheld, hnumber, htime⟩⟩
    · rw [TransitionChain.extended, OrderedMap.get?_insert, if_neg hhash] at hstored
      obtain ⟨b', parent', hlink⟩ := h.link hash stored hstored hne
      exact ⟨b', hkept hlink⟩

end Extended

lemma numbers_decrease (h : Linked genesis blocks c) {hash : Hash}
    {line : List (Hash × StoredBlock)} (hline : Lineage c genesis.hash hash line)
    {stored : StoredBlock} (hstored : c.blocks.get? hash = some stored) (width : Nat) :
    (line.take (reach width line)).Pairwise (fun e e' =>
      e'.2.header.number < e.2.header.number) ∧
    ∀ e ∈ line.take (reach width line), e.2.header.number ≤ stored.header.number := by
  induction hline generalizing stored width with
  | @first stored' held =>
    obtain rfl := Option.some.inj (hstored.symm.trans held)
    have hsingle : ∀ e ∈ [(genesis.hash, stored)].take (reach width [(genesis.hash, stored)]),
        e = (genesis.hash, stored) := fun e he => List.mem_singleton.mp (List.mem_of_mem_take he)
    refine ⟨(List.pairwise_singleton _ _).sublist (List.take_sublist _ _), fun e he => ?_⟩
    rw [hsingle e he]
    exact BitVec.le_refl _
  | @child hash stored' line held other before ih =>
    obtain rfl := Option.some.inj (hstored.symm.trans held)
    cases width with
    | zero =>
      have hnone : reach 0 ((hash, stored) :: line) = 0 := Nat.zero_min _
      rw [hnone]
      exact ⟨.nil, nofun⟩
    | succ width =>
      by_cases hzero : stored.header.number = 0
      · have hone : reach (width + 1) ((hash, stored) :: line) = 1 := reach_zero width line hzero
        rw [hone]
        refine ⟨List.pairwise_singleton _ _, fun e he => ?_⟩
        rw [List.mem_singleton.mp he]
        exact BitVec.le_refl _
      · obtain ⟨parent, hparent⟩ := before.holds
        obtain ⟨hpairwise, hle⟩ := ih hparent width
        have hlt : ∀ e ∈ line.take (reach width line),
            e.2.header.number < stored.header.number := fun e he =>
          Nat.lt_of_le_of_lt (hle e he) (h.number_lt held other hparent hzero)
        have hmore : reach (width + 1) ((hash, stored) :: line) = reach width line + 1 :=
          reach_cons width line hzero
        rw [hmore, List.take_succ_cons]
        refine ⟨List.pairwise_cons.mpr ⟨hlt, hpairwise⟩, fun e he => ?_⟩
        rcases List.mem_cons.mp he with rfl | he
        · exact BitVec.le_refl _
        · exact BitVec.le_of_lt (hlt e he)

/-- The loop ends, having found the blocks within the window, and so does one that counts its
steps as long as there is room for that many. -/
lemma gather_line (h : Linked genesis blocks c)
    (hacyclic : Header.Acyclic (genesis :: blocks.map (·.header))) {hash : Hash}
    {line : List (Hash × StoredBlock)} (hline : Lineage c genesis.hash hash line)
    {stored : StoredBlock} (hstored : c.blocks.get? hash = some stored)
    {found : OrderedMap Word Hash} {room : Nat} (hroom : found.size + (room + 1) = ancestorWindow)
    (hfresh : ∀ number, number ≤ stored.header.number → found.get? number = none) :
    let entries := (line.take (reach (room + 1) line)).map numbered
    gather c.blocks hash found =
        Part.some (entries.foldl (fun m e => m.insert e.1 e.2) found) ∧
      ancestorsFrom c.blocks (room + 1) hash found =
        entries.foldl (fun m e => m.insert e.1 e.2) found := by
  -- By induction on the line: what has been found has greater numbers than the block that is next.
  induction hline generalizing stored found room with
  | @first stored' held =>
    obtain rfl := Option.some.inj (hstored.symm.trans held)
    obtain ⟨pre, hrooted⟩ := h.rooted
    have hnone : c.blocks.get? stored.header.parentHash = none := by
      have hgenesis := Option.some.inj (hstored.symm.trans hrooted.genesis_held)
      rw [hgenesis]
      exact Option.eq_none_iff_forall_ne_some.mpr fun b hb =>
        hrooted.parent_free hacyclic ⟨b, hb⟩
    have hlast : ∀ found, gather c.blocks stored.header.parentHash found = Part.some found :=
      gather_of_absent hnone
    have hlast' : ∀ room found,
        ancestorsFrom c.blocks room stored.header.parentHash found = found := by
      intro room found
      cases room with
      | zero => rfl
      | succ room => rw [ancestorsFrom, hnone]
    rw [gather_of_held held, ancestorsFrom, held, reach_single]
    simp only [hlast, hlast', ite_self]
    exact ⟨rfl, rfl⟩
  | @child hash stored' line held other before ih =>
    obtain rfl := Option.some.inj (hstored.symm.trans held)
    have hsize : (found.insert stored.header.number hash).size = found.size + 1 :=
      OrderedMap.size_insert (hfresh _ (BitVec.le_refl _)) hash
    rw [gather_of_held held, ancestorsFrom, held]
    simp only [hsize]
    by_cases hzero : stored.header.number = 0
    · rw [if_pos (.inr hzero), if_pos hzero, reach_zero room line hzero]
      exact ⟨rfl, rfl⟩
    · cases room with
      | zero =>
        rw [if_pos (.inl (by omega)), if_neg hzero, reach_one]
        exact ⟨rfl, rfl⟩
      | succ room =>
        obtain ⟨parent, hparent⟩ := before.holds
        have hlt := h.number_lt held other hparent hzero
        have hfull : ¬(ancestorWindow ≤ found.size + 1 ∨ stored.header.number = 0) := by
          rintro (hfull | hzero')
          · omega
          · exact hzero hzero'
        rw [if_neg hfull, if_neg hzero, reach_cons (room + 1) line hzero, List.take_succ_cons]
        refine ih hparent (by omega) fun number hnumber => ?_
        have hless : number < stored.header.number := Nat.lt_of_le_of_lt hnumber hlt
        rw [OrderedMap.get?_insert, if_neg (BitVec.ne_of_lt hless)]
        exact hfresh number (BitVec.le_of_lt hless)

end Linked

end Linked

/-- What calls lead to from a chain that holds nothing: the genesis block that the chain was last
started from, and the blocks that it has been given since. -/
inductive Reached (target : BlockTarget (TransitionChain × ω)) :
    Option Header → List Block → TransitionChain × ω → Prop
  | new (w : ω) : Reached target none [] ({}, w)
  | restarted {root : Option Header} {blocks : List Block} {s : TransitionChain × ω}
      (before : Reached target root blocks s) (limit : Option Nat) (fork : Fork) (pre : Alloc)
      (genesis : Header) (restarts : (ChainCall.start fork pre genesis).Restarts target limit s) :
      Reached target (some genesis) [] ((ChainCall.start fork pre genesis).after target limit s)
  | continued {root : Option Header} {blocks : List Block} {s : TransitionChain × ω}
      (before : Reached target root blocks s) (limit : Option Nat) (call : ChainCall)
      (continues : ¬call.Restarts target limit s) :
      Reached target root (blocks ++ ChainCall.blocks [call]) (call.after target limit s)

namespace Reached

variable {tool : TransitionTool ω} {chainId : Word} {root : Option Header} {blocks : List Block}
  {s s' : TransitionChain × ω}

lemma continues {t : BlockTarget (TransitionChain × ω)} {calls : List ChainCall}
    (h : Reached t root blocks s) (hrun : ChainCall.Continues t calls s s') :
    Reached t root (blocks ++ ChainCall.blocks calls) s' := by
  induction hrun generalizing blocks with
  | nil s =>
    rw [show ChainCall.blocks [] = [] from rfl, List.append_nil]
    exact h
  | @cons call calls s s' limit hcontinues _ ih =>
    have hblocks : ChainCall.blocks (call :: calls) =
        ChainCall.blocks [call] ++ ChainCall.blocks calls :=
      List.filterMap_append (l := [call])
    rw [hblocks, ← List.append_assoc]
    exact ih (h.continued limit call hcontinues)

lemma decoded {t : BlockTarget (TransitionChain × ω)} (h : Reached t root blocks s) :
    ∀ b ∈ blocks, ∃ raw, Block.decode raw = .ok b := by
  induction h with
  | new w => exact nofun
  | restarted _ _ _ _ _ _ _ => exact nofun
  | continued _ limit call _ ih =>
    intro b hb
    rcases List.mem_append.mp hb with hb | hb
    · exact ih b hb
    · exact ChainCall.decoded_of_mem hb

lemma linked (h : Reached (target tool chainId) root blocks s)
    (hsep : Header.Separated (root.toList ++ blocks.map (·.header)))
    (hholds : ∃ hash, s.1.Holds hash) :
    ∃ genesis, root = some genesis ∧ Linked genesis blocks s.1 := by
  induction h with
  | new w =>
    obtain ⟨hash, stored, hstored⟩ := hholds
    cases hstored
  | @restarted root blocks s before limit fork pre genesis restarts =>
    refine ⟨genesis, rfl, ?_⟩
    obtain ⟨g, hg⟩ := restarts
    change Linked genesis [] (start tool chainId fork pre genesis limit s).state.1
    rcases start_after tool chainId fork pre genesis limit s with ⟨_, _, hafter⟩ | ⟨hnot, _⟩
    · rw [hafter]
      exact linked_ofGenesis fork pre genesis
    · exact absurd hg (hnot g)
  | @continued root blocks s before limit call continues ih =>
    have hbefore : (∃ hash, s.1.Holds hash) → ∃ genesis, root = some genesis ∧
        Linked genesis (blocks ++ ChainCall.blocks [call]) s.1 := by
      intro hheld
      rw [List.map_append, ← List.append_assoc] at hsep
      obtain ⟨genesis, hroot, hlinked⟩ := ih (hsep.mono (List.subset_append_left ..)) hheld
      exact ⟨genesis, hroot, hlinked.mono (List.subset_append_left ..)⟩
    cases call with
    | start fork pre genesis =>
      have hafter : ((ChainCall.start fork pre genesis).after (target tool chainId) limit s).1 =
          s.1 := by
        rcases start_after tool chainId fork pre genesis limit s with ⟨g, hg, _⟩ | ⟨_, hafter⟩
        · exact absurd ⟨g, hg⟩ continues
        · exact hafter
      rw [hafter] at hholds ⊢
      exact hbefore hholds
    | apply raw b hdecodes =>
      obtain ⟨c, w⟩ := s
      change ∃ hash, (apply tool chainId b limit (c, w)).state.1.Holds hash at hholds
      change ∃ genesis, root = some genesis ∧
        Linked genesis (blocks ++ [b]) (apply tool chainId b limit (c, w)).state.1
      rcases apply_cases tool chainId limit c w b with ⟨parent, output, himports⟩ | ⟨-, hsame⟩
      · obtain ⟨hheld, -, -⟩ := parentFor_eq_ok.mp himports.follows
        obtain ⟨genesis, rfl, hlinked⟩ := hbefore ⟨_, parent, hheld⟩
        rw [himports.accepted.2]
        exact ⟨genesis, rfl, hlinked.extended
          (before.continued limit (.apply raw b hdecodes) continues).decoded hsep
          (List.mem_append_right _ List.mem_cons_self) himports.follows output.alloc⟩
      · rw [hsame] at hholds ⊢
        exact hbefore hholds
    | readState hint => exact hbefore hholds
    | resetTo hash =>
      change ∃ hash', (resetTo hash s.1).2.Holds hash' at hholds
      change ∃ genesis, root = some genesis ∧ Linked genesis _ (resetTo hash s.1).2
      unfold resetTo at hholds ⊢
      split at hholds
      next hheld =>
        obtain ⟨genesis, hroot, hlinked⟩ := hbefore hholds
        rw [if_pos hheld]
        exact ⟨genesis, hroot, hlinked.withHead hash⟩
      next hnot =>
        rw [if_neg hnot]
        exact hbefore hholds

end Reached

/-- Whatever calls a chain has come from, the loop that gathers the ancestors of a block that it
holds ends, with what the chain counts out: the hashes of the blocks from this one back by their
numbers, no two of which are the same. There are as many as the window is wide, or as there are
blocks back to the genesis block, or back to the first that has the number zero, whichever is the
least. -/
theorem ancestors_window {tool : TransitionTool ω} {chainId : Word} {root : Option Header}
    {blocks : List Block} {s : TransitionChain × ω}
    (hreached : Reached (target tool chainId) root blocks s)
    (hsep : Header.Separated (root.toList ++ blocks.map (·.header)))
    {hash : Hash} {stored : StoredBlock} (hstored : s.1.blocks.get? hash = some stored) :
    ∃ genesis line, root = some genesis ∧ Lineage s.1 genesis.hash hash line ∧
      let k := min ancestorWindow
        (min line.length (line.findIdx (fun e => e.2.header.number = 0) + 1))
      gather s.1.blocks hash .empty = Part.some (s.1.ancestors hash) ∧
      (s.1.ancestors hash).size = k ∧
      (s.1.ancestors hash).entries.Perm
        ((line.take k).map fun e => (e.2.header.number, e.1)) ∧
      ((line.take k).map fun e => e.2.header.number).Nodup := by
  obtain ⟨genesis, rfl, hlinked⟩ := hreached.linked hsep ⟨hash, stored, hstored⟩
  obtain ⟨line, hline⟩ := hlinked.lineage hstored
  have hroom : (.empty : OrderedMap Word Hash).size + (255 + 1) = ancestorWindow := rfl
  obtain ⟨hgather, hancestors⟩ :=
    hlinked.gather_line hsep.acyclic hline hstored hroom fun _ _ => rfl
  have hdecrease := (hlinked.numbers_decrease hline hstored ancestorWindow).1
  have hnodup : ((line.take (reach ancestorWindow line)).map fun e => e.2.header.number).Nodup :=
    List.Pairwise.map _ (fun _ _ hlt => (BitVec.ne_of_lt hlt).symm) hdecrease
  have hkeys : (((line.take (reach ancestorWindow line)).map numbered).map (·.1)).Nodup := by
    rw [List.map_map]
    exact hnodup
  have hentries : (s.1.ancestors hash).entries.Perm
      ((line.take (reach ancestorWindow line)).map numbered) := by
    have hperm := OrderedMap.entries_ofList_perm hkeys
    rw [show s.1.ancestors hash = _ from hancestors]
    exact hperm
  refine ⟨genesis, line, rfl, hline, ?_, ?_, hentries, hnodup⟩
  · rw [hgather]
    exact congrArg Part.some hancestors.symm
  · have hlength := hentries.length_eq
    rw [List.length_map, List.length_take] at hlength
    have hle : reach ancestorWindow line ≤ line.length :=
      (Nat.min_le_right _ _).trans (Nat.min_le_left _ _)
    exact hlength.trans (Nat.min_eq_left hle)

lemma Lineage.unique {c : TransitionChain} {first hash : Hash}
    {line line' : List (Hash × StoredBlock)} (h : Lineage c first hash line)
    (h' : Lineage c first hash line') : line = line' := by
  induction h generalizing line' with
  | first held =>
    cases h' with
    | first held' => rw [Option.some.inj (held.symm.trans held')]
    | child _ other _ => exact absurd rfl other
  | child held other _ ih =>
    cases h' with
    | first _ => exact absurd rfl other
    | child held' _ before' =>
      obtain rfl := Option.some.inj (held.symm.trans held')
      rw [ih before']

/-- A block is given twice, with two bodies and two states under one header. Its ancestors are
the block itself and the genesis block, which has the number zero. -/
theorem ancestors_window_refilled :
    ∃ s, Reached (target (rootlessTool counted) 1) (some default)
        (ChainCall.blocks [give [] size_empty, give [⟨false, [2]⟩] size_full]) s ∧
      Header.Separated (default :: (ChainCall.blocks
        [give [] size_empty, give [⟨false, [2]⟩] size_full]).map (·.header)) ∧
      s.1.blocks.get? secondHash = some ⟨secondHeader, oneAccount⟩ ∧
      gather s.1.blocks secondHash .empty = Part.some (s.1.ancestors secondHash) ∧
      (s.1.ancestors secondHash).size = 2 := by
  have hsep := separated_of_subset (headers_subset [] [⟨false, [2]⟩] size_empty size_full)
  have hfirst := continues_give counted size_empty get?_started
  have hsecond := continues_give counted size_full (get?_extended_first get?_started []
    (counted (Transition.encodeTransactions (secondBlock []).block.transactions)))
  have hstarted : Reached (target (rootlessTool counted) 1) (some default) [] started :=
    (Reached.new ()).restarted none .frontier .empty default ⟨_, start_answer counted⟩
  have hreached := (hstarted.continues hfirst).continues hsecond
  -- What is held by then under the two hashes.
  have hgenesis := get?_extended_first (get?_extended_first get?_started []
    (counted (Transition.encodeTransactions (secondBlock []).block.transactions))) [⟨false, [2]⟩]
    (counted (Transition.encodeTransactions (secondBlock [⟨false, [2]⟩]).block.transactions))
  have hblock := get?_extended_second (started.1.extended (secondBlock []).block
    (counted (Transition.encodeTransactions (secondBlock []).block.transactions)))
    [⟨false, [2]⟩] (counted (Transition.encodeTransactions
      (secondBlock [⟨false, [2]⟩]).block.transactions)) secondHash
  rw [if_pos rfl] at hblock
  obtain ⟨genesis, line, hroot, hline, hends, hsize, -⟩ :=
    ancestors_window hreached hsep hblock
  obtain rfl := Option.some.inj hroot
  rw [hash_first] at hline
  have hlineage := Lineage.child hblock (by decide) (.first hgenesis)
  refine ⟨_, hreached, hsep, hblock, hends, ?_⟩
  rw [hsize, hline.unique hlineage]
  rfl

end TransitionChain

end ChainConformance
