import ChainConformance.Proofs.ChainStore

/-!
# Imports of computed chains

A chain that a transition tool computes imports a block if the block follows one that it holds
and the header says of the execution what the tool reports. Numbers are compared modulo the size
of a word, and gas only up to the greatest amount that a tool can report: beyond that the header
may say what it likes.
-/

namespace ChainConformance

variable {ω : Type}

lemma Word.toNat_saturated (w : Word) : w.saturated.toNat = min w.toNat (UInt64.size - 1) := by
  rw [saturated, UInt64.toNat_ofNat', Nat.mod_eq_of_lt]
  exact Nat.lt_of_le_of_lt (Nat.min_le_right _ _) (by decide)

namespace TransitionChain

/-- What has to be so for a block to be imported, apart from its number and its gas: the chain
holds its parent, it is later, and the tool has executed all its transactions and found the roots
that its header has. -/
structure Fits (c : TransitionChain) (b : Block) (parent : StoredBlock) (r : TransitionResult) :
    Prop where
  held : c.blocks.get? b.header.parentHash = some parent
  later : parent.header.timestamp.toNat < b.header.timestamp.toNat
  complete : r.rejected = []
  receiptsRoot : r.receiptsRoot = b.header.receiptsRoot
  stateRoot : r.stateRoot = b.header.stateRoot

/-- The block is right: its number is the next one, and its gas what the tool reports. -/
structure Conforms (c : TransitionChain) (b : Block) (parent : StoredBlock)
    (r : TransitionResult) : Prop extends Fits c b parent r where
  number : b.header.number.toNat = parent.header.number.toNat + 1
  gasUsed : r.gasUsed.toNat = b.header.gasUsed.toNat

/-- The chain has nothing against the block: its number is the next one unless there is none, and
then zero, and its gas what the tool reports unless it is more than a tool can report. -/
structure Admits (c : TransitionChain) (b : Block) (parent : StoredBlock)
    (r : TransitionResult) : Prop extends Fits c b parent r where
  number : b.header.number.toNat = (parent.header.number.toNat + 1) % Nat.pow 2 256
  gasUsed : r.gasUsed.toNat = min b.header.gasUsed.toNat (UInt64.size - 1)

variable {c : TransitionChain} {b : Block} {parent : StoredBlock} {r : TransitionResult}

lemma conforms_iff : Conforms c b parent r ↔ Admits c b parent r ∧
    0 < b.header.number.toNat ∧ b.header.gasUsed.toNat < UInt64.size := by
  have hparent : parent.header.number.toNat < Nat.pow 2 256 := parent.header.number.isLt
  have hnumber : b.header.number.toNat < Nat.pow 2 256 := b.header.number.isLt
  have hgas : r.gasUsed.toNat < UInt64.size := r.gasUsed.toNat_lt
  constructor
  · intro h
    have hnext := h.number
    have hsame := h.gasUsed
    refine ⟨⟨h.toFits, ?_, ?_⟩, by omega, by omega⟩
    · rw [← hnext, Nat.mod_eq_of_lt hnumber]
    · rw [hsame, Nat.min_eq_left (by omega)]
  · rintro ⟨h, hpositive, hless⟩
    have hnext := h.number
    refine ⟨h.toFits, ?_, ?_⟩
    · rcases Nat.lt_or_ge (parent.header.number.toNat + 1) (Nat.pow 2 256) with hlt | hge
      · rw [hnext, Nat.mod_eq_of_lt hlt]
      · have hlast : parent.header.number.toNat + 1 = Nat.pow 2 256 :=
          Nat.le_antisymm hparent hge
        rw [hlast, Nat.mod_self] at hnext
        omega
    · rw [h.gasUsed, Nat.min_eq_left (by omega)]

lemma admits_iff : Admits c b parent r ↔
    c.parentFor b.header = .ok parent ∧ refusal? b.header r = none := by
  rw [parentFor_eq_ok, refusal?_eq_none_iff, ← BitVec.toNat_inj, BitVec.toNat_add,
    ← UInt64.toNat_inj, Word.toNat_saturated]
  constructor
  · intro h
    exact ⟨⟨h.held, h.number, h.later⟩, h.complete, h.gasUsed, h.receiptsRoot, h.stateRoot⟩
  · rintro ⟨⟨held, number, later⟩, complete, gasUsed, receiptsRoot, stateRoot⟩
    exact ⟨⟨held, later, complete, receiptsRoot, stateRoot⟩, number, gasUsed⟩

lemma imports_iff {tool : TransitionTool ω} {chainId : Word} {limit : Option Nat} {w : ω}
    {output : TransitionOutput} : Imports tool chainId limit c w b parent output ↔
      (tool (c.task chainId b parent).1 (c.task chainId b parent).2 limit w).answer =
        some (.ok output) ∧ Admits c b parent output.result := by
  rw [admits_iff]
  exact ⟨fun h => ⟨h.ran, h.follows, h.agrees⟩, fun ⟨ran, follows, agrees⟩ =>
    ⟨follows, ran, agrees⟩⟩

/-- A block is accepted if and only if the chain admits it after its parent, by what the tool
reports. It is stored under its hash then, with the state that the tool has made, and becomes
the head, which is what the answer says. A block that is admitted is one that is right, unless it
has the number zero or more gas than a tool can report. -/
theorem apply_accepts_iff (tool : TransitionTool ω) (chainId : Word) (c : TransitionChain)
    (b : Block) (raw : Bytes) (limit : Option Nat) (w : ω) :
    let call := (target tool chainId).apply b raw limit (c, w)
    let ran := fun parent =>
      (tool (c.task chainId b parent).1 (c.task chainId b parent).2 limit w).answer
    ((∃ head stateRoot, call.answer = some (.ok (.accepted head stateRoot))) ↔
      ∃ parent output, ran parent = some (.ok output) ∧ Admits c b parent output.result) ∧
    (∀ parent output, ran parent = some (.ok output) → Admits c b parent output.result →
      call.answer = some (.ok (.accepted ⟨b.hash, b.number⟩ output.result.stateRoot)) ∧
      call.state.1 =
        { c with blocks := c.blocks.insert b.hash ⟨b.header, output.alloc⟩, head := b.hash }) ∧
    ∀ parent r, Conforms c b parent r ↔ Admits c b parent r ∧
      0 < b.header.number.toNat ∧ b.header.gasUsed.toNat < UInt64.size := by
  intro call ran
  have himports : ∀ parent output, ran parent = some (.ok output) →
      Admits c b parent output.result →
      call.answer = some (.ok (.accepted ⟨b.hash, b.number⟩ output.result.stateRoot)) ∧
      call.state.1 = c.extended b output.alloc := by
    intro parent output hran hadmits
    rw [hadmits.stateRoot]
    exact (imports_iff.mpr ⟨hran, hadmits⟩).accepted
  refine ⟨⟨?_, ?_⟩, himports, fun parent r => conforms_iff⟩
  · rintro ⟨head, stateRoot, haccepted⟩
    rcases apply_cases tool chainId limit c w b with ⟨parent, output, h⟩ | ⟨hnot, -⟩
    · exact ⟨parent, output, imports_iff.mp h⟩
    · exact absurd haccepted (hnot head stateRoot)
  · rintro ⟨parent, output, hran, hadmits⟩
    exact ⟨_, _, (himports parent output hran hadmits).1⟩

def greedy : TransitionOutput :=
  ⟨.empty, { stateRoot := .zero, gasUsed := UInt64.ofNat (UInt64.size - 1) }⟩

def greedyTool : TransitionTool Unit := fun _ _ => .instantly fun w => (.ok greedy, w)

def begun (genesis : Header) : TransitionChain × Unit := (ofGenesis .frontier .empty genesis, ())

lemma start_begun (genesis : Header) :
    (target greedyTool 1).start .frontier .empty genesis none ({}, ()) =
      ⟨some (.ok ⟨.zero, genesis.hash⟩), 0, begun genesis⟩ :=
  start_eq greedyTool 1 .frontier .empty genesis none {} ()

lemma admits_begun {genesis h : Header} {b : Block} (hheader : b.header = h)
    (hparent : h.parentHash = genesis.hash) (hnumber : h.number = genesis.number + 1)
    (hlater : genesis.timestamp < h.timestamp) (hrefusal : refusal? h greedy.result = none) :
    Admits (begun genesis).1 b ⟨genesis, .empty⟩ greedy.result := by
  subst hheader
  have hheld : (begun genesis).1.blocks.get? b.header.parentHash = some ⟨genesis, .empty⟩ := by
    rw [begun, get?_ofGenesis, if_pos hparent]
  exact admits_iff.mpr ⟨parentFor_eq_ok.mpr ⟨hheld, hnumber, hlater⟩, hrefusal⟩

def thirsty (gas : Nat) : Block.Layout :=
  ⟨{ secondHeader with gasUsed := BitVec.ofNat 256 gas }, [], [], none⟩

lemma admits_thirsty (gas : Nat)
    (hrefusal : refusal? (thirsty gas).header greedy.result = none) :
    Admits (begun default).1 (thirsty gas).block ⟨default, .empty⟩ greedy.result :=
  admits_begun rfl hash_first.symm rfl (show (0 : Word) < 1 by decide) hrefusal

theorem apply_accepts_iff_greatest :
    Conforms (begun default).1 (thirsty (UInt64.size - 1)).block ⟨default, .empty⟩ greedy.result ∧
    ((target greedyTool 1).apply (thirsty (UInt64.size - 1)).block [] none (begun default)).answer =
      some (.ok (.accepted (thirsty (UInt64.size - 1)).block.head .zero)) := by
  obtain ⟨-, himports, hconforms⟩ := apply_accepts_iff greedyTool 1 (begun default).1
    (thirsty (UInt64.size - 1)).block [] none ()
  have hadmits := admits_thirsty (UInt64.size - 1) (by decide)
  exact ⟨(hconforms _ _).mpr ⟨hadmits, by decide, by decide⟩, (himports _ greedy rfl hadmits).1⟩

def lastHeader : Header := { (default : Header) with number := BitVec.allOnes 256 }

def lastHash : Hash := ⟨[
  0xaa, 0x49, 0x49, 0xb1, 0x4c, 0x10, 0x5a, 0x07, 0x52, 0x2e, 0x19, 0x63, 0xcb, 0x29, 0xae, 0x8b,
  0x83, 0x09, 0x84, 0xee, 0xab, 0xbf, 0x90, 0x0f, 0x74, 0x00, 0x12, 0x2d, 0xca, 0xc8, 0x42, 0x10],
  rfl⟩

lemma hash_last : lastHeader.hash = lastHash := by
  rw [FixedBytes.ext_iff, Header.hash, Keccak.keccak256_bytes]
  decide +kernel

def wrapped : Block.Layout :=
  ⟨{ (default : Header) with
      parentHash := lastHash, timestamp := 1, gasUsed := BitVec.ofNat 256 (UInt64.size - 1) },
    [], [], none⟩

/-- A chain that is started from the header accepts the encoded block, although it is not right
after any parent. -/
def AcceptsAmiss (genesis : Header) (l : Block.Layout) : Prop :=
  Block.decode l.encode = .ok l.block ∧
  ∃ g s, ((target greedyTool 1).start .frontier .empty genesis none ({}, ())).answer =
      some (.ok g) ∧
    ((target greedyTool 1).start .frontier .empty genesis none ({}, ())).state = s ∧
    (∃ head stateRoot, ((target greedyTool 1).apply l.block l.encode none s).answer =
      some (.ok (.accepted head stateRoot))) ∧
    ∀ parent r, ¬Conforms s.1 l.block parent r

lemma acceptsAmiss {genesis : Header} {l : Block.Layout} (hcanonical : l.Canonical)
    (hadmits : Admits (begun genesis).1 l.block ⟨genesis, .empty⟩ greedy.result)
    (hends : ¬(0 < l.block.header.number.toNat ∧ l.block.header.gasUsed.toNat < UInt64.size)) :
    AcceptsAmiss genesis l := by
  refine ⟨Block.decode_eq_ok.mpr ⟨l, hcanonical, rfl, rfl⟩, _, begun genesis,
    congrArg Attempt.answer (start_begun genesis), congrArg Attempt.state (start_begun genesis),
    ⟨_, _, (imports_iff.mpr ⟨rfl, hadmits⟩).accepted.1⟩, fun parent r h => ?_⟩
  exact hends (conforms_iff.mp h).2

/-- A block is accepted that has more gas than the tool reports, and so is one that has the
number zero. -/
theorem apply_accepts_amiss :
    AcceptsAmiss default (thirsty UInt64.size) ∧ AcceptsAmiss lastHeader wrapped := by
  have hthirsty : (thirsty UInt64.size).Canonical :=
    ⟨⟨rfl, by decide⟩, nofun, by decide +kernel⟩
  have hwrapped : wrapped.Canonical := ⟨⟨rfl, by decide⟩, nofun, by decide +kernel⟩
  have hadmits : Admits (begun lastHeader).1 wrapped.block ⟨lastHeader, .empty⟩ greedy.result :=
    admits_begun rfl hash_last.symm (by decide) (by decide) (by decide)
  constructor
  · exact acceptsAmiss hthirsty (admits_thirsty UInt64.size (by decide)) (by decide)
  · exact acceptsAmiss hwrapped hadmits (by decide)

end TransitionChain

end ChainConformance
