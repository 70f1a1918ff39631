import ChainConformance.Proofs.PostStates
import ChainConformance.Proofs.StateComparison

/-!
# Reading back

The state at the end of a fixture is not read as a whole: a client is asked for the accounts and
the slots that the fixture names, before or after. Nothing that the fixture names is missed in
this way. What is read back shows no difference if and only if the client holds, there, what is
expected.
-/

namespace ChainConformance

/-- A client that answers whatever it is asked for an account if it has the time for it, and
tells what the account is in the given state. -/
structure EngineTarget.Discloses {σ : Type} (t : EngineTarget σ) (I : σ → Prop) (whole : Alloc) :
    Prop extends t.Reflects I whole where
  answers (address : Address) (keys : List Word) {s : σ} (hs : I s) :
    ∃ told, (t.account address keys none s).answer = some (.ok told)

/-- Two accounts have the same balance, code and nonce, and hold the same in some slots. -/
structure Account.AgreesOn (slots : Word → Prop) (a b : Account) : Prop where
  balance : a.balance = b.balance
  code : a.code = b.code
  nonce : a.nonce = b.nonce
  slot (key : Word) (hkey : slots key) : a.slot key = b.slot key

/-- The state holds each account that one of two others has if and only if the second of them
has it, with the same balance, code and nonce, and with the same in the slots that one of the
two names. -/
def Alloc.Fulfils (whole pre expected : Alloc) : Prop :=
  ∀ address, (pre.get? address).isSome ∨ (expected.get? address).isSome →
    Option.Rel (Account.AgreesOn fun key => pre.Names address key ∨ expected.Names address key)
      (whole.get? address) (expected.get? address)

lemma Account.Tells.same_iff {keys : List Word} {whole told expected : Account}
    (h : Tells keys whole told) (hzero : ∀ key ∉ keys, expected.slot key = 0) :
    expected.Same told ↔ whole.AgreesOn (· ∈ keys) expected := by
  constructor
  · intro hsame
    refine ⟨h.balance.symm.trans hsame.balance.symm, h.code.symm.trans hsame.code.symm,
      h.nonce.symm.trans hsame.nonce.symm, fun key hkey => ?_⟩
    rw [hsame.slot, h.slot, if_pos hkey]
  · intro hagrees
    refine ⟨hagrees.balance.symm.trans h.balance.symm, hagrees.code.symm.trans h.code.symm,
      hagrees.nonce.symm.trans h.nonce.symm, fun key => ?_⟩
    rw [h.slot]
    split
    next hkey => exact (hagrees.slot key hkey).symm
    next hkey => exact hzero key hkey

lemma Account.Tells.same_option_iff {keys : List Word} {whole told expected : Option Account}
    (h : Option.Rel (Account.Tells keys) whole told)
    (hzero : ∀ a, expected = some a → ∀ key ∉ keys, a.slot key = 0) :
    Option.Rel Account.Same expected told ↔
      Option.Rel (Account.AgreesOn (· ∈ keys)) whole expected := by
  cases h with
  | none =>
    cases expected with
    | none => exact iff_of_true .none .none
    | some a => exact ⟨nofun, nofun⟩
  | some htells =>
    cases expected with
    | none => exact ⟨nofun, nofun⟩
    | some a =>
      rw [Option.rel_some_some, Option.rel_some_some]
      exact htells.same_iff (hzero a rfl)

namespace Alloc

variable {pre expected whole told : Alloc}

lemma Tells.same_iff_fulfils (h : Tells (pre.readingHint expected) whole told) :
    expected.Same told ↔ whole.Fulfils pre expected := by
  refine forall_congr' fun address => ?_
  have htold := h address
  rw [← isSome_get?_readingHint]
  cases hasked : (pre.readingHint expected).get? address with
  | none =>
    rw [hasked] at htold
    have hboth := mt (isSome_get?_readingHint pre expected address).mpr (by simp [hasked])
    have hexpected : expected.get? address = none := by simpa using (not_or.mp hboth).2
    rw [hexpected, show told.get? address = none from htold]
    exact iff_of_true .none nofun
  | some a =>
    rw [hasked] at htold
    have hnames : (fun key => pre.Names address key ∨ expected.Names address key) =
        (· ∈ a.storage.keys) := by
      funext key
      rw [← readingHint_names_iff, names_iff_mem_keys hasked]
    rw [hnames, Account.Tells.same_option_iff htold fun e he key hkey => ?_]
    · simp
    · refine Account.slot_of_absent (Bool.eq_false_iff.mpr fun hpresent => hkey ?_)
      exact (congrFun hnames key).mp (.inr ⟨e, he, hpresent⟩)

end Alloc

/-- Reading back the accounts and slots of two states, from a client that tells what they are in
its own state, comes to an end with a state. That shows no difference from the second of the two
states if and only if the client has each account that one of them names just if the second one
has it, with the same balance, code and nonce, and with the same in all slots that one of them
names. -/
theorem EngineTarget.Discloses.read_back_iff {σ : Type} {t : EngineTarget σ} {I : σ → Prop}
    {whole : Alloc} (h : t.Discloses I whole) (pre expected : Alloc) {s : σ} (hs : I s) :
    (∃ observed,
      (t.readState (pre.readingHint expected) none s).answer = some (.ok observed)) ∧
    ∀ limit observed,
      (t.readState (pre.readingHint expected) limit s).answer = some (.ok observed) →
      (Mismatch.ofStates expected observed = [] ↔ whole.Fulfils pre expected) := by
  refine ⟨readAccounts_answers h.answers h.keeps _ _ hs, fun limit observed hread => ?_⟩
  rw [Mismatch.ofStates_eq_nil_iff]
  exact (h.readState_tells hs hread).same_iff_fulfils

lemma SampleLauncher.client_discloses (l : SampleLauncher) {c : SampleClient} {b : SampleBlock}
    (hblock : c.blocks.get? c.head.hash = some b) :
    client.Discloses (· = (l, c)) b.alloc := by
  have halloc : c.headAlloc = b.alloc := by
    rw [SampleClient.headAlloc, hblock]
    rfl
  refine ⟨⟨?_, ?_⟩, ?_⟩
  · rintro address keys limit s told rfl htold
    have htells := client_faithful.tells htold
    rwa [halloc] at htells
  · rintro address keys limit s rfl
    rfl
  · rintro address keys s rfl
    have hanswer : c.account address keys = .ok ((b.alloc.get? address).map fun a =>
        { a with storage := OrderedMap.ofList (keys.map fun k => (k, a.slot k)) }) := by
      rw [SampleClient.account, hblock]
    exact ⟨_, congrArg some hanswer⟩

def clientAt (whole : Alloc) : SampleLauncher × SampleClient :=
  ({}, {
    head := ⟨.replicate 0x11, 0⟩
    genesis := .replicate 0x11
    blocks := OrderedMap.ofList
      [(.replicate 0x11, ⟨⟨.replicate 0x11, 0, .zero⟩, .zero, whole⟩)] })

lemma clientAt_discloses (whole : Alloc) :
    SampleLauncher.client.Discloses (· = clientAt whole) whole := by
  have hblock : (clientAt whole).2.blocks.get? (clientAt whole).2.head.hash =
      some ⟨⟨.replicate 0x11, 0, .zero⟩, .zero, whole⟩ := rfl
  exact SampleLauncher.client_discloses (clientAt whole).1 hblock

/-- A slot that should have been cleared is not named by the state that is expected, and is
read all the same. -/
theorem EngineTarget.Discloses.read_back_uncleared :
    let pre := PayloadRun.oneAccount [(5, 7)]
    let expected := PayloadRun.oneAccount []
    SampleLauncher.client.Discloses (· = clientAt pre) pre ∧
    SampleLauncher.client.Discloses (· = clientAt expected) expected ∧
    ¬pre.Fulfils pre expected ∧ expected.Fulfils pre expected := by
  intro pre expected
  have hpre := clientAt_discloses pre
  have hexpected := clientAt_discloses expected
  have huncleared := (EngineTarget.Discloses.read_back_iff hpre pre expected rfl).2 none _ rfl
  have hcleared := (EngineTarget.Discloses.read_back_iff hexpected pre expected rfl).2 none _ rfl
  exact ⟨hpre, hexpected, mt huncleared.mpr (by decide), hcleared.mp (by decide)⟩

end ChainConformance
