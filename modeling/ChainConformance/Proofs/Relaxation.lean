import ChainConformance.Proofs.Stages
import Mathlib.Data.List.Forall2

/-!
# Laxer judgements

A run that passes also passes under a laxer policy, and with more tags expected of its
steps. Two runs over the same calls are compared by what becomes of them where the first
ends well; a failure of the first one says nothing of the second.
-/

namespace ChainConformance

/-- The second step ends well wherever the first one does, and in the same way. -/
def Upholds {ε σ α : Type} (x y : ExceptT ε (StateM σ) α) : Prop :=
  ∀ ⦃s a s'⦄, x.run.run s = (.ok a, s') → y.run.run s = (.ok a, s')

namespace Upholds

variable {ε σ α β : Type}

lemma refl (x : ExceptT ε (StateM σ) α) : Upholds x x := fun _ _ _ h => h

lemma bind {x y : ExceptT ε (StateM σ) α} {next next' : α → ExceptT ε (StateM σ) β}
    (first : Upholds x y) (others : ∀ a, Upholds (next a) (next' a)) :
    Upholds (x >>= next) (y >>= next') := by
  intro s b s' h
  obtain ⟨a, s₁, hx, hnext⟩ := run_bind_eq_ok.mp h
  exact run_bind_eq_ok.mpr ⟨a, s₁, first hx, others a hnext⟩

lemma lift {x y : Except ε α} (h : ∀ a, x = .ok a → y = .ok a) :
    Upholds (liftM x : ExceptT ε (StateM σ) α) (liftM y) := by
  intro s a s' hx
  obtain ⟨hok, hs⟩ := run_lift_eq_ok.mp hx
  exact run_lift_eq_ok.mpr ⟨h a hok, hs⟩

end Upholds

def MatchPolicy.laxity : MatchPolicy → Nat
  | strict => 0
  | relaxed false => 1
  | relaxed true => 2

/-- The second of two expectations is as wide as the first one: there is one if and only if
there is one in the first, and it has all tags of that. -/
def Widens : Option ExceptionSet → Option ExceptionSet → Prop :=
  Option.Rel fun s t => s.tags ⊆ t.tags

/-- A block with a wider expectation. -/
structure FixtureBlock.Widened (b b' : FixtureBlock) : Prop where
  same : b' = { b with expected := b'.expected }
  wider : Widens b.expected b'.expected

/-- A payload with a wider expectation. -/
structure PayloadEntry.Widened (e e' : PayloadEntry) : Prop where
  same : e' = { e with validationError := e'.validationError }
  wider : Widens e.validationError e'.validationError

/-- The client answers two payloads alike. -/
def EngineTarget.HearsAlike {σ : Type} (target : EngineTarget σ) (e e' : PayloadEntry) :
    Prop :=
  ∀ version, target.newPayload version e' = target.newPayload version e

lemma Widens.isNone {s t : Option ExceptionSet} (h : Widens s t) : t.isNone = s.isNone := by
  cases h <;> rfl

lemma Widens.exists_of_some {s t : Option ExceptionSet} (h : Widens s t) {set : ExceptionSet}
    (expects : s = some set) : ∃ set', t = some set' ∧ set.tags ⊆ set'.tags := by
  subst expects
  cases h with
  | some hwider => exact ⟨_, rfl, hwider⟩

lemma MatchPolicy.admits_mono {p q : MatchPolicy} (hlax : p.laxity ≤ q.laxity)
    {s t : ExceptionSet} (hwide : s.tags ⊆ t.tags) {c : Classification}
    (h : p.admits s c) : q.admits t c := by
  cases q with
  | relaxed decode => cases c <;> rfl
  | strict =>
    have hp : p = .strict := by
      cases p with
      | strict => rfl
      | relaxed decode => cases decode <;> simp [laxity] at hlax
    subst hp
    cases c with
    | unmapped => cases h
    | mapped tag =>
      simp only [admits, ExceptionSet.contains, List.contains_iff_mem] at h ⊢
      exact hwide h

lemma MatchPolicy.admitsDecodeFailure_mono {p q : MatchPolicy}
    (hlax : p.laxity ≤ q.laxity) {s t : ExceptionSet} (hwide : s.tags ⊆ t.tags)
    (h : p.admitsDecodeFailure s) : q.admitsDecodeFailure t := by
  simp only [admitsDecodeFailure, ExceptionSet.admitsDecodeFailure, Bool.or_eq_true,
    List.any_eq_true, beq_iff_eq] at h ⊢
  rcases h with ⟨tag, htag, hdecode⟩ | rfl
  · exact Or.inl ⟨tag, hwide htag, hdecode⟩
  · right
    cases q with
    | strict => simp [laxity] at hlax
    | relaxed decode => cases decode <;> simp_all [laxity]

lemma MatchPolicy.any_admitsDecodeFailure_mono {p q : MatchPolicy}
    (hlax : p.laxity ≤ q.laxity) {s t : Option ExceptionSet} (hwide : Widens s t)
    (h : s.any p.admitsDecodeFailure) : t.any q.admitsDecodeFailure := by
  cases hwide with
  | none => cases h
  | some hwide => exact admitsDecodeFailure_mono hlax hwide h

lemma Terms.judgeRejection_mono {t : Terms} {q : MatchPolicy}
    (hlax : t.policy.laxity ≤ q.laxity) {expected expected' : Option ExceptionSet}
    (hwide : Widens expected expected') (index : Nat) (message : String)
    (c : Classification) (u : Unit) (h : t.judgeRejection index expected message c = .ok u) :
    ({ t with policy := q } : Terms).judgeRejection index expected' message c = .ok u := by
  obtain ⟨s, expects, hadmits⟩ := judgeRejection_eq_ok.mp h
  obtain ⟨s', expects', hwider⟩ := hwide.exists_of_some expects
  exact judgeRejection_eq_ok.mpr ⟨s', expects', MatchPolicy.admits_mono hlax hwider hadmits⟩

lemma map_eq_of_forall₂ {α β : Type} {R : α → α → Prop} {g : α → β}
    (hg : ∀ a a', R a a' → g a' = g a) {l l' : List α} (h : List.Forall₂ R l l') :
    l'.map g = l.map g := by
  induction h with
  | nil => rfl
  | cons first _ ih => rw [List.map_cons, List.map_cons, hg _ _ first, ih]

namespace Fixture

def offering (f : Fixture) (bs : List FixtureBlock) (es : List PayloadEntry) : Fixture :=
  { f with blocks := bs, payloads := es }

variable {f : Fixture} {bs : List FixtureBlock} {es : List PayloadEntry}

lemma lastNumber_eq {f f' : Fixture} (hgenesis : f'.genesis = f.genesis)
    (hlast : f'.lastBlockHash = f.lastBlockHash) (hengine : f'.isEngine = f.isEngine)
    (hheaders : f'.blocks.map (·.header) = f.blocks.map (·.header))
    (hvalid : f'.blocks.map FixtureBlock.isValid = f.blocks.map FixtureBlock.isValid)
    (hpayloads : f'.payloads.map (·.payload) = f.payloads.map (·.payload))
    (hexpects : f'.payloads.map PayloadEntry.expectsValid =
      f.payloads.map PayloadEntry.expectsValid) : f'.lastNumber = f.lastNumber := by
  have hcount : f'.validCount = f.validCount := by
    have hcountP {α : Type} (p : α → Bool) (l : List α) :
        l.countP p = (l.map p).countP id := by
      rw [List.countP_map]
      rfl
    unfold validCount
    rw [hengine, hcountP PayloadEntry.expectsValid, hcountP FixtureBlock.isValid, hexpects,
      hvalid, ← hcountP, ← hcountP]
  have hfound (g : Fixture) :
      (g.payloads.find? fun p => p.blockHash = f.lastBlockHash).map (·.payload.number) =
        ((g.payloads.map (·.payload)).find? fun p =>
          p.blockHash = f.lastBlockHash).map (·.number) := by
    rw [List.find?_map, Option.map_map]
    rfl
  have hstated (g : Fixture) :
      g.blocks.filterMap (·.header) = (g.blocks.map (·.header)).filterMap id := by
    rw [List.filterMap_map]
    rfl
  unfold lastNumber
  rw [hlast, hgenesis, hcount, hfound, hfound, hstated, hstated, hpayloads, hheaders]

lemma expectedHead_offering (hbs : List.Forall₂ FixtureBlock.Widened f.blocks bs)
    (hes : List.Forall₂ PayloadEntry.Widened f.payloads es) :
    (f.offering bs es).expectedHead = f.expectedHead := by
  have hengine : (f.offering bs es).isEngine = f.isEngine := by
    have hlength := hes.length_eq
    simp only [offering, isEngine]
    cases es <;> cases hf : f.payloads <;> simp_all
  have hheaders : bs.map (·.header) = f.blocks.map (·.header) :=
    map_eq_of_forall₂ (fun b b' h => by rw [h.same]) hbs
  have hvalid : bs.map FixtureBlock.isValid = f.blocks.map FixtureBlock.isValid :=
    map_eq_of_forall₂ (fun b b' h => h.wider.isNone) hbs
  have hpayloads : es.map (·.payload) = f.payloads.map (·.payload) :=
    map_eq_of_forall₂ (fun e e' h => by rw [h.same]) hes
  have hexpects :
      es.map PayloadEntry.expectsValid = f.payloads.map PayloadEntry.expectsValid := by
    refine map_eq_of_forall₂ (fun e e' h => ?_) hes
    have herror : e'.errorCode = e.errorCode := by rw [h.same]
    rw [PayloadEntry.expectsValid, PayloadEntry.expectsValid, h.wider.isNone, herror]
  have hnumber : (f.offering bs es).lastNumber = f.lastNumber :=
    lastNumber_eq rfl rfl hengine hheaders hvalid hpayloads hexpects
  unfold expectedHead
  rw [hnumber]
  rfl

end Fixture

/-! ### Runs over blocks -/

namespace BlockRun

variable {σ : Type} {terms : Terms} {q : MatchPolicy} {f : Fixture} {pre : Alloc}
  {target : Nat → BlockTarget σ} {resumed : Option Genesis} {bs : List FixtureBlock}
  {es : List PayloadEntry}

lemma judgeOutcome_mono (hlax : terms.policy.laxity ≤ q.laxity)
    {expected expected' : Option ExceptionSet} (hwide : Widens expected expected')
    (index : Nat) (fork : Fork) (outcome : BlockOutcome) (next : Option Tip)
    (h : judgeOutcome terms index expected fork outcome = .ok next) :
    judgeOutcome { terms with policy := q } index expected' fork outcome = .ok next := by
  cases outcome with
  | accepted head stateRoot =>
    cases hwide with
    | none => exact h
    | some _ => cases h
  | rejected message tag =>
    rw [judgeOutcome_rejected] at h ⊢
    obtain ⟨u, hjudge, hnext⟩ := map_eq_ok.mp h
    exact map_eq_ok.mpr ⟨u, Terms.judgeRejection_mono hlax hwide index message _ u hjudge,
      hnext⟩
  | undecodable text =>
    by_cases hadmits : expected.any terms.policy.admitsDecodeFailure
    · have hadmits' := MatchPolicy.any_admitsDecodeFailure_mono hlax hwide hadmits
      simp only [judgeOutcome, hadmits, hadmits', if_true] at h ⊢
      exact h
    · simp only [judgeOutcome, hadmits, Bool.false_eq_true, if_false, reduceCtorEq] at h
  | timedOut => cases h

lemma extend_upholds (hlax : terms.policy.laxity ≤ q.laxity)
    {bs bs' : List FixtureBlock} (hbs : List.Forall₂ FixtureBlock.Widened bs bs')
    (others : List FixtureBlock) (index : Nat) (tip : Tip) :
    Upholds (extend terms f target index bs tip)
      (extend { terms with policy := q } (f.offering others es) target index bs' tip) := by
  induction hbs generalizing index tip with
  | nil => exact .refl _
  | @cons b b' rest rest' first _ ih =>
    have hoffer : offer { terms with policy := q } (f.offering others es) target index b' =
        offer terms f target index b := by
      rw [first.same]
      rfl
    rw [extend_cons_eq, extend_cons_eq, hoffer]
    refine .bind (.refl _) fun _ => .bind (.refl _) fun _ => ?_
    refine .bind (.refl _) fun ⟨outcome, fork⟩ => .bind (.lift ?_) fun next => ?_
    · exact judgeOutcome_mono hlax first.wider index fork outcome
    · cases next with
      | none => exact .refl _
      | some next => exact ih (index + 1) next

/-- A run over blocks that passes goes through the same steps under a laxer judgement. -/
lemma steps_upholds (hlax : terms.policy.laxity ≤ q.laxity)
    (hbs : List.Forall₂ FixtureBlock.Widened f.blocks bs)
    (hes : List.Forall₂ PayloadEntry.Widened f.payloads es) :
    Upholds (steps terms f pre target resumed)
      (steps { terms with policy := q } (f.offering bs es) pre target resumed) := by
  unfold steps
  rw [Fixture.expectedHead_offering hbs hes]
  refine .bind (.refl _) fun genesis => .bind (.refl _) fun _ => ?_
  exact .bind (extend_upholds hlax hbs bs 0 genesis) fun tip => .refl _

end BlockRun

/-! ### Runs over payloads -/

namespace PayloadRun

variable {σ : Type} {terms : Terms} {q : MatchPolicy} {f : Fixture} {pre : Alloc}
  {target : EngineTarget σ} {bs : List FixtureBlock} {es : List PayloadEntry}

lemma judgeResponse_mono (hlax : terms.policy.laxity ≤ q.laxity) {e e' : PayloadEntry}
    (hwide : e.Widened e') (network : Fork) (index : Nat) (response : Response)
    (decision : Decision)
    (h : judgeResponse terms network index e response = .ok decision) :
    judgeResponse { terms with policy := q } network index e' response = .ok decision := by
  have herror : e'.errorCode = e.errorCode := by rw [hwide.same]
  have hfork : e'.fork network = e.fork network := by rw [hwide.same]; rfl
  cases decision with
  | accepted =>
    obtain ⟨noError, noRejection, hstatus⟩ := judgeResponse_eq_accepted.mp h
    have hnone : e'.validationError.isNone := by
      rw [hwide.wider.isNone, noRejection]
      rfl
    exact judgeResponse_eq_accepted.mpr
      ⟨herror.trans noError, Option.isNone_iff_eq_none.mp hnone, hstatus⟩
  | refused =>
    rcases judgeResponse_eq_refused.mp h with
      ⟨code, message, hresponse, expects⟩ | ⟨s, set, hresponse, noError, hinvalid, expects, hadmits⟩
    · exact judgeResponse_eq_refused.mpr
        (Or.inl ⟨code, message, hresponse, herror.trans expects⟩)
    · obtain ⟨set', expects', hwider⟩ := hwide.wider.exists_of_some expects
      refine judgeResponse_eq_refused.mpr
        (Or.inr ⟨s, set', hresponse, herror.trans noError, hinvalid, expects', ?_⟩)
      rw [hfork]
      exact MatchPolicy.admits_mono hlax hwider hadmits

lemma offer_widened {e e' : PayloadEntry} (hwide : e.Widened e')
    (hears : target.HearsAlike e e')
    (index deadline rounds : Nat) :
    offer { terms with policy := q } (fun _ => target) index e' deadline rounds =
      offer terms (fun _ => target) index e deadline rounds := by
  have hcall : target.newPayload e'.version e' = target.newPayload e.version e := by
    rw [hears e'.version, hwide.same]
  induction rounds with
  | zero => rfl
  | succ rounds ih =>
    rw [offer_succ, offer_succ, hcall, ih]
    rfl

lemma extend_upholds (hlax : terms.policy.laxity ≤ q.laxity) {es es' : List PayloadEntry}
    (hes : List.Forall₂ PayloadEntry.Widened es es')
    (hears : List.Forall₂ target.HearsAlike es es') (others : List PayloadEntry)
    (index : Nat) :
    Upholds (extend terms f (fun _ => target) index es)
      (extend { terms with policy := q } (f.offering bs others) (fun _ => target) index es') := by
  induction hes generalizing index with
  | nil => exact .refl _
  | @cons e e' rest rest' first _ ih =>
    obtain ⟨heard, hears⟩ := List.forall₂_cons.mp hears
    have hversion : e'.checkVersion f.network = e.checkVersion f.network := by
      rw [first.same]
      rfl
    have hchoose : choose { terms with policy := q } (f.offering bs others) (fun _ => target)
        index e' = choose terms f (fun _ => target) index e := by
      rw [first.same]
      rfl
    have hsubmit : Upholds (submit terms f (fun _ => target) index e)
        (submit { terms with policy := q } (f.offering bs others) (fun _ => target) index e') := by
      rw [submit_eq, submit_eq]
      refine .bind (.refl _) fun _ => .bind (.lift ?_) fun _ => .bind (.refl _) fun m => ?_
      · intro u h
        exact (congrArg _ hversion).trans h
      · rw [offer_widened first heard]
        exact .bind (.refl _) fun response =>
          .lift (judgeResponse_mono hlax first f.network index response)
    unfold extend
    rw [hchoose]
    refine .bind hsubmit fun decision => ?_
    cases decision with
    | refused => exact .refl _
    | accepted => exact .bind (.refl _) fun _ => ih hears (index + 1)

lemma steps_upholds (hlax : terms.policy.laxity ≤ q.laxity)
    (hbs : List.Forall₂ FixtureBlock.Widened f.blocks bs)
    (hes : List.Forall₂ PayloadEntry.Widened f.payloads es)
    (hears : List.Forall₂ target.HearsAlike f.payloads es) :
    Upholds (steps terms f pre fun _ => target)
      (steps { terms with policy := q } (f.offering bs es) pre fun _ => target) := by
  unfold steps
  rw [Fixture.expectedHead_offering hbs hes]
  exact .bind (.refl _) fun _ => .bind (extend_upholds hlax hes hears es 0) fun _ => .refl _

end PayloadRun

lemma Verdict.ofRun_pass_of_upholds {σ : Type} {x y : ExceptT Failure (StateM σ) Unit}
    (h : Upholds x y) {s : σ} (hpass : ofRun (x.run.run s).1 = .pass) :
    ofRun (y.run.run s).1 = .pass := by
  have hx : x.run.run s = (.ok (), (x.run.run s).2) :=
    Prod.ext (PayloadRun.ofRun_eq_pass.mp hpass) rfl
  rw [h hx]
  rfl

namespace Fixture

/-- A fixture that passes also passes under a laxer policy and with wider expectations, on
either kind of target, whatever is answered and however long it takes. -/
theorem pass_of_laxer (terms : Terms) (q : MatchPolicy)
    (hlax : terms.policy.laxity ≤ q.laxity) (f : Fixture) (bs : List FixtureBlock)
    (hbs : List.Forall₂ FixtureBlock.Widened f.blocks bs) (es : List PayloadEntry)
    (hes : List.Forall₂ PayloadEntry.Widened f.payloads es) (pre : Alloc) :
    (∀ (σ : Type) (target : BlockTarget σ) resumed (m : Moment σ),
      (BlockRun.run terms f pre target resumed m).1 = .pass →
      (BlockRun.run { terms with policy := q } (f.offering bs es) pre target resumed m).1 =
        .pass) ∧
    ∀ (σ : Type) (target : EngineTarget σ) (m : Moment σ),
      List.Forall₂ target.HearsAlike f.payloads es →
      (PayloadRun.run terms f pre target m).1 = .pass →
      (PayloadRun.run { terms with policy := q } (f.offering bs es) pre target m).1 =
        .pass := by
  constructor
  · intro σ target resumed m hpass
    have upholds : Upholds (BlockRun.steps terms f pre (fun _ => target) resumed) _ :=
      BlockRun.steps_upholds hlax hbs hes
    exact Verdict.ofRun_pass_of_upholds upholds hpass
  · intro σ target m hears hpass
    exact Verdict.ofRun_pass_of_upholds (PayloadRun.steps_upholds hlax hbs hes hears) hpass

/-- A fixture with a single payload, which is expected to be refused for one of the given
reasons. The chain ends where it starts. -/
def refusing (expected : ExceptionSet) : Fixture :=
  { PayloadRun.misversioned with payloads := [{
      payload := default, version := 3, blobVersionedHashes := none, parentBeaconRoot := none
      executionRequests := none, validationError := some expected, errorCode := none
      forkchoiceVersion := none }] }

/-- A client that has the genesis block of `refusing` and finds every payload invalid. -/
def refusingClient : EngineTarget Unit :=
  { PayloadRun.genesisClient with
    newPayload := fun _ _ => .instantly fun s => (.ok { verdict := .invalid }, s) }

/-- A block that is refused under the strict policy still is under the most relaxed one and
with one more tag expected, and so is a payload that is refused under the relaxed policy. -/
theorem pass_of_laxer_refused :
    let narrow : ExceptionSet := ⟨[.block .rlpStructuresEncoding]⟩
    let wide : ExceptionSet := ⟨[.block .invalidGasUsed, .block .rlpStructuresEncoding]⟩
    let terms : Terms := { mapper := .empty, client := "client" }
    let blocks := BlockRun.garbled.blocks.map fun b => { b with expected := some wide }
    (BlockRun.run { terms with policy := .relaxed true } (BlockRun.garbled.offering blocks [])
      .empty (BlockRun.genesisOnly BlockRun.garbled) none ⟨0, ()⟩).1 = .pass ∧
    (PayloadRun.run { terms with policy := .relaxed true }
      ((refusing narrow).offering [] (refusing wide).payloads) .empty refusingClient
      ⟨0, ()⟩).1 = .pass := by
  have hwide : Widens (some ⟨[.block .rlpStructuresEncoding]⟩)
      (some ⟨[.block .invalidGasUsed, .block .rlpStructuresEncoding]⟩) :=
    .some (by decide)
  constructor
  · refine (pass_of_laxer { mapper := .empty, client := "client" } (.relaxed true)
      (by decide) BlockRun.garbled _ (.cons ⟨rfl, hwide⟩ .nil) [] .nil .empty).1 _ _ _ _ ?_
    decide +kernel
  · refine (pass_of_laxer { mapper := .empty, client := "client", policy := .relaxed false }
      (.relaxed true) (by decide) (refusing _) [] .nil _ (.cons ⟨rfl, hwide⟩ .nil) .empty).2
      _ _ _ (.cons (fun _ => rfl) .nil) ?_
    decide +kernel

end Fixture

end ChainConformance
