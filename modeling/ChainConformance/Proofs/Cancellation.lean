import ChainConformance.Proofs.EngineReport
import ChainConformance.Proofs.WatchedRuns
import ChainConformance.Run.BlockGroup

/-!
# Cancelled runs

Cancellation withholds verdicts and does nothing else: whatever a cancelled run reports of a
fixture is what the run reports that is never cancelled, or that it was cancelled.
-/

namespace ChainConformance

def Terms.uncancelled (terms : Terms) : Terms := { terms with cancelAt := none }

/-- The verdict on a fixture whose run was cancelled. -/
def Verdict.IsWithheld (v : Verdict) : Prop :=
  ∃ failure, v = .fail failure ∧ failure.kind = .cancelled

/-- A result is another one, or says of the same fixture that its run was cancelled. -/
def CaseResult.Withholds (r r₀ : CaseResult) : Prop :=
  r = r₀ ∨ r.title = r₀.title ∧ ∃ v, r.result = .ok v ∧ v.IsWithheld

/-- The calls that a run over blocks makes. -/
inductive BlockRequest where
  | start (fork : Fork) (pre : Alloc) (genesis : Header)
  | resume (genesis : Genesis)
  | apply (block : Block) (raw : Bytes)
  | readState (hint : Alloc)

def BlockRequest.Answer : BlockRequest → Type
  | start .. | resume _ => FaultOr Genesis
  | apply .. => FaultOr BlockOutcome
  | readState _ => FaultOr Alloc

def BlockTarget.request {σ : Type} (target : BlockTarget σ) :
    (r : BlockRequest) → Call σ r.Answer
  | .start fork pre genesis => target.start fork pre genesis
  | .resume g => do return (← target.resetTo g.hash).map fun _ => g
  | .apply block raw => target.apply block raw
  | .readState hint => target.readState hint

/-- Limits only ever cut the calls to a target short. -/
structure BlockTarget.Steady {σ : Type} (target : BlockTarget σ) : Prop where
  start : ∀ fork pre genesis, (target.start fork pre genesis).Steady
  apply : ∀ block raw, (target.apply block raw).Steady
  readState : ∀ hint, (target.readState hint).Steady
  resetTo : ∀ hash, (target.resetTo hash).Steady

lemma BlockTarget.Steady.request {σ : Type} {target : BlockTarget σ} (h : target.Steady)
    (r : BlockRequest) : (target.request r).Steady := by
  cases r with
  | start fork pre genesis => exact h.start fork pre genesis
  | resume g => exact (h.resetTo g.hash).bind fun _ => Call.steady_pure _
  | apply block raw => exact h.apply block raw
  | readState hint => exact h.readState hint

namespace BlockRun

variable {σ α : Type} (terms : Terms) (f : Fixture) (pre : Alloc) (target : Nat → BlockTarget σ)
  (resumed : Option Genesis)

abbrev Watched (x y : BlockStep σ α) : Prop :=
  Watches clocked (fun now => (target now).request) terms.cancelAt terms.callTimeout x y

lemma watched_establish : Watched terms target (establish terms f pre target resumed)
    (establish terms.uncancelled f pre target resumed) := by
  have hbegin : Watched terms target
      (await clocked terms.cancelAt terms.callTimeout none
        fun now => begin f pre (target now) resumed)
      (await clocked none terms.callTimeout none fun now => begin f pre (target now) resumed) := by
    cases resumed with
    | none => exact .await none (BlockRequest.start f.network pre f.genesis)
    | some g => exact .await none (BlockRequest.resume g)
  rw [establish_eq, establish_eq]
  refine .bind hbegin fun answer => ?_
  rcases answer with _ | _ | g
  · exact .throw _
  · exact .throw _
  · exact .bind (.lift _) fun _ => .bind (.idle _ fun _ => ⟨Nat.le_refl _, rfl⟩) fun _ => .pure _

lemma watched_offer (index : Nat) (b : FixtureBlock) :
    Watched terms target (offer terms f target index b)
      (offer terms.uncancelled f target index b) := by
  rw [offer_eq, offer_eq]
  rcases decoded b with text | ⟨block, raw⟩
  · exact .pure _
  · refine .bind (.await (some index) (BlockRequest.apply block raw)) fun answer => ?_
    rcases answer with _ | _ | outcome
    · exact .pure _
    · exact .throw _
    · exact .pure _

lemma watched_extend (bs : List FixtureBlock) (index : Nat) (tip : Tip) :
    Watched terms target (extend terms f target index bs tip)
      (extend terms.uncancelled f target index bs tip) := by
  induction bs generalizing index tip with
  | nil => exact .pure _
  | cons b rest ih =>
    rw [extend_cons_eq, extend_cons_eq]
    refine .bind (.idle _ fun _ => ⟨Nat.le_refl _, rfl⟩) fun _ => .bind ?_ fun _ => ?_
    · exact .checkpoint (some index)
    · refine .bind (watched_offer terms f target index b) fun ⟨outcome, fork⟩ => ?_
      refine .bind (.lift _) fun next => ?_
      cases next with
      | none => exact .pure _
      | some next => exact ih (index + 1) next

lemma watched_checkState (expected : Alloc) :
    Watched terms target (checkState terms target expected)
      (checkState terms.uncancelled target expected) := by
  rw [checkState_eq, checkState_eq]
  refine .bind (.await none (BlockRequest.readState expected)) fun answer => ?_
  rcases answer with _ | _ | observed
  · exact .throw _
  · exact .throw _
  · exact .lift _

lemma watched_checkPost (stateRoot : Hash) :
    Watched terms target (checkPost terms f pre target stateRoot)
      (checkPost terms.uncancelled f pre target stateRoot) := by
  unfold checkPost
  rcases f.expectedPost? with _ | s | d | r
  · exact .throw _
  · exact watched_checkState terms target s
  · exact watched_checkState terms target (d.apply pre)
  · exact .lift _

lemma watched_steps : Watched terms target (steps terms f pre target resumed)
    (steps terms.uncancelled f pre target resumed) := by
  refine .bind (watched_establish terms f pre target resumed) fun tip => ?_
  refine .bind (.idle _ fun _ => ⟨Nat.le_refl _, rfl⟩) fun _ => ?_
  refine .bind (watched_extend terms f target f.blocks 0 tip) fun tip => ?_
  exact .bind (.lift _) fun _ => watched_checkPost terms f pre target tip.stateRoot

/-- A run over blocks keeps what the calls keep that begin before it is cancelled. -/
lemma run_keeps {I : Moment σ → Prop}
    (kept : Kept (fun now => (target now).request) terms.cancelAt I) {m : Moment σ} (hm : I m) :
    I (run terms f pre target resumed m).2.moment :=
  (watched_steps terms f pre target resumed).keeps kept (initial m) hm

lemma run_withholds {target : BlockTarget σ} (steady : target.Steady) (m : Moment σ) :
    run terms f pre target resumed m = run terms.uncancelled f pre target resumed m ∨
      isCancelled terms.cancelAt (run terms f pre target resumed m).2.moment.now ∧
        (run terms f pre target resumed m).1.IsWithheld := by
  rcases (watched_steps terms f pre target resumed).cutShort (fun _ => steady.request)
    (initial m) with hsame | ⟨htime, failure, hfails, hkind⟩
  · left
    unfold run
    rw [hsame]
  · exact Or.inr ⟨htime, failure, congrArg Verdict.ofRun hfails, hkind⟩

end BlockRun

/-! ### Runs over payloads -/

/-- The calls that a run over payloads makes. -/
inductive EngineRequest where
  | newPayload (version : UInt8) (e : PayloadEntry)
  | chooseHead (version : UInt8) (choice : Forkchoice)
  | blockHash (n : UInt64)
  | head
  | latest
  | readState (hint : Alloc)

def EngineRequest.Answer : EngineRequest → Type
  | newPayload .. | chooseHead .. => FaultOr PayloadStatus
  | blockHash _ => FaultOr (Option Hash)
  | head => FaultOr ChainHead
  | latest => FaultOr (Option BlockSummary)
  | readState _ => FaultOr Alloc

namespace EngineTarget

variable {σ : Type}

def request (target : EngineTarget σ) : (r : EngineRequest) → Call σ r.Answer
  | .newPayload version e => target.newPayload version e
  | .chooseHead version choice => target.chooseHead version choice
  | .blockHash n => target.blockHash n
  | .head => target.head
  | .latest => target.block .latest
  | .readState hint => target.readState hint

/-- Limits only ever cut the calls to a client short. -/
structure Steady (target : EngineTarget σ) : Prop where
  newPayload : ∀ version e, (target.newPayload version e).Steady
  chooseHead : ∀ version choice, (target.chooseHead version choice).Steady
  block : ∀ choice, (target.block choice).Steady
  account : ∀ address keys, (target.account address keys).Steady

variable {target : EngineTarget σ}

lemma Steady.readAccounts (h : target.Steady) (entries : List (Address × Account))
    (read : Alloc) : (target.readAccounts entries read).Steady := by
  induction entries generalizing read with
  | nil => exact Call.steady_pure _
  | cons entry rest ih =>
    refine (h.account entry.1 entry.2.storage.keys).bind fun answer => ?_
    rcases answer with _ | _ | a
    · exact Call.steady_pure _
    · exact ih read
    · exact ih (read.insert entry.1 a)

lemma Steady.request (h : target.Steady) (r : EngineRequest) : (target.request r).Steady := by
  cases r with
  | newPayload version e => exact h.newPayload version e
  | chooseHead version choice => exact h.chooseHead version choice
  | blockHash n => exact (h.block _).bind fun _ => Call.steady_pure _
  | head =>
    refine (h.block .latest).bind fun answer => ?_
    rcases answer with _ | _ | b <;> exact Call.steady_pure _
  | latest => exact h.block .latest
  | readState hint => exact h.readAccounts _ _

/-- The calls to a client leave what holds of it as it is. -/
structure Keeps (target : EngineTarget σ) (I : σ → Prop) : Prop where
  newPayload : ∀ version e, (target.newPayload version e).Keeps I
  chooseHead : ∀ version choice, (target.chooseHead version choice).Keeps I
  block : ∀ choice, (target.block choice).Keeps I
  account : ∀ address keys, (target.account address keys).Keeps I

variable {I : σ → Prop}

lemma Keeps.readAccounts (h : target.Keeps I) (entries : List (Address × Account))
    (read : Alloc) : (target.readAccounts entries read).Keeps I := by
  induction entries generalizing read with
  | nil => exact Call.keeps_pure _
  | cons entry rest ih =>
    refine (h.account entry.1 entry.2.storage.keys).bind fun answer => ?_
    rcases answer with _ | _ | a
    · exact Call.keeps_pure _
    · exact ih read
    · exact ih (read.insert entry.1 a)

lemma Keeps.request (h : target.Keeps I) (r : EngineRequest) : (target.request r).Keeps I := by
  cases r with
  | newPayload version e => exact h.newPayload version e
  | chooseHead version choice => exact h.chooseHead version choice
  | blockHash n => exact (h.block _).bind fun _ => Call.keeps_pure _
  | head =>
    refine (h.block .latest).bind fun answer => ?_
    rcases answer with _ | _ | b <;> exact Call.keeps_pure _
  | latest => exact h.block .latest
  | readState hint => exact h.readAccounts _ _

end EngineTarget

namespace PayloadRun

variable {σ α : Type} (terms : Terms) (f : Fixture) (pre : Alloc)
  (target : Nat → EngineTarget σ)

abbrev Watched (x y : PayloadStep σ α) : Prop :=
  Watches clocked (fun now => (target now).request) terms.cancelAt terms.callTimeout x y

lemma watched_call (index : Option Nat) (r : EngineRequest) :
    Watched terms target (call terms index fun now => (target now).request r)
      (call terms.uncancelled index fun now => (target now).request r) := by
  rw [call_eq, call_eq]
  refine .bind (.await index r) fun answer => ?_
  cases answer with
  | none => exact .throw _
  | some a => exact .pure _

lemma watched_ask {β : Type} (index : Option Nat) {c : Nat → Call σ (FaultOr β)}
    (h : Watched terms target (call terms index c) (call terms.uncancelled index c)) :
    Watched terms target (ask terms index c) (ask terms.uncancelled index c) := by
  unfold ask
  refine .bind h fun answer => ?_
  cases answer with
  | error e => exact .throw _
  | ok b => exact .pure _

lemma watched_offer (index : Nat) (e : PayloadEntry) (deadline rounds : Nat) :
    Watched terms target (offer terms target index e deadline rounds)
      (offer terms.uncancelled target index e deadline rounds) := by
  induction rounds with
  | zero => exact .throw _
  | succ rounds ih =>
    rw [offer_succ, offer_succ]
    refine .bind (watched_call terms target (some index) (.newPayload e.version e))
      fun answer => ?_
    rcases answer with fault | status
    · cases fault with
      | rpc code message => exact .pure _
      | _ => exact .throw _
    · by_cases hpending : status.verdict.isPending
      · simp only [hpending, Bool.not_true, Bool.false_eq_true, if_false]
        refine .bind (.failIf _ _) fun _ => .bind (.idle _ fun _ => ⟨?_, rfl⟩) fun _ => ih
        exact Nat.le_add_right _ _
      · simp only [hpending, Bool.not_false, if_true]
        exact .pure _

lemma watched_submit (index : Nat) (e : PayloadEntry) :
    Watched terms target (submit terms f target index e)
      (submit terms.uncancelled f target index e) := by
  rw [submit_eq, submit_eq]
  refine .bind (.checkpoint (some index)) fun _ => .bind (.lift _) fun _ => ?_
  refine .bind (.idle _ fun _ => ⟨Nat.le_refl _, rfl⟩) fun m => ?_
  exact .bind (watched_offer terms target index e _ _) fun _ => .lift _

lemma watched_choose (index : Nat) (e : PayloadEntry) :
    Watched terms target (choose terms f target index e)
      (choose terms.uncancelled f target index e) := by
  unfold choose
  cases f.forkchoiceVersionFor e with
  | none => exact .throw _
  | some version =>
    refine .bind (watched_ask terms target (some index) ?_) fun _ => .lift _
    exact watched_call terms target (some index) (.chooseHead version { head := e.blockHash })

lemma watched_extend (es : List PayloadEntry) (index : Nat) :
    Watched terms target (extend terms f target index es)
      (extend terms.uncancelled f target index es) := by
  induction es generalizing index with
  | nil => exact .pure _
  | cons e rest ih =>
    unfold extend
    refine .bind (watched_submit terms f target index e) fun decision => ?_
    cases decision with
    | refused => exact .pure _
    | accepted => exact .bind (watched_choose terms f target index e) fun _ => ih (index + 1)

lemma watched_checkGenesis : Watched terms target (checkGenesis terms f target)
    (checkGenesis terms.uncancelled f target) := by
  unfold checkGenesis
  refine .bind (watched_call terms target none (.blockHash f.genesisHead.number))
    fun answer => ?_
  rcases answer with e | hash
  · exact .throw _
  · exact .lift _

lemma watched_checkState (expected : Alloc) :
    Watched terms target (checkState terms target pre expected)
      (checkState terms.uncancelled target pre expected) := by
  refine .bind (watched_ask terms target none ?_) fun _ => .lift _
  exact watched_call terms target none (.readState (pre.readingHint expected))

lemma watched_checkPost : Watched terms target (checkPost terms f pre target)
    (checkPost terms.uncancelled f pre target) := by
  unfold checkPost
  rcases f.expectedPost? with _ | s | d | r
  · exact .throw _
  · exact watched_checkState terms pre target s
  · exact watched_checkState terms pre target (d.apply pre)
  · refine .bind (watched_ask terms target none (watched_call terms target none .latest))
      fun answer => ?_
    cases answer with
    | none => exact .throw _
    | some b => exact .lift _

lemma watched_steps : Watched terms target (steps terms f pre target)
    (steps terms.uncancelled f pre target) := by
  refine .bind (watched_checkGenesis terms f target) fun _ => ?_
  refine .bind (watched_extend terms f target f.payloads 0) fun _ => ?_
  refine .bind (watched_ask terms target none (watched_call terms target none .head))
    fun head => ?_
  exact .bind (.lift _) fun _ => watched_checkPost terms f pre target

/-- A run over payloads keeps what the calls keep that begin before it is cancelled. -/
lemma run_keeps {I : Moment σ → Prop}
    (kept : Kept (fun now => (target now).request) terms.cancelAt I) {m : Moment σ} (hm : I m) :
    I (run terms f pre target m).2 :=
  (watched_steps terms f pre target).keeps kept m hm

lemma run_withholds {target : EngineTarget σ} (steady : target.Steady) (m : Moment σ) :
    run terms f pre target m = run terms.uncancelled f pre target m ∨
      isCancelled terms.cancelAt (run terms f pre target m).2.now ∧
        (run terms f pre target m).1.IsWithheld := by
  rcases (watched_steps terms f pre target).cutShort (fun _ => steady.request) m with
    hsame | ⟨htime, failure, hfails, hkind⟩
  · left
    unfold run
    rw [hsame]
  · exact Or.inr ⟨htime, failure, congrArg Verdict.ofRun hfails, hkind⟩

end PayloadRun

/-! ### Groups of block fixtures -/

lemma withholds_cancelled {members : List Member} {results : List CaseResult}
    (h : results.map CaseResult.title = members.map Member.title) :
    List.Forall₂ CaseResult.Withholds (members.map Member.cancelled) results := by
  induction members generalizing results with
  | nil =>
    rw [List.map_eq_nil_iff.mp h]
    exact .nil
  | cons member rest ih =>
    obtain ⟨r, others, rfl, htitle, hothers⟩ := List.map_eq_cons_iff.mp h
    refine .cons (Or.inr ⟨htitle.symm, _, rfl, ?_⟩) (ih hothers)
    exact ⟨_, rfl, rfl⟩

lemma isCancelled_mono {cancelAt : Option Nat} {now later : Nat}
    (h : isCancelled cancelAt now) (hle : now ≤ later) : isCancelled cancelAt later := by
  cases cancelAt with
  | none => cases h
  | some stop =>
    simp only [isCancelled, Option.any_some, decide_eq_true_eq] at h ⊢
    omega

namespace BlockGroup

variable {σ : Type} (terms : Terms) (pre : Alloc) (target : Nat → BlockTarget σ)

lemma run_runFrom_cons (member : Member) (rest : List Member) (held : Option Genesis)
    (m : Moment σ) :
    (runFrom terms pre target (member :: rest) held).run m =
      if isCancelled terms.cancelAt m.now then ((member :: rest).map Member.cancelled, m)
      else
        let ended := BlockRun.run terms member.fixture pre target
          (held.filter fun g => g.hash = member.fixture.genesisHash) m
        let others := (runFrom terms pre target rest
          (if ended.1.poisonsClient then none else ended.2.genesis)).run ended.2.moment
        (member.result (.ok ended.1) :: others.1, others.2) := by
  rw [runFrom]
  change StateT.run (if isCancelled terms.cancelAt m.now then _ else _) m = _
  cases isCancelled terms.cancelAt m.now <;> rfl

lemma runFrom_titles (members : List Member) (held : Option Genesis) (m : Moment σ) :
    ((runFrom terms pre target members held).run m).1.map CaseResult.title =
      members.map Member.title := by
  induction members generalizing held m with
  | nil => rfl
  | cons member rest ih =>
    rw [run_runFrom_cons]
    by_cases hcancelled : isCancelled terms.cancelAt m.now
    · rw [if_pos hcancelled, List.map_map]
      rfl
    · rw [if_neg hcancelled]
      exact congrArg (member.title :: ·) (ih _ _)

/-- A group keeps what the calls keep that begin before it is cancelled. -/
lemma runFrom_keeps {I : Moment σ → Prop}
    (kept : Kept (fun now => (target now).request) terms.cancelAt I) (members : List Member)
    (held : Option Genesis) {m : Moment σ} (hm : I m) :
    I ((runFrom terms pre target members held).run m).2 := by
  induction members generalizing held m with
  | nil => exact hm
  | cons member rest ih =>
    rw [run_runFrom_cons]
    by_cases hcancelled : isCancelled terms.cancelAt m.now
    · rwa [if_pos hcancelled]
    · rw [if_neg hcancelled]
      exact ih _ (BlockRun.run_keeps terms member.fixture pre target _ kept hm)

/-- Once a run is cancelled, so are all that come after it. -/
lemma runFrom_withholds {target : BlockTarget σ} (steady : target.Steady)
    (members : List Member) (held : Option Genesis) (m : Moment σ) :
    List.Forall₂ CaseResult.Withholds ((runFrom terms pre target members held).run m).1
      ((runFrom terms.uncancelled pre target members held).run m).1 := by
  induction members generalizing held m with
  | nil => exact .nil
  | cons member rest ih =>
    by_cases hcancelled : isCancelled terms.cancelAt m.now
    · have htitles := runFrom_titles terms.uncancelled pre target (member :: rest) held m
      rw [run_runFrom_cons terms, if_pos hcancelled]
      exact withholds_cancelled htitles
    · have hnever : ¬isCancelled terms.uncancelled.cancelAt m.now := nofun
      rw [run_runFrom_cons, run_runFrom_cons, if_neg hcancelled, if_neg hnever]
      rcases BlockRun.run_withholds terms member.fixture pre
        (held.filter fun g => g.hash = member.fixture.genesisHash) steady m with
        hsame | ⟨htime, hwithheld⟩
      · simp only [hsame]
        exact .cons (Or.inl rfl) (ih _ _)
      · have htitle (v v₀ : Verdict) :
            (member.result (.ok v)).title = (member.result (.ok v₀)).title := rfl
        have htitles := runFrom_titles terms.uncancelled pre (fun _ => target) rest
        refine .cons (Or.inr ⟨htitle _ _, _, rfl, hwithheld⟩) ?_
        cases rest with
        | nil => exact .nil
        | cons next rest =>
          rw [run_runFrom_cons terms, if_pos htime]
          exact withholds_cancelled (htitles _ _)

end BlockGroup

/-! ### Groups of payload fixtures -/

namespace PayloadGroup

variable {ω σ : Type} (g : PayloadGroup ω σ)

def uncancelled : PayloadGroup ω σ := { g with terms := g.terms.uncancelled }

variable {g}

lemma run_runMember (member : Member) (m : Moment (ω × σ)) :
    g.runMember member m =
      if (g.judge member.fixture m).1.isPass then
        (((g.judge member.fixture m).1, { member.result (.ok (g.judge member.fixture m).1) with
            postDiff := (g.observedDiff member.fixture (g.judge member.fixture m).2).1 }),
          (g.observedDiff member.fixture (g.judge member.fixture m).2).2)
      else (((g.judge member.fixture m).1,
          member.result (.ok (g.judge member.fixture m).1)), (g.judge member.fixture m).2) :=
  rfl

lemma judge_withholds (steady : g.launcher.client.Steady) (f : Fixture)
    (m : Moment (ω × σ)) : g.judge f m = g.uncancelled.judge f m ∨
      isCancelled g.terms.cancelAt (g.judge f m).2.now ∧ (g.judge f m).1.IsWithheld := by
  unfold judge
  by_cases hgenesis : f.genesisHash = g.genesisHash
  · have hgenesis' : f.genesisHash = g.uncancelled.genesisHash := hgenesis
    rw [if_pos hgenesis, if_pos hgenesis']
    exact PayloadRun.run_withholds g.terms f g.pre steady m
  · have hgenesis' : f.genesisHash ≠ g.uncancelled.genesisHash := hgenesis
    rw [if_neg hgenesis, if_neg hgenesis']
    exact Or.inl rfl

lemma runMember_withholds (steady : g.launcher.client.Steady) (member : Member)
    (m : Moment (ω × σ)) : g.runMember member m = g.uncancelled.runMember member m ∨
      isCancelled g.terms.cancelAt (g.runMember member m).2.now ∧
        (g.runMember member m).1.1.IsWithheld ∧
        (g.runMember member m).1.2 = member.result (.ok (g.runMember member m).1.1) := by
  rcases judge_withholds steady member.fixture m with hsame | ⟨htime, failure, hfails, hkind⟩
  · left
    rw [run_runMember, run_runMember, hsame]
    rfl
  · right
    have hpass : ¬(g.judge member.fixture m).1.isPass := by
      rw [hfails]
      nofun
    rw [run_runMember, if_neg hpass]
    exact ⟨htime, ⟨failure, hfails, hkind⟩, rfl⟩

lemma title_runMember (member : Member) (m : Moment (ω × σ)) :
    (g.runMember member m).1.2.title = member.title := by
  obtain ⟨hpath, hname⟩ := g.runMember_named member m
  exact Prod.ext hpath hname

lemma runFrom_titles (members : List Member) (live : Option σ) (m : Moment ω) :
    ((g.runFrom members live).run m).1.1.map CaseResult.title = members.map Member.title := by
  induction members generalizing live m with
  | nil => rfl
  | cons member rest ih =>
    cases live with
    | none =>
      change ((member :: rest).map (·.failed unavailable)).map CaseResult.title = _
      rw [List.map_map]
      rfl
    | some s =>
      have htitle := title_runMember (g := g) member ⟨m.now, (m.state, s)⟩
      rcases ran : g.runMember member ⟨m.now, (m.state, s)⟩ with ⟨⟨verdict, result⟩, after⟩
      rw [ran] at htitle
      by_cases hrest : rest = []
      · subst hrest
        rw [run_runFrom_last ran]
        exact congrArg ([·]) htitle
      · rcases back : (if verdict.poisonsClient then (false, after) else g.reset after) with
          ⟨isReset, left⟩
        rw [run_runFrom_cons hrest ran back, run_goOn]
        by_cases hcancelled : isCancelled g.terms.cancelAt (aside left).now
        · rw [if_pos hcancelled, List.map_cons, List.map_cons, List.map_map]
          exact congrArg (· :: rest.map Member.title) htitle
        · rw [if_neg hcancelled, List.map_cons, List.map_cons, ih]
          exact congrArg (· :: rest.map Member.title) htitle

lemma now_le_reset (m : Moment (ω × σ)) : m.now ≤ (g.reset m).2.now := by
  rcases g.reset_cases m with hno | ⟨version, answer, -, hanswer, -⟩
  · rw [hno]
  · have hle := m.now_le_within g.terms.callTimeout
      (g.launcher.client.chooseHead version { head := g.genesisHash })
    rwa [hanswer] at hle

section Loop

variable {member : Member} {rest : List Member} {s : σ} {m : Moment ω} {verdict : Verdict}
  {result : CaseResult} {after left : Moment (ω × σ)} {isReset : Bool}

lemma results_cancelled
    (ran : g.runMember member ⟨m.now, (m.state, s)⟩ = ((verdict, result), after))
    (back : (if verdict.poisonsClient then (false, after) else g.reset after) =
      (isReset, left)) (hcancelled : isCancelled g.terms.cancelAt (aside left).now) :
    ((g.runFrom (member :: rest) (some s)).run m).1.1 = result :: rest.map Member.cancelled := by
  by_cases hrest : rest = []
  · subst hrest
    rw [run_runFrom_last ran]
    rfl
  · rw [run_runFrom_cons hrest ran back, run_goOn, if_pos hcancelled]

lemma head?_results (rest : List Member) (ran : g.runMember member ⟨m.now, (m.state, s)⟩ =
    ((verdict, result), after)) :
    ((g.runFrom (member :: rest) (some s)).run m).1.1.head? = some result := by
  rcases back : (if verdict.poisonsClient then (false, after) else g.reset after) with
    ⟨isReset, left⟩
  by_cases hrest : rest = []
  · subst hrest
    rw [run_runFrom_last ran]
    rfl
  · rw [run_runFrom_cons hrest ran back, run_goOn]
    by_cases hcancelled : isCancelled g.terms.cancelAt (aside left).now
    · rw [if_pos hcancelled]
      rfl
    · rw [if_neg hcancelled]
      rfl

lemma now_le_back (back : (if verdict.poisonsClient then (false, after) else g.reset after) =
    (isReset, left)) : after.now ≤ (aside left).now := by
  by_cases hpoison : verdict.poisonsClient
  · rw [if_pos hpoison] at back
    obtain ⟨-, rfl⟩ := Prod.mk.inj back
    exact Nat.le_refl _
  · have hle := now_le_reset (g := g) after
    rw [if_neg hpoison] at back
    rwa [back] at hle

end Loop

/-- Once a run is cancelled, so are all that come after it. -/
lemma runFrom_withholds (steady : g.launcher.client.Steady) (members : List Member)
    (live : Option σ) (m : Moment ω) :
    List.Forall₂ CaseResult.Withholds ((g.runFrom members live).run m).1.1
      ((g.uncancelled.runFrom members live).run m).1.1 := by
  -- By induction on the members: both loops are at the same moment and have the same client, as
  -- long as the first one is not cancelled.
  induction members generalizing live m with
  | nil => exact .nil
  | cons member rest ih =>
    cases live with
    | none => exact List.forall₂_same.mpr fun _ _ => Or.inl rfl
    | some s =>
      have hwithholds := runMember_withholds steady member ⟨m.now, (m.state, s)⟩
      have htitles := runFrom_titles (g := g.uncancelled) (member :: rest) (some s) m
      have htitle := title_runMember (g := g) member ⟨m.now, (m.state, s)⟩
      rcases ran : g.runMember member ⟨m.now, (m.state, s)⟩ with ⟨⟨verdict, result⟩, after⟩
      rcases back : (if verdict.poisonsClient then (false, after) else g.reset after) with
        ⟨isReset, left⟩
      rw [ran] at hwithholds htitle
      obtain ⟨r₀, others, hresults, htitle₀, hothers⟩ := List.map_eq_cons_iff.mp htitles
      rcases hwithholds with hsame | ⟨htime, hwithheld, hresult⟩
      · have ran₀ := hsame.symm
        by_cases hcancelled : isCancelled g.terms.cancelAt (aside left).now
        · have hhead := head?_results rest ran₀
          rw [hresults, List.head?_cons, Option.some.injEq] at hhead
          rw [results_cancelled ran back hcancelled, hresults]
          exact .cons (Or.inl hhead.symm) (withholds_cancelled hothers)
        · by_cases hrest : rest = []
          · subst hrest
            rw [run_runFrom_last ran, run_runFrom_last ran₀]
            exact .cons (Or.inl rfl) .nil
          · have back₀ : (if verdict.poisonsClient then (false, after)
                else g.uncancelled.reset after) = (isReset, left) := back
            have hnever : ¬isCancelled g.uncancelled.terms.cancelAt (aside left).now := nofun
            rw [run_runFrom_cons hrest ran back, run_runFrom_cons hrest ran₀ back₀, run_goOn,
              run_goOn, if_neg hcancelled, if_neg hnever]
            exact .cons (Or.inl rfl) (ih _ _)
      · have hcancelled := isCancelled_mono htime (now_le_back back)
        rw [results_cancelled ran back hcancelled, hresults]
        refine .cons (Or.inr ⟨htitle.trans htitle₀.symm, verdict, ?_, hwithheld⟩)
          (withholds_cancelled hothers)
        exact congrArg CaseResult.result hresult

lemma run_withholds (terms : Terms) (launcher : Launcher ω σ) (steady : launcher.client.Steady)
    (group : Group) (members : List Member) (m : Moment ω) :
    List.Forall₂ CaseResult.Withholds (run terms launcher group members m).1
      (run terms.uncancelled launcher group members m).1 := by
  cases members with
  | nil => exact .nil
  | cons first rest =>
    let g := ofGroup terms launcher group first (rest.length + 1)
    have hstart : g.start.run m = g.uncancelled.start.run m := rfl
    rcases hlive : g.start.run m with ⟨live, m₁⟩
    rcases hloop : (g.runFrom (first :: rest) live).run m₁ with ⟨⟨results, last⟩, m₂⟩
    rcases hloop₀ : (g.uncancelled.runFrom (first :: rest) live).run m₁ with
      ⟨⟨results₀, last₀⟩, m₃⟩
    have hwithholds := runFrom_withholds (g := g) steady (first :: rest) live m₁
    rw [hloop, hloop₀] at hwithholds
    rw [hlive] at hstart
    change List.Forall₂ CaseResult.Withholds ((g.session (first :: rest)).run m).1
      ((g.uncancelled.session (first :: rest)).run m).1
    rw [run_session hlive hloop, run_session hstart.symm hloop₀]
    exact hwithholds

end PayloadGroup

end ChainConformance
