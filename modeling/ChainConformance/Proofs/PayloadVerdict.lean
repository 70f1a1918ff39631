import ChainConformance.Proofs.Judgement
import ChainConformance.Proofs.Steps
import ChainConformance.Run.Payloads

/-!
# Verdicts on payloads

When a run over payloads passes. The payloads up to some place are answered as valid and
made the head one after another, the next one is refused as expected or there is none, and
the client then has the expected head and state.
-/

namespace ChainConformance

namespace PayloadVerdict

lemma isInvalid_iff {v : PayloadVerdict} :
    v.isInvalid ↔ v = .invalid ∨ v = .invalidBlockHash := by
  cases v <;> decide

lemma eq_valid {v : PayloadVerdict} (decided : ¬v.isPending) (h : ¬v.isInvalid) :
    v = .valid := by
  cases v with
  | valid => rfl
  | invalid | invalidBlockHash => exact absurd rfl h
  | syncing | accepted => exact absurd rfl decided

end PayloadVerdict

namespace PayloadRun

variable {σ : Type} (terms : Terms) (f : Fixture) (pre : Alloc) (target : EngineTarget σ)

/-- The payload is offered, and offered again as long as the client has not decided and
there is time before the deadline. Each of these answers is pending. -/
inductive Waits (e : PayloadEntry) (deadline : Nat) :
    Moment σ → List PayloadStatus → Moment σ → Prop
  | here (m : Moment σ) : Waits e deadline m [] m
  | again {m m₁ m₂ : Moment σ} {status : PayloadStatus} {rest : List PayloadStatus}
      (answer : m.within terms.callTimeout (target.newPayload e.version e) =
        (.done (.ok status), m₁))
      (pending : status.verdict.isPending) (early : m₁.now < deadline)
      (others : Waits e deadline (m₁.pause (max 1 terms.pollInterval)) rest m₂) :
      Waits e deadline m (status :: rest) m₂

/-- A payload is decided by a status that is not pending, or refused by an error of the
protocol. -/
inductive Decides (e : PayloadEntry) (m : Moment σ) : Response → Moment σ → Prop
  | status {s : PayloadStatus} {m' : Moment σ}
      (answer : m.within terms.callTimeout (target.newPayload e.version e) =
        (.done (.ok s), m')) (decided : ¬s.verdict.isPending) : Decides e m (.status s) m'
  | refused {code : Int} {message : String} {m' : Moment σ}
      (answer : m.within terms.callTimeout (target.newPayload e.version e) =
        (.done (.error (.rpc code message)), m')) : Decides e m (.refused code message) m'

/-- The payload states a version that it may, and is decided before the time for it is
up. -/
structure Settles (m : Moment σ) (e : PayloadEntry) (response : Response)
    (m' : Moment σ) : Prop where
  usable : e.checkVersion f.network = .ok ()
  decided : ∃ pending m₁, Waits terms target e (m.now + terms.syncTimeout) m pending m₁ ∧
    Decides terms target e m₁ response m'

/-- The payload expects no error, is answered as valid, and is then made the head with a
valid answer. -/
inductive Accepts (m : Moment σ) (e : PayloadEntry) (m' : Moment σ) : Prop
  | intro {s choice : PayloadStatus} {version : UInt8} {m₁ : Moment σ}
      (noRejection : e.validationError = none) (noError : e.errorCode = none)
      (settles : Settles terms f target m e (.status s) m₁) (valid : s.verdict = .valid)
      (versioned : f.forkchoiceVersionFor e = some version)
      (chosen : m₁.within terms.callTimeout
        (target.chooseHead version { head := e.blockHash }) = (.done (.ok choice), m'))
      (choiceValid : choice.verdict = .valid)

/-- The payload is refused as its expectation has it: by the error that it expects, or as
invalid for a reason that the policy admits. A status without a text counts as one with an
empty text. -/
inductive Refuses (m : Moment σ) (e : PayloadEntry) (m' : Moment σ) : Prop
  | error {code : Int} {message : String} (expects : e.errorCode = some code)
      (settles : Settles terms f target m e (.refused code message) m')
  | invalid {s : PayloadStatus} {set : ExceptionSet} (noError : e.errorCode = none)
      (expects : e.validationError = some set)
      (settles : Settles terms f target m e (.status s) m')
      (invalid : s.verdict = .invalid ∨ s.verdict = .invalidBlockHash)
      (admitted : terms.policy.admits set
        (terms.classify (s.validationError.getD "") (e.fork f.network)))

/-- The payloads are accepted one after another. -/
inductive Imports : Moment σ → List PayloadEntry → Moment σ → Prop
  | nil (m : Moment σ) : Imports m [] m
  | cons {m m₁ m₂ : Moment σ} {e : PayloadEntry} {rest : List PayloadEntry}
      (first : Accepts terms f target m e m₁) (others : Imports m₁ rest m₂) :
      Imports m (e :: rest) m₂

/-- The first `k` of the payloads are accepted, and the chain ends there: there are no more,
or the next one is refused as expected. -/
def Extends (m : Moment σ) (es : List PayloadEntry) (k : Nat) (m' : Moment σ) : Prop :=
  ∃ m₁, Imports terms f target m (es.take k) m₁ ∧
    (k = es.length ∧ m' = m₁ ∨ ∃ e, es[k]? = some e ∧ Refuses terms f target m₁ e m')

def Begins (m m' : Moment σ) : Prop :=
  m.within terms.callTimeout (target.blockHash f.genesisHead.number) =
    (.done (.ok (some f.genesisHash)), m')

/-- The client's latest block is the expected head. -/
def HasHead (m m' : Moment σ) : Prop :=
  m.within terms.callTimeout target.head = (.done (.ok f.expectedHead), m')

/-- The client ends with the state that the fixture asks for, or its latest block with the
root where only that is known. -/
inductive HasPost (m : Moment σ) : Prop
  | state {post : ExpectedPost} {s observed : Alloc} {m' : Moment σ}
      (expects : f.expectedPost? = some post) (known : post.state? pre = some s)
      (answer : m.within terms.callTimeout (target.readState (pre.readingHint s)) =
        (.done (.ok observed), m'))
      (agrees : Mismatch.ofStates s observed = [])
  | root {b : BlockSummary} {m' : Moment σ}
      (expects : f.expectedPost? = some (.root b.stateRoot))
      (answer : m.within terms.callTimeout (target.block .latest) =
        (.done (.ok (some b)), m'))

/-- The client does what the fixture expects, from the genesis to the state at the end. -/
def Conforms (m : Moment σ) : Prop :=
  ∃ m₁ k m₂ m₃, Begins terms f target m m₁ ∧ Extends terms f target m₁ f.payloads k m₂ ∧
    HasHead terms f target m₂ m₃ ∧ HasPost terms f pre target m₃

variable {terms f pre target}

lemma run_call_guarded {α : Type} (index : Option Nat) (c : Nat → Call σ α) (m : Moment σ) :
    (call terms index c).run.run m =
      match m.guarded terms.cancelAt terms.callTimeout (c m.now) with
      | (.done a, m') => (.ok a, m')
      | (.timedOut, m') => (.error { kind := .timeout, block := index }, m')
      | (.cancelled, m') => (.error { kind := .cancelled, block := index }, m') := by
  have hmodify : (modifyGet fun m : Moment σ =>
      m.guarded terms.cancelAt terms.callTimeout (c m.now) :
        PayloadStep σ (Guarded α)).run.run m =
      (.ok (m.guarded terms.cancelAt terms.callTimeout (c m.now)).1,
        (m.guarded terms.cancelAt terms.callTimeout (c m.now)).2) := rfl
  unfold call
  rw [run_bind_ok hmodify]
  rcases m.guarded terms.cancelAt terms.callTimeout (c m.now) with ⟨a | _ | _, m'⟩ <;> rfl

lemma run_call {α : Type} (hc : terms.cancelAt = none) (index : Option Nat) (c : Call σ α)
    (m : Moment σ) :
    (call terms index c).run.run m = match m.within terms.callTimeout c with
      | (.done a, m') => (.ok a, m')
      | (.timedOut, m') => (.error { kind := .timeout, block := index }, m')
      | (.cancelled, m') => (.error { kind := .cancelled, block := index }, m') := by
  rw [run_call_guarded, hc, Moment.guarded_none]

lemma call_eq_ok {α : Type} (hc : terms.cancelAt = none) {index : Option Nat} {c : Call σ α}
    {a : α} {m m' : Moment σ} :
    (call terms index c).run.run m = (.ok a, m') ↔
      m.within terms.callTimeout c = (.done a, m') := by
  rw [run_call hc]
  rcases m.within terms.callTimeout c with ⟨a' | _ | _, m₁⟩
  · exact ⟨fun h => by cases h; rfl, fun h => by cases h; rfl⟩
  · exact ⟨nofun, nofun⟩
  · exact ⟨nofun, nofun⟩

lemma run_ask_guarded {α : Type} (index : Option Nat) (c : Nat → Call σ (FaultOr α))
    (m : Moment σ) :
    (ask terms index c).run.run m =
      match m.guarded terms.cancelAt terms.callTimeout (c m.now) with
      | (.done (.ok a), m') => (.ok a, m')
      | (.done (.error e), m') => (.error (clientFault index e), m')
      | (.timedOut, m') => (.error { kind := .timeout, block := index }, m')
      | (.cancelled, m') => (.error { kind := .cancelled, block := index }, m') := by
  unfold ask
  rw [run_bind, run_call_guarded]
  rcases m.guarded terms.cancelAt terms.callTimeout (c m.now) with ⟨(e | a) | _ | _, m'⟩ <;> rfl

lemma run_ask {α : Type} (hc : terms.cancelAt = none) (index : Option Nat)
    (c : Call σ (FaultOr α)) (m : Moment σ) :
    (ask terms index c).run.run m = match m.within terms.callTimeout c with
      | (.done (.ok a), m') => (.ok a, m')
      | (.done (.error e), m') => (.error (clientFault index e), m')
      | (.timedOut, m') => (.error { kind := .timeout, block := index }, m')
      | (.cancelled, m') => (.error { kind := .cancelled, block := index }, m') := by
  rw [run_ask_guarded, hc, Moment.guarded_none]

lemma ask_eq_ok {α : Type} (hc : terms.cancelAt = none) {index : Option Nat}
    {c : Call σ (FaultOr α)} {a : α} {m m' : Moment σ} :
    (ask terms index c).run.run m = (.ok a, m') ↔
      m.within terms.callTimeout c = (.done (.ok a), m') := by
  rw [run_ask hc]
  rcases m.within terms.callTimeout c with ⟨(e | a') | _ | _, m₁⟩
  · exact ⟨nofun, nofun⟩
  · exact ⟨fun h => by cases h; rfl, fun h => by cases h; rfl⟩
  · exact ⟨nofun, nofun⟩
  · exact ⟨nofun, nofun⟩

lemma run_offer (hc : terms.cancelAt = none) (index : Nat) (e : PayloadEntry)
    (deadline rounds : Nat) (m : Moment σ) :
    (offer terms target index e deadline (rounds + 1)).run.run m =
      match m.within terms.callTimeout (target.newPayload e.version e) with
      | (.done (.error (.rpc code message)), m') => (.ok (.refused code message), m')
      | (.done (.error fault), m') => (.error (clientFault (some index) fault), m')
      | (.done (.ok status), m') =>
        if !status.verdict.isPending then (.ok (.status status), m')
        else if deadline ≤ m'.now then (.error {
            kind := .timeout, block := some index
            message := some ("payload stayed " ++ status.verdict.name) }, m')
        else (offer terms target index e deadline rounds).run.run
          (m'.pause (max 1 terms.pollInterval))
      | (.timedOut, m') => (.error { kind := .timeout, block := some index }, m')
      | (.cancelled, m') => (.error { kind := .cancelled, block := some index }, m') := by
  rw [offer, run_bind, run_call hc]
  rcases m.within terms.callTimeout (target.newPayload e.version e) with
    ⟨(_ | status) | _ | _, m'⟩
  · rename_i fault
    cases fault <;> rfl
  · have hget : (get : PayloadStep σ (Moment σ)).run.run m' = (.ok m', m') := rfl
    by_cases hpending : status.verdict.isPending
    · simp only [hpending, Bool.not_true, Bool.false_eq_true, if_false]
      rw [run_bind_ok hget]
      by_cases hlate : deadline ≤ m'.now
      · simp only [hlate, if_true]
        rfl
      · simp only [hlate, if_false]
        rfl
    · simp only [hpending, Bool.not_false, if_true]
      rfl
  · rfl
  · rfl

lemma offer_decides (hc : terms.cancelAt = none) {index deadline rounds : Nat}
    {e : PayloadEntry} {m m' : Moment σ} {response : Response}
    (h : Decides terms target e m response m') :
    (offer terms target index e deadline (rounds + 1)).run.run m = (.ok response, m') := by
  rw [run_offer hc]
  cases h with
  | status answer decided =>
    rw [answer]
    simp only [decided, Bool.not_false, if_true]
  | refused answer => rw [answer]

/-- While a payload waits there are always rounds left. -/
lemma offer_waits (hc : terms.cancelAt = none) {index deadline : Nat}
    {e : PayloadEntry} {m m₁ : Moment σ} {pending : List PayloadStatus}
    (h : Waits terms target e deadline m pending m₁) (rounds : Nat)
    (hahead : deadline < m.now + rounds + 1) :
    ∃ left, (offer terms target index e deadline (rounds + 1)).run.run m =
      (offer terms target index e deadline (left + 1)).run.run m₁ := by
  -- In each round at least as much time goes by as the rounds are ahead of the deadline.
  induction h generalizing rounds with
  | here m => exact ⟨rounds, rfl⟩
  | @again m m₂ m₃ status rest answer pending early _ ih =>
    have hnow : m.now ≤ m₂.now := by
      simpa only [answer] using
        m.now_le_within terms.callTimeout (target.newPayload e.version e)
    obtain ⟨left, rfl⟩ : ∃ left, rounds = left + 1 :=
      Nat.exists_eq_add_one.mpr (by omega)
    have hpause : (m₂.pause (max 1 terms.pollInterval)).now =
        m₂.now + max 1 terms.pollInterval := rfl
    obtain ⟨left', hrest⟩ := ih left (by omega)
    refine ⟨left', ?_⟩
    rw [run_offer hc, answer]
    simp only [pending, Bool.not_true, Bool.false_eq_true, if_false, Nat.not_le.mpr early]
    exact hrest

lemma waits_of_offer (hc : terms.cancelAt = none) {index deadline rounds : Nat}
    {e : PayloadEntry} {m m' : Moment σ} {response : Response}
    (h : (offer terms target index e deadline rounds).run.run m = (.ok response, m')) :
    ∃ pending m₁, Waits terms target e deadline m pending m₁ ∧
      Decides terms target e m₁ response m' := by
  induction rounds generalizing m with
  | zero => cases h
  | succ rounds ih =>
    rw [run_offer hc] at h
    rcases answer : m.within terms.callTimeout (target.newPayload e.version e) with
      ⟨(fault | status) | _ | _, m₂⟩
    · rw [answer] at h
      cases fault with
      | rpc code message =>
        cases h
        exact ⟨[], m, .here m, .refused answer⟩
      | _ => cases h
    · rw [answer] at h
      simp only at h
      by_cases hpending : status.verdict.isPending
      · by_cases hlate : deadline ≤ m₂.now
        · simp only [hpending, hlate, Bool.not_true, Bool.false_eq_true, if_false,
            if_true] at h
          cases h
        · simp only [hpending, hlate, Bool.not_true, Bool.false_eq_true, if_false] at h
          obtain ⟨pending, m₁, others, hdecides⟩ := ih h
          exact ⟨status :: pending, m₁, .again answer hpending (Nat.not_le.mp hlate) others,
            hdecides⟩
      · simp only [hpending, Bool.not_false, if_true] at h
        cases h
        exact ⟨[], m, .here m, .status answer hpending⟩
    · rw [answer] at h
      cases h
    · rw [answer] at h
      cases h

lemma offer_eq_ok (hc : terms.cancelAt = none) (index : Nat) {deadline rounds : Nat}
    {e : PayloadEntry} {m m' : Moment σ} {response : Response}
    (hahead : deadline < m.now + rounds + 1) :
    (offer terms target index e deadline (rounds + 1)).run.run m = (.ok response, m') ↔
      ∃ pending m₁, Waits terms target e deadline m pending m₁ ∧
        Decides terms target e m₁ response m' := by
  constructor
  · exact waits_of_offer hc
  · rintro ⟨pending, m₁, hwaits, hdecides⟩
    obtain ⟨left, hleft⟩ := offer_waits hc hwaits rounds hahead
    rw [hleft]
    exact offer_decides hc hdecides

lemma judgeResponse_eq_accepted {network : Fork} {index : Nat} {e : PayloadEntry}
    {response : Response} :
    judgeResponse terms network index e response = .ok .accepted ↔
      e.errorCode = none ∧ e.validationError = none ∧
        ∃ s, response = .status s ∧ ¬s.verdict.isInvalid := by
  cases response with
  | refused code message =>
    by_cases hcode : e.errorCode = some code
    · simp [judgeResponse, hcode]
    · simp [judgeResponse, hcode]
  | status s =>
    cases hcode : e.errorCode with
    | some code => simp [judgeResponse, hcode]
    | none =>
      by_cases hinvalid : s.verdict.isInvalid
      · simp [judgeResponse, hcode, hinvalid, map_eq_ok]
      · cases hset : e.validationError <;> simp [judgeResponse, hcode, hinvalid, hset]

lemma judgeResponse_eq_refused {network : Fork} {index : Nat} {e : PayloadEntry}
    {response : Response} :
    judgeResponse terms network index e response = .ok .refused ↔
      (∃ code message, response = .refused code message ∧ e.errorCode = some code) ∨
      ∃ s set, response = .status s ∧ e.errorCode = none ∧ s.verdict.isInvalid ∧
        e.validationError = some set ∧
        terms.policy.admits set
          (terms.classify (s.validationError.getD "") (e.fork network)) := by
  cases response with
  | refused code message =>
    by_cases hcode : e.errorCode = some code
    · simp [judgeResponse, hcode]
    · simp [judgeResponse, hcode]
  | status s =>
    cases hcode : e.errorCode with
    | some code => simp [judgeResponse, hcode]
    | none =>
      by_cases hinvalid : s.verdict.isInvalid
      · simp [judgeResponse, hcode, hinvalid, map_eq_ok, Terms.judgeRejection_eq_ok]
      · cases hset : e.validationError <;> simp [judgeResponse, hcode, hinvalid, hset]

lemma run_submit (hc : terms.cancelAt = none) (index : Nat) (e : PayloadEntry)
    (m : Moment σ) :
    (submit terms f target index e).run.run m = match e.checkVersion f.network with
      | .error v => (.error (constructionFailure index v.message), m)
      | .ok _ => (do
        let response ← offer terms target index e (m.now + terms.syncTimeout)
          (terms.syncTimeout + 1)
        judgeResponse terms f.network index e response :
          PayloadStep σ Decision).run.run m := by
  have hget : (get : PayloadStep σ (Moment σ)).run.run m = (.ok m, m) := rfl
  have hn : isCancelled terms.cancelAt m.now = false := by
    rw [hc]
    rfl
  unfold submit
  rw [run_bind_ok hget]
  simp only [hn, Bool.false_eq_true, if_false]
  rw [run_bind, run_lift]
  cases e.checkVersion f.network with
  | error v => rfl
  | ok u => exact run_bind_ok hget _

lemma submit_of_settles (hc : terms.cancelAt = none) (index : Nat) {e : PayloadEntry}
    {m m' : Moment σ} {response : Response} (h : Settles terms f target m e response m') :
    (submit terms f target index e).run.run m =
      (judgeResponse terms f.network index e response, m') := by
  have hoffer := (offer_eq_ok hc index (Nat.lt_succ_self _)).mpr h.decided
  rw [run_submit hc, h.usable]
  simp only
  rw [run_bind_ok hoffer, run_lift]

lemma submit_eq_ok (hc : terms.cancelAt = none) {index : Nat} {e : PayloadEntry}
    {m m' : Moment σ} {decision : Decision} :
    (submit terms f target index e).run.run m = (.ok decision, m') ↔
      ∃ response, Settles terms f target m e response m' ∧
        judgeResponse terms f.network index e response = .ok decision := by
  constructor
  · intro h
    rw [run_submit hc] at h
    cases usable : e.checkVersion f.network with
    | error v =>
      rw [usable] at h
      cases h
    | ok u =>
      rw [usable] at h
      obtain ⟨response, m₁, hoffer, hlift⟩ := run_bind_eq_ok.mp h
      obtain ⟨hjudge, rfl⟩ := run_lift_eq_ok.mp hlift
      exact ⟨response, ⟨usable, (offer_eq_ok hc index (Nat.lt_succ_self _)).mp hoffer⟩, hjudge⟩
  · rintro ⟨response, settles, hjudge⟩
    rw [submit_of_settles hc index settles, hjudge]

lemma judgeChoice_eq_ok {index : Nat} {version : UInt8} {s : PayloadStatus} :
    judgeChoice index version s = .ok () ↔ s.verdict = .valid := by
  by_cases h : s.verdict = .valid
  · simp only [judgeChoice, h, if_true]
  · simp only [judgeChoice, h, if_false, reduceCtorEq]

lemma choose_eq_ok (hc : terms.cancelAt = none) {index : Nat} {e : PayloadEntry}
    {m m' : Moment σ} :
    (choose terms f target index e).run.run m = (.ok (), m') ↔
      ∃ version choice, f.forkchoiceVersionFor e = some version ∧
        m.within terms.callTimeout (target.chooseHead version { head := e.blockHash }) =
          (.done (.ok choice), m') ∧ choice.verdict = .valid := by
  unfold choose
  cases hversion : f.forkchoiceVersionFor e with
  | none =>
    constructor
    · nofun
    · rintro ⟨version, choice, h, _⟩
      cases h
  | some version =>
    simp only
    rw [run_bind_eq_ok]
    constructor
    · rintro ⟨choice, m₁, hask, hlift⟩
      obtain ⟨hjudge, rfl⟩ := run_lift_eq_ok.mp hlift
      exact ⟨version, choice, rfl, (ask_eq_ok hc).mp hask, judgeChoice_eq_ok.mp hjudge⟩
    · rintro ⟨version', choice, h, answer, hvalid⟩
      cases h
      exact ⟨choice, m', (ask_eq_ok hc).mpr answer,
        run_lift_eq_ok.mpr ⟨judgeChoice_eq_ok.mpr hvalid, rfl⟩⟩

/-! ### What becomes of a chain -/

lemma accepts_iff (hc : terms.cancelAt = none) (index : Nat) {e : PayloadEntry}
    {m m' : Moment σ} :
    Accepts terms f target m e m' ↔
      ∃ m₁, (submit terms f target index e).run.run m = (.ok .accepted, m₁) ∧
        (choose terms f target index e).run.run m₁ = (.ok (), m') := by
  constructor
  · rintro ⟨noRejection, noError, settles, valid, versioned, chosen, choiceValid⟩
    refine ⟨_, (submit_eq_ok hc).mpr ⟨_, settles, ?_⟩,
      (choose_eq_ok hc).mpr ⟨_, _, versioned, chosen, choiceValid⟩⟩
    exact judgeResponse_eq_accepted.mpr ⟨noError, noRejection, _, rfl, by rw [valid]; decide⟩
  · rintro ⟨m₁, hsubmit, hchoose⟩
    obtain ⟨response, settles, hjudge⟩ := (submit_eq_ok hc).mp hsubmit
    obtain ⟨version, choice, versioned, chosen, choiceValid⟩ := (choose_eq_ok hc).mp hchoose
    obtain ⟨noError, noRejection, s, rfl, hnot⟩ := judgeResponse_eq_accepted.mp hjudge
    obtain ⟨pending, m₂, _, hdecides⟩ := settles.decided
    have valid : s.verdict = .valid := by
      cases hdecides with
      | status answer decided => exact PayloadVerdict.eq_valid decided hnot
    exact .intro noRejection noError settles valid versioned chosen choiceValid

lemma refuses_iff (hc : terms.cancelAt = none) (index : Nat) {e : PayloadEntry}
    {m m' : Moment σ} :
    Refuses terms f target m e m' ↔
      (submit terms f target index e).run.run m = (.ok .refused, m') := by
  rw [submit_eq_ok hc]
  constructor
  · rintro (⟨expects, settles⟩ | ⟨noError, expects, settles, invalid, admitted⟩)
    · exact ⟨_, settles, judgeResponse_eq_refused.mpr (Or.inl ⟨_, _, rfl, expects⟩)⟩
    · refine ⟨_, settles, judgeResponse_eq_refused.mpr
        (Or.inr ⟨_, _, rfl, noError, ?_, expects, admitted⟩)⟩
      exact PayloadVerdict.isInvalid_iff.mpr invalid
  · rintro ⟨response, settles, hjudge⟩
    rcases judgeResponse_eq_refused.mp hjudge with
      ⟨code, message, rfl, expects⟩ | ⟨s, set, rfl, noError, hinvalid, expects, admitted⟩
    · exact .error expects settles
    · exact .invalid noError expects settles (PayloadVerdict.isInvalid_iff.mp hinvalid)
        admitted

lemma extends_nil {m m' : Moment σ} :
    (∃ k, Extends terms f target m [] k m') ↔ m = m' := by
  constructor
  · rintro ⟨k, m₁, himports, hend⟩
    rw [List.take_nil] at himports
    cases himports
    rcases hend with ⟨_, rfl⟩ | ⟨e, he, _⟩
    · rfl
    · rw [List.getElem?_nil] at he
      cases he
  · rintro rfl
    exact ⟨0, m, .nil m, Or.inl ⟨rfl, rfl⟩⟩

lemma extends_cons {m m' : Moment σ} {e : PayloadEntry} {rest : List PayloadEntry} :
    (∃ k, Extends terms f target m (e :: rest) k m') ↔ Refuses terms f target m e m' ∨
      ∃ m₁, Accepts terms f target m e m₁ ∧ ∃ k, Extends terms f target m₁ rest k m' := by
  constructor
  · rintro ⟨k, m₁, himports, hend⟩
    cases k with
    | zero =>
      cases himports
      rcases hend with ⟨h, _⟩ | ⟨e', he, hrefuses⟩
      · cases h
      · cases he
        exact Or.inl hrefuses
    | succ k =>
      cases himports with
      | @cons _ m₂ _ _ _ first others =>
        refine Or.inr ⟨m₂, first, k, m₁, others, ?_⟩
        rcases hend with ⟨h, rfl⟩ | hrefused
        · exact Or.inl ⟨Nat.succ.inj h, rfl⟩
        · exact Or.inr (by simpa only [List.getElem?_cons_succ] using hrefused)
  · rintro (hrefuses | ⟨m₂, first, k, m₁, others, hend⟩)
    · exact ⟨0, m, .nil m, Or.inr ⟨e, rfl, hrefuses⟩⟩
    · refine ⟨k + 1, m₁, .cons first others, ?_⟩
      rcases hend with ⟨rfl, rfl⟩ | hrefused
      · exact Or.inl ⟨rfl, rfl⟩
      · exact Or.inr (by simpa only [List.getElem?_cons_succ] using hrefused)

lemma extend_eq_ok (hc : terms.cancelAt = none) {index : Nat} {es : List PayloadEntry}
    {m m' : Moment σ} :
    (extend terms f target index es).run.run m = (.ok (), m') ↔
      ∃ k, Extends terms f target m es k m' := by
  induction es generalizing index m with
  | nil =>
    rw [extends_nil]
    exact ⟨fun h => by cases h; rfl, fun h => by cases h; rfl⟩
  | cons e rest ih =>
    rw [extends_cons, refuses_iff hc index, extend, run_bind_eq_ok]
    constructor
    · rintro ⟨_ | _, m₁, hsubmit, hnext⟩
      · obtain ⟨u, m₂, hchoose, hrest⟩ := run_bind_eq_ok.mp hnext
        exact Or.inr ⟨m₂, (accepts_iff hc index).mpr ⟨m₁, hsubmit, hchoose⟩, ih.mp hrest⟩
      · cases hnext
        exact Or.inl hsubmit
    · rintro (hsubmit | ⟨m₂, haccepts, hrest⟩)
      · exact ⟨.refused, m', hsubmit, rfl⟩
      · obtain ⟨m₁, hsubmit, hchoose⟩ := (accepts_iff hc index).mp haccepts
        exact ⟨.accepted, m₁, hsubmit, run_bind_eq_ok.mpr ⟨(), m₂, hchoose, ih.mpr hrest⟩⟩

lemma extend_imports (hc : terms.cancelAt = none) {es : List PayloadEntry} {m m' : Moment σ}
    (h : Imports terms f target m es m') (index : Nat) (rest : List PayloadEntry) :
    (extend terms f target index (es ++ rest)).run.run m =
      (extend terms f target (index + es.length) rest).run.run m' := by
  induction h generalizing index with
  | nil m => rfl
  | @cons m m₁ m₂ e es first _ ih =>
    obtain ⟨m₀, hsubmit, hchoose⟩ := (accepts_iff hc index).mp first
    have hindex : index + (e :: es).length = index + 1 + es.length := by
      rw [List.length_cons]
      omega
    rw [List.cons_append, extend, run_bind_ok hsubmit, hindex, ← ih (index + 1)]
    exact run_bind_ok hchoose _

lemma judgeResponse_status_of_errorCode (network : Fork) (index : Nat) {e : PayloadEntry}
    {code : Int} (s : PayloadStatus) (expects : e.errorCode = some code) :
    ∃ failure, judgeResponse terms network index e (.status s) = .error failure ∧
      failure.kind = .protocolErrorMismatch ∧ failure.block = some index := by
  simp only [judgeResponse, expects]
  exact ⟨_, rfl, rfl, rfl⟩

lemma judgeGenesis_eq_ok {expected : ChainHead} {hash : Option Hash} :
    judgeGenesis expected hash = .ok () ↔ hash = some expected.hash := by
  cases hash with
  | none => simp only [judgeGenesis, reduceCtorEq]
  | some hash =>
    by_cases h : hash = expected.hash
    · simp only [judgeGenesis, h, if_true]
    · simp only [judgeGenesis, h, if_false, reduceCtorEq, Option.some.injEq]

lemma checkGenesis_eq_ok (hc : terms.cancelAt = none) {m m' : Moment σ} :
    (checkGenesis terms f target).run.run m = (.ok (), m') ↔
      Begins terms f target m m' := by
  unfold checkGenesis
  rw [run_bind_eq_ok]
  constructor
  · rintro ⟨e | hash, m₁, hcall, hnext⟩
    · cases hnext
    · obtain ⟨hjudge, rfl⟩ := run_lift_eq_ok.mp hnext
      rw [judgeGenesis_eq_ok] at hjudge
      subst hjudge
      exact (call_eq_ok hc).mp hcall
  · intro h
    exact ⟨.ok (some f.genesisHash), m', (call_eq_ok hc).mpr h,
      run_lift_eq_ok.mpr ⟨judgeGenesis_eq_ok.mpr rfl, rfl⟩⟩

lemma checkState_eq_ok (hc : terms.cancelAt = none) {s : Alloc} {m m' : Moment σ} :
    (checkState terms target pre s).run.run m = (.ok (), m') ↔
      ∃ observed, m.within terms.callTimeout (target.readState (pre.readingHint s)) =
        (.done (.ok observed), m') ∧ Mismatch.ofStates s observed = [] := by
  unfold checkState
  rw [run_bind_eq_ok]
  constructor
  · rintro ⟨observed, m₁, hask, hnext⟩
    obtain ⟨hjudge, rfl⟩ := run_lift_eq_ok.mp hnext
    exact ⟨observed, (ask_eq_ok hc).mp hask, judgeState_eq_ok.mp hjudge⟩
  · rintro ⟨observed, answer, hagrees⟩
    exact ⟨observed, m', (ask_eq_ok hc).mpr answer,
      run_lift_eq_ok.mpr ⟨judgeState_eq_ok.mpr hagrees, rfl⟩⟩

lemma checkPost_of_state {target : Nat → EngineTarget σ} {post : ExpectedPost} {s : Alloc}
    (expects : f.expectedPost? = some post) (known : post.state? pre = some s) :
    checkPost terms f pre target = checkState terms target pre s := by
  unfold checkPost
  rw [expects]
  cases post with
  | root r => cases known
  | full s' | diff d => cases known; rfl

lemma checkPost_eq_ok (hc : terms.cancelAt = none) {m : Moment σ} :
    (∃ m', (checkPost terms f pre target).run.run m = (.ok (), m')) ↔
      HasPost terms f pre target m := by
  constructor
  · rintro ⟨m', h⟩
    cases expects : f.expectedPost? with
    | none =>
      unfold checkPost at h
      rw [expects] at h
      cases h
    | some post =>
      cases known : post.state? pre with
      | none =>
        obtain ⟨r, rfl⟩ := ExpectedPost.state?_eq_none known
        unfold checkPost at h
        rw [expects] at h
        obtain ⟨_ | b, m₁, hask, hnext⟩ := run_bind_eq_ok.mp h
        · cases hnext
        · obtain ⟨hjudge, rfl⟩ := run_lift_eq_ok.mp hnext
          rw [judgeRoot_eq_ok] at hjudge
          subst hjudge
          exact .root expects ((ask_eq_ok hc).mp hask)
      | some s =>
        rw [checkPost_of_state expects known] at h
        obtain ⟨observed, answer, agrees⟩ := (checkState_eq_ok hc).mp h
        exact .state expects known answer agrees
  · rintro (⟨expects, known, answer, agrees⟩ | ⟨expects, answer⟩)
    · rw [checkPost_of_state expects known]
      exact ⟨_, (checkState_eq_ok hc).mpr ⟨_, answer, agrees⟩⟩
    · unfold checkPost
      rw [expects]
      exact ⟨_, run_bind_eq_ok.mpr ⟨_, _, (ask_eq_ok hc).mpr answer,
        run_lift_eq_ok.mpr ⟨judgeRoot_eq_ok.mpr rfl, rfl⟩⟩⟩

/-! ### The verdict -/

lemma ofRun_eq_pass {end? : Except Failure Unit} : Verdict.ofRun end? = .pass ↔ end? = .ok () := by
  cases end? with
  | error failure => simp only [Verdict.ofRun, reduceCtorEq]
  | ok u => simp only [Verdict.ofRun]

lemma run_eq_pass (hc : terms.cancelAt = none) {m : Moment σ} :
    (run terms f pre target m).1 = .pass ↔ Conforms terms f pre target m := by
  have hrun : (run terms f pre target m).1 = .pass ↔
      ∃ m', (steps terms f pre target).run.run m = (.ok (), m') := by
    constructor
    · intro h
      exact ⟨_, Prod.ext (ofRun_eq_pass.mp h) rfl⟩
    · rintro ⟨m', h⟩
      unfold run
      rw [h]
      rfl
  rw [hrun]
  unfold steps
  constructor
  · rintro ⟨m', h⟩
    obtain ⟨_, m₁, hgenesis, h⟩ := run_bind_eq_ok.mp h
    obtain ⟨_, m₂, hextend, h⟩ := run_bind_eq_ok.mp h
    obtain ⟨head, m₃, hask, h⟩ := run_bind_eq_ok.mp h
    obtain ⟨_, m₄, hlift, hpost⟩ := run_bind_eq_ok.mp h
    obtain ⟨hjudge, rfl⟩ := run_lift_eq_ok.mp hlift
    rw [judgeHead_eq_ok] at hjudge
    subst hjudge
    obtain ⟨k, extended⟩ := (extend_eq_ok hc).mp hextend
    exact ⟨m₁, k, m₂, m₃, (checkGenesis_eq_ok hc).mp hgenesis, extended,
      (ask_eq_ok hc).mp hask, (checkPost_eq_ok hc).mp ⟨m', hpost⟩⟩
  · rintro ⟨m₁, k, m₂, m₃, begins, extended, hasHead, hasPost⟩
    obtain ⟨m', hpost⟩ := (checkPost_eq_ok hc).mpr hasPost
    refine ⟨m', run_bind_eq_ok.mpr ⟨(), m₁, (checkGenesis_eq_ok hc).mpr begins, ?_⟩⟩
    refine run_bind_eq_ok.mpr ⟨(), m₂, (extend_eq_ok hc).mpr ⟨k, extended⟩, ?_⟩
    refine run_bind_eq_ok.mpr ⟨f.expectedHead, m₃, (ask_eq_ok hc).mpr hasHead, ?_⟩
    rw [judgeHead_eq_ok.mpr rfl]
    exact run_bind_eq_ok.mpr ⟨(), m₃, rfl, hpost⟩

lemma run_status_of_errorCode (hc : terms.cancelAt = none) {m m₁ m₂ m₃ : Moment σ} {k : Nat}
    {e : PayloadEntry} {code : Int} {s : PayloadStatus}
    (begins : Begins terms f target m m₁)
    (imports : Imports terms f target m₁ (f.payloads.take k) m₂)
    (next : f.payloads[k]? = some e) (expects : e.errorCode = some code)
    (settles : Settles terms f target m₂ e (.status s) m₃) :
    ∃ failure, (run terms f pre target m).1 = .fail failure ∧
      failure.kind = .protocolErrorMismatch ∧ failure.block = some k := by
  obtain ⟨hk, rfl⟩ := List.getElem?_eq_some_iff.mp next
  have hsplit := extend_imports hc imports 0 (f.payloads.drop k)
  have hindex : 0 + (f.payloads.take k).length = k := by
    rw [List.length_take]
    omega
  rw [List.take_append_drop, hindex, List.drop_eq_getElem_cons hk, extend] at hsplit
  obtain ⟨failure, hjudge, hkind, hblock⟩ :=
    judgeResponse_status_of_errorCode f.network k s expects
  have hsubmit := submit_of_settles hc k settles
  rw [hjudge] at hsubmit
  rw [run_bind_error hsubmit] at hsplit
  refine ⟨failure, ?_, hkind, hblock⟩
  unfold run steps
  rw [run_bind_ok ((checkGenesis_eq_ok hc).mpr begins), run_bind_error hsplit]
  rfl

/-- A run that is never cancelled passes if and only if the client does what the fixture
expects. In particular an entry that should be answered by an error fails it when it is
decided by a status, whatever the status says. -/
theorem run_pass_iff (terms : Terms) (hc : terms.cancelAt = none) (f : Fixture) (pre : Alloc)
    (target : EngineTarget σ) (m : Moment σ) :
    ((run terms f pre target m).1 = .pass ↔ Conforms terms f pre target m) ∧
    ∀ m₁ k m₂ e code s m₃, Begins terms f target m m₁ →
      Imports terms f target m₁ (f.payloads.take k) m₂ → f.payloads[k]? = some e →
      e.errorCode = some code → Settles terms f target m₂ e (.status s) m₃ →
      ∃ failure, (run terms f pre target m).1 = .fail failure ∧
        failure.kind = .protocolErrorMismatch ∧ failure.block = some k := by
  refine ⟨run_eq_pass hc, ?_⟩
  intro m₁ k m₂ e code s m₃ begins imports next expects settles
  exact run_status_of_errorCode hc begins imports next expects settles

/-- A fixture with a single payload, whose call should be answered by an error. The chain
ends where it starts. -/
def misversioned : Fixture where
  network := .cancun
  genesis := { (default : Header) with statedHash := some (.replicate 1) }
  genesisRlp := none
  pre := some .empty
  preHash := none
  blocks := []
  payloads := [{
    payload := default, version := 2, blobVersionedHashes := none, parentBeaconRoot := none
    executionRequests := none, validationError := none, errorCode := some (-38005)
    forkchoiceVersion := none }]
  forkchoiceVersion := none
  lastBlockHash := .replicate 1
  postState := none
  postStateHash := some .zero
  postStateDiff := none
  config := none
  sealEngine := none

def genesisClient : EngineTarget Unit where
  newPayload _ _ := .instantly fun s => (.error (.rpc (-38005) "unsupported fork"), s)
  chooseHead _ _ := .never
  block _ := .instantly fun s => (.ok (some ⟨.replicate 1, 0, .zero⟩), s)
  account _ _ := .never

theorem run_misversioned :
    ({ mapper := .empty, client := "client" } : Terms).cancelAt = none ∧
    (run { mapper := .empty, client := "client" } misversioned .empty genesisClient
      ⟨0, ()⟩).1 = .pass := by
  refine ⟨rfl, (run_pass_iff _ rfl _ _ _ _).1.mpr ?_⟩
  refine ⟨⟨0, ()⟩, 0, ⟨0, ()⟩, ⟨0, ()⟩, rfl, ?_, ?_, ?_⟩
  · refine ⟨_, .nil _, Or.inr ⟨_, rfl, .error rfl ⟨rfl, [], _, .here _, .refused rfl⟩⟩⟩
  · rw [HasHead, Fixture.expectedHead, if_pos (by rfl)]
    rfl
  · exact .root (b := ⟨.replicate 1, 0, .zero⟩) rfl rfl

end PayloadRun

end ChainConformance
