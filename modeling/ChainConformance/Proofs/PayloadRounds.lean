import ChainConformance.Proofs.Recording

/-!
# Rounds of payloads

In what order a run offers payloads and chooses heads. The calls fall into rounds, one for
each payload in order. A round offers its payload until the client has decided, and chooses
it as the head if it was found valid as it should be. Only a choice that is found valid as
well is followed by another round.
-/

namespace ChainConformance

/-- What a guarded call is answered, none if it was cut short. -/
def Guarded.answer? {α : Type} : Guarded α → Option α
  | .done a => some a
  | _ => none

def Moment.record {σ : Type} (m : Moment (σ × List EngineCall)) : List EngineCall := m.state.2

def Says (answer : Option (FaultOr PayloadStatus)) (p : PayloadVerdict → Prop) : Prop :=
  ∃ s, answer = some (.ok s) ∧ p s.verdict

/-- The calls for one payload: the answers to its offers in order, and the version of the
choice of the payload as the head, with the answer to it, if that was made. -/
structure Round where
  entry : PayloadEntry
  answers : List (Option (FaultOr PayloadStatus))
  choice : Option (UInt8 × Option (FaultOr PayloadStatus))

namespace Round

def calls (r : Round) : List EngineCall :=
  r.answers.map (.newPayload r.entry.version r.entry) ++
    (r.choice.map fun c => .chooseHead c.1 ⟨r.entry.blockHash, .zero, .zero⟩ c.2).toList

/-- The payload is offered, every answer but the last is pending, and the payload is chosen
as the head if and only if the last answer says that it is valid and nothing else is
expected of it. -/
structure Proper (f : Fixture) (r : Round) : Prop where
  offered : r.answers ≠ []
  pending : ∀ answer ∈ r.answers.dropLast, Says answer (·.isPending)
  chosen_iff : r.choice.isSome ↔
    (∃ answer, r.answers.getLast? = some answer ∧ Says answer (· = .valid)) ∧
      r.entry.validationError = none ∧ r.entry.errorCode = none
  version : ∀ c, r.choice = some c → f.forkchoiceVersionFor r.entry = some c.1

/-- The payload is chosen as the head and the client agrees. -/
def Continues (r : Round) : Prop :=
  ∃ version answer, r.choice = some (version, answer) ∧ Says answer (· = .valid)

end Round

lemma PayloadEntry.forkchoiceVersion_of_checkVersion {e : PayloadEntry} {network : Fork}
    (usable : e.checkVersion network = .ok ()) (noError : e.errorCode = none) :
    ∃ version, (e.fork network).forkchoiceVersion? = some version := by
  unfold checkVersion at usable
  by_cases hmerge : (e.fork network).isPostMerge
  · unfold Fork.forkchoiceVersion?
    rw [hmerge]
    exact ⟨_, rfl⟩
  · simp [noError, Fork.payloadVersion?, hmerge] at usable

lemma Fixture.forkchoiceVersionFor_isSome {f : Fixture} {e : PayloadEntry}
    (usable : e.checkVersion f.network = .ok ()) (noError : e.errorCode = none) :
    ∃ version, f.forkchoiceVersionFor e = some version := by
  obtain ⟨version, h⟩ := e.forkchoiceVersion_of_checkVersion usable noError
  unfold forkchoiceVersionFor
  rw [h]
  cases e.forkchoiceVersion <;> cases f.forkchoiceVersion <;> exact ⟨_, rfl⟩

lemma head?_append {s : String} {c : Char} (h : s.toList.head? = some c) (t : String) :
    (s ++ t).toList.head? = some c := by
  rw [String.toList_append, List.head?_append, h]
  rfl

lemma VersionFault.message_eq (v : VersionFault) :
    (∃ rest, v.message = "declared newPayload version " ++ rest) ∨
      ∃ rest, v.message = "fork " ++ rest := by
  cases v with
  | preMerge fork => exact Or.inr ⟨_, String.append_assoc⟩
  | belowFork stated other | belowFields stated other | aboveFields stated other =>
    refine Or.inl ?_
    change ∃ rest, "declared newPayload version " ++ _ ++ _ ++ _ ++ _ = _ ++ rest
    simp only [String.append_assoc]
    exact ⟨_, rfl⟩

lemma VersionFault.message_ne (v : VersionFault) (name : String) :
    v.message ≠ "no forkchoiceUpdated version for " ++ name := by
  have hother : ("no forkchoiceUpdated version for " ++ name).toList.head? = some 'n' :=
    head?_append (by decide) name
  intro h
  rcases v.message_eq with ⟨rest, hv⟩ | ⟨rest, hv⟩
  · rw [← h, hv, head?_append (c := 'd') (by decide) rest] at hother
    cases hother
  · rw [← h, hv, head?_append (c := 'f') (by decide) rest] at hother
    cases hother

section Record

variable {σ α : Type}

lemma Moment.record_noted (m : Moment (σ × List EngineCall)) (timeout : Nat)
    (note : Option α → EngineCall) (c : Call σ α) :
    (m.within timeout (c.noted note)).2.record =
      m.record ++ [note (m.within timeout (c.noted note)).1.answer?] := by
  cases h : (c.noted note (some timeout) m.state).answer with
  | none =>
    rw [Moment.within_cut h]
    exact congrArg (fun a => m.record ++ [note a]) h
  | some a =>
    rw [Moment.within_answered h]
    exact congrArg (fun a => m.record ++ [note a]) h

lemma Moment.record_unnoted (m : Moment (σ × List EngineCall)) (timeout : Nat)
    (c : Call σ α) : (m.within timeout c.unnoted).2.record = m.record := by
  cases h : ((c.unnoted : Call (σ × List EngineCall) α) (some timeout) m.state).answer with
  | none =>
    rw [Moment.within_cut h]
    rfl
  | some a =>
    rw [Moment.within_answered h]
    rfl

end Record

namespace PayloadRun

variable {σ α β : Type} {terms : Terms} {f : Fixture} {pre : Alloc}

def Silent (x : PayloadStep (σ × List EngineCall) α) : Prop :=
  ∀ m, (x.run.run m).2.record = m.record

lemma silent_throw (e : Failure) :
    Silent (throw e : PayloadStep (σ × List EngineCall) α) := fun _ => rfl

lemma silent_lift (x : Except Failure α) :
    Silent (liftM x : PayloadStep (σ × List EngineCall) α) := fun _ => rfl

lemma record_bind {next : α → PayloadStep (σ × List EngineCall) β}
    (hnext : ∀ a, Silent (next a)) (x : PayloadStep (σ × List EngineCall) α)
    (m : Moment (σ × List EngineCall)) :
    ((x >>= next).run.run m).2.record = (x.run.run m).2.record := by
  rw [run_bind]
  rcases x.run.run m with ⟨e | a, m'⟩
  · rfl
  · exact hnext a m'

lemma silent_bind {x : PayloadStep (σ × List EngineCall) α}
    {next : α → PayloadStep (σ × List EngineCall) β} (h : Silent x)
    (hnext : ∀ a, Silent (next a)) : Silent (x >>= next) :=
  fun m => (record_bind hnext x m).trans (h m)

lemma silent_call (hc : terms.cancelAt = none) (index : Option Nat) (c : Call σ α) :
    Silent (call terms index fun _ => c.unnoted) := by
  intro m
  have hm := m.record_unnoted terms.callTimeout c
  rw [run_call hc]
  rcases h : m.within terms.callTimeout c.unnoted with ⟨a | _ | _, m'⟩ <;>
    (rw [h] at hm; exact hm)

lemma silent_ask (hc : terms.cancelAt = none) (index : Option Nat) (c : Call σ (FaultOr α)) :
    Silent (ask terms index fun _ => c.unnoted) := by
  refine silent_bind (silent_call hc index c) fun answer => ?_
  cases answer with
  | error e => exact silent_throw _
  | ok a => exact fun _ => rfl

variable (target : EngineTarget σ)

lemma silent_checkGenesis (hc : terms.cancelAt = none) :
    Silent (checkGenesis terms f fun _ => target.recorded) := by
  unfold checkGenesis
  simp only [target.recorded_blockHash]
  refine silent_bind (silent_call hc none _) fun answer => ?_
  cases answer with
  | error e => exact silent_throw _
  | ok hash => exact silent_lift _

lemma silent_checkState (hc : terms.cancelAt = none) (s : Alloc) :
    Silent (checkState terms (fun _ => target.recorded) pre s) := by
  unfold checkState
  simp only [target.recorded_readState]
  exact silent_bind (silent_ask hc none _) fun _ => silent_lift _

lemma silent_checkPost (hc : terms.cancelAt = none) :
    Silent (checkPost terms f pre fun _ => target.recorded) := by
  unfold checkPost
  rcases f.expectedPost? with _ | s | d | r
  · exact silent_throw _
  · exact silent_checkState target hc s
  · exact silent_checkState target hc (d.apply pre)
  · refine silent_bind (silent_ask hc none (target.block .latest)) fun answer => ?_
    cases answer with
    | none => exact silent_throw _
    | some b => exact silent_lift _

/-- What the offers of a payload leave in the record. All answers but the last are pending,
and the last one decides the payload if it is a status that is not. -/
structure Offers (e : PayloadEntry) (answers : List (Option (FaultOr PayloadStatus)))
    (result : Except Failure Response) (m m' : Moment (σ × List EngineCall)) : Prop where
  record : m'.record = m.record ++ answers.map (.newPayload e.version e)
  pending : ∀ answer ∈ answers.dropLast, Says answer (·.isPending)
  decides : ∀ s, result = .ok (.status s) ↔
    answers.getLast? = some (some (.ok s)) ∧ ¬s.verdict.isPending

variable {e : PayloadEntry} {m m₁ m' : Moment (σ × List EngineCall)}
  {result : Except Failure Response}

lemma offers_nothing (failure : Failure) : Offers e [] (.error failure) m m where
  record := by rw [List.map_nil, List.append_nil]
  pending _ h := by cases h
  decides s := ⟨nofun, fun h => by cases h.1⟩

lemma offers_once {answer : Option (FaultOr PayloadStatus)}
    (record : m'.record = m.record ++ [.newPayload e.version e answer])
    (decides : ∀ s, result = .ok (.status s) ↔
      answer = some (.ok s) ∧ ¬s.verdict.isPending) : Offers e [answer] result m m' where
  record := record
  pending _ h := by cases h
  decides s := by rw [List.getLast?_singleton, Option.some.injEq, decides s]

lemma offers_again {status : PayloadStatus}
    {answers : List (Option (FaultOr PayloadStatus))}
    (record : m₁.record = m.record ++ [.newPayload e.version e (some (.ok status))])
    (pending : status.verdict.isPending) (h : Offers e answers result m₁ m') :
    Offers e (some (.ok status) :: answers) result m m' where
  record := by rw [h.record, record, List.append_assoc, List.map_cons]; rfl
  pending answer hmem := by
    cases answers with
    | nil => cases hmem
    | cons next rest =>
      rw [List.dropLast_cons_cons, List.mem_cons] at hmem
      rcases hmem with rfl | hmem
      · exact ⟨status, rfl, pending⟩
      · exact h.pending answer hmem
  decides s := by
    rw [h.decides s]
    cases answers with
    | nil =>
      constructor
      · intro hnone
        cases hnone.1
      · rintro ⟨hlast, hdecided⟩
        rw [List.getLast?_singleton] at hlast
        cases hlast
        exact absurd pending hdecided
    | cons next rest => rw [List.getLast?_cons_cons]

lemma offer_record (hc : terms.cancelAt = none) (index : Nat) (e : PayloadEntry)
    (deadline rounds : Nat) (m : Moment (σ × List EngineCall)) :
    ∃ answers result m',
      (offer terms target.recorded index e deadline rounds).run.run m = (result, m') ∧
      Offers e answers result m m' ∧ (rounds ≠ 0 → answers ≠ []) := by
  induction rounds generalizing m with
  | zero => exact ⟨[], _, m, rfl, offers_nothing _, fun h => absurd rfl h⟩
  | succ rounds ih =>
    have hrecord := m.record_noted terms.callTimeout (.newPayload e.version e)
      (target.newPayload e.version e)
    have hcall : target.recorded.newPayload e.version e =
        (target.newPayload e.version e).noted (.newPayload e.version e) := rfl
    rw [run_offer hc, hcall]
    rcases h : m.within terms.callTimeout
        ((target.newPayload e.version e).noted (.newPayload e.version e)) with
      ⟨(fault | status) | _ | _, m₁⟩ <;> rw [h] at hrecord ⊢
    · refine ⟨[some (.error fault)], ?_⟩
      cases fault <;>
        exact ⟨_, _, rfl, offers_once hrecord (by simp), fun _ => nofun⟩
    · by_cases hpending : status.verdict.isPending
      · by_cases hlate : deadline ≤ m₁.now
        · simp only [hpending, hlate, Bool.not_true, Bool.false_eq_true, if_false, if_true]
          refine ⟨[some (.ok status)], _, m₁, rfl, offers_once hrecord fun s => ?_,
            fun _ => nofun⟩
          refine ⟨nofun, fun h => ?_⟩
          cases h.1
          exact absurd hpending h.2
        · -- The payload is offered again, and what is recorded then comes behind this answer.
          obtain ⟨answers, result, m', hrun, hoffers, _⟩ :=
            ih (m₁.pause (max 1 terms.pollInterval))
          refine ⟨some (.ok status) :: answers, result, m', ?_, ?_, fun _ => nofun⟩
          · simp only [hpending, hlate, Bool.not_true, Bool.false_eq_true, if_false]
            exact hrun
          · have hpaused : (m₁.pause (max 1 terms.pollInterval)).record =
                m.record ++ [.newPayload e.version e (some (.ok status))] := hrecord
            exact offers_again hpaused hpending hoffers
      · refine ⟨[some (.ok status)], .ok (.status status), m₁, ?_,
          offers_once hrecord fun s => ?_, fun _ => nofun⟩
        · simp only [hpending, Bool.not_false, if_true]
        · constructor
          · intro h
            cases h
            exact ⟨rfl, hpending⟩
          · rintro ⟨h, _⟩
            cases h
            rfl
    · exact ⟨[none], _, m₁, rfl, offers_once hrecord (by simp), fun _ => nofun⟩
    · exact ⟨[none], _, m₁, rfl, offers_once hrecord (by simp), fun _ => nofun⟩

lemma accepted_iff {network : Fork} {index : Nat} {e : PayloadEntry}
    {answers : List (Option (FaultOr PayloadStatus))} {result : Except Failure Response}
    {m m' : Moment (σ × List EngineCall)} (h : Offers e answers result m m') :
    (result >>= judgeResponse terms network index e) = .ok .accepted ↔
      (∃ answer, answers.getLast? = some answer ∧ Says answer (· = .valid)) ∧
        e.validationError = none ∧ e.errorCode = none := by
  constructor
  · intro haccepted
    cases result with
    | error failure => cases haccepted
    | ok response =>
      obtain ⟨noError, noRejection, s, rfl, hnot⟩ := judgeResponse_eq_accepted.mp haccepted
      obtain ⟨hlast, decided⟩ := (h.decides s).mp rfl
      exact ⟨⟨_, hlast, s, rfl, PayloadVerdict.eq_valid decided hnot⟩, noRejection, noError⟩
  · rintro ⟨⟨answer, hlast, s, rfl, hvalid⟩, noRejection, noError⟩
    have hresult : result = .ok (.status s) :=
      (h.decides s).mpr ⟨hlast, by rw [hvalid]; decide⟩
    rw [hresult]
    exact judgeResponse_eq_accepted.mpr ⟨noError, noRejection, s, rfl, by rw [hvalid]; decide⟩

lemma submit_record (hc : terms.cancelAt = none) (f : Fixture) (index : Nat)
    (e : PayloadEntry) (m : Moment (σ × List EngineCall)) :
    (∃ failure,
      (submit terms f target.recorded index e).run.run m = (.error failure, m)) ∨
    ∃ answers result m', e.checkVersion f.network = .ok () ∧
      (submit terms f target.recorded index e).run.run m =
        (result >>= judgeResponse terms f.network index e, m') ∧
      Offers e answers result m m' ∧ answers ≠ [] := by
  rw [run_submit hc]
  cases e.checkVersion f.network with
  | error v => exact Or.inl ⟨_, rfl⟩
  | ok u =>
    obtain ⟨answers, result, m', hoffer, hoffers, hsome⟩ := offer_record target hc index e
      (m.now + terms.syncTimeout) (terms.syncTimeout + 1) m
    refine Or.inr ⟨answers, result, m', rfl, ?_, hoffers, hsome (Nat.succ_ne_zero _)⟩
    simp only [run_bind, hoffer]
    cases result with
    | error failure => rfl
    | ok response => exact run_lift _ _

lemma choose_record (hc : terms.cancelAt = none) (index : Nat) {e : PayloadEntry}
    {version : UInt8} (hversion : f.forkchoiceVersionFor e = some version)
    (m : Moment (σ × List EngineCall)) :
    ∃ answer result m',
      (choose terms f target.recorded index e).run.run m = (result, m') ∧
      m'.record = m.record ++ [.chooseHead version ⟨e.blockHash, .zero, .zero⟩ answer] ∧
      (result = .ok () ↔ Says answer (· = .valid)) := by
  have hrecord := m.record_noted terms.callTimeout
    (.chooseHead version { head := e.blockHash })
    (target.chooseHead version { head := e.blockHash })
  have hcall : target.recorded.chooseHead version { head := e.blockHash } =
      (target.chooseHead version { head := e.blockHash }).noted
        (.chooseHead version { head := e.blockHash }) := rfl
  unfold choose
  rw [hversion]
  simp only
  rw [run_bind, run_ask hc, hcall]
  rcases h : m.within terms.callTimeout
      ((target.chooseHead version { head := e.blockHash }).noted
        (.chooseHead version { head := e.blockHash })) with
    ⟨(fault | status) | _ | _, m'⟩ <;> rw [h] at hrecord ⊢
  · exact ⟨some (.error fault), .error _, m', rfl, hrecord, nofun, nofun⟩
  · refine ⟨some (.ok status), judgeChoice index version status, m', rfl, hrecord, ?_⟩
    rw [judgeChoice_eq_ok]
    constructor
    · exact fun hvalid => ⟨status, rfl, hvalid⟩
    · rintro ⟨_, hstatus, hvalid⟩
      cases hstatus
      exact hvalid
  · exact ⟨none, .error _, m', rfl, hrecord, nofun, nofun⟩
  · exact ⟨none, .error _, m', rfl, hrecord, nofun, nofun⟩

/-! ### Rounds -/

/-- The rounds of payloads in order. Every one of them is as it should be, and only one that
continues is followed by another. -/
structure Rounds (f : Fixture) (es : List PayloadEntry) (rounds : List Round) : Prop where
  in_order : rounds.map Round.entry <+: es
  proper : ∀ r ∈ rounds, r.Proper f
  continues : ∀ r ∈ rounds.dropLast, r.Continues

lemma rounds_nil (f : Fixture) (es : List PayloadEntry) : Rounds f es [] where
  in_order := List.nil_prefix
  proper _ h := by cases h
  continues _ h := by cases h

lemma rounds_last {e : PayloadEntry} {rest : List PayloadEntry} {r : Round}
    (entry : r.entry = e) (proper : r.Proper f) : Rounds f (e :: rest) [r] where
  in_order := by
    rw [List.map_singleton, entry]
    exact ⟨rest, rfl⟩
  proper _ h := by
    rw [List.mem_singleton.mp h]
    exact proper
  continues _ h := by cases h

lemma rounds_next {e : PayloadEntry} {rest : List PayloadEntry} {r : Round}
    {rounds : List Round} (entry : r.entry = e) (proper : r.Proper f)
    (continues : r.Continues) (h : Rounds f rest rounds) :
    Rounds f (e :: rest) (r :: rounds) where
  in_order := by
    rw [List.map_cons, entry]
    exact List.cons_prefix_cons.mpr ⟨rfl, h.in_order⟩
  proper r' hmem := by
    rcases List.mem_cons.mp hmem with rfl | hmem
    · exact proper
    · exact h.proper r' hmem
  continues r' hmem := by
    cases rounds with
    | nil => cases hmem
    | cons next others =>
      rw [List.dropLast_cons_cons, List.mem_cons] at hmem
      rcases hmem with rfl | hmem
      · exact continues
      · exact h.continues r' hmem

lemma proper_unchosen {index : Nat} {e : PayloadEntry}
    {answers : List (Option (FaultOr PayloadStatus))} {result : Except Failure Response}
    {m m' : Moment (σ × List EngineCall)} (h : Offers e answers result m m')
    (hsome : answers ≠ [])
    (hnot : (result >>= judgeResponse terms f.network index e) ≠ .ok .accepted) :
    Round.Proper f ⟨e, answers, none⟩ where
  offered := hsome
  pending := h.pending
  chosen_iff := by
    rw [← accepted_iff h]
    exact ⟨nofun, fun haccepted => absurd haccepted hnot⟩
  version _ hchoice := by cases hchoice

lemma proper_chosen {index : Nat} {e : PayloadEntry}
    {answers : List (Option (FaultOr PayloadStatus))} {result : Except Failure Response}
    {m m' : Moment (σ × List EngineCall)} {version : UInt8}
    (answer : Option (FaultOr PayloadStatus)) (h : Offers e answers result m m')
    (hsome : answers ≠ [])
    (haccepted : (result >>= judgeResponse terms f.network index e) = .ok .accepted)
    (hversion : f.forkchoiceVersionFor e = some version) :
    Round.Proper f ⟨e, answers, some (version, answer)⟩ where
  offered := hsome
  pending := h.pending
  chosen_iff := by
    rw [← accepted_iff h]
    exact ⟨fun _ => haccepted, fun _ => rfl⟩
  version c hchoice := by
    cases hchoice
    exact hversion

/-- What a run over payloads leaves in the record are the calls of rounds. -/
lemma extend_record (hc : terms.cancelAt = none) (f : Fixture) (index : Nat)
    (es : List PayloadEntry) (m : Moment (σ × List EngineCall)) :
    ∃ rounds, ((extend terms f target.recorded index es).run.run m).2.record =
      m.record ++ rounds.flatMap Round.calls ∧ Rounds f es rounds := by
  induction es generalizing index m with
  | nil => exact ⟨[], by simp only [List.flatMap_nil, List.append_nil]; rfl, rounds_nil f []⟩
  | cons e rest ih =>
    rw [extend, run_bind]
    rcases submit_record target hc f index e m with
      ⟨failure, hsubmit⟩ | ⟨answers, result, m₁, usable, hsubmit, hoffers, hsome⟩
    · rw [hsubmit]
      exact ⟨[], by simp only [List.flatMap_nil, List.append_nil], rounds_nil f _⟩
    · rw [hsubmit]
      by_cases hjudged : (result >>= judgeResponse terms f.network index e) = .ok .accepted
      · -- Only a payload that is accepted is made the head, and only then are there more rounds.
        obtain ⟨noRejection, noError⟩ := ((accepted_iff hoffers).mp hjudged).2
        obtain ⟨version, hversion⟩ := Fixture.forkchoiceVersionFor_isSome usable noError
        obtain ⟨answer, chosen, m₂, hchoose, hchosen, hvalid⟩ :=
          choose_record target hc index hversion m₁
        have hproper := proper_chosen answer hoffers hsome hjudged hversion
        rw [hjudged]
        simp only
        rw [run_bind, hchoose]
        cases chosen with
        | error failure =>
          refine ⟨[⟨e, answers, some (version, answer)⟩], ?_, rounds_last rfl hproper⟩
          simp only [hchosen, hoffers.record]
          simp [Round.calls]
        | ok u =>
          obtain ⟨rounds, hrest, hrounds⟩ := ih (index + 1) m₂
          refine ⟨⟨e, answers, some (version, answer)⟩ :: rounds, ?_,
            rounds_next rfl hproper ⟨version, answer, rfl, hvalid.mp rfl⟩ hrounds⟩
          simp only [hrest, hchosen, hoffers.record]
          simp [Round.calls]
      · refine ⟨[⟨e, answers, none⟩], ?_,
          rounds_last rfl (proper_unchosen hoffers hsome hjudged)⟩
        have hcalls : [(⟨e, answers, none⟩ : Round)].flatMap Round.calls =
            answers.map (.newPayload e.version e) := by simp [Round.calls]
        rw [hcalls, ← hoffers.record]
        generalize result >>= judgeResponse terms f.network index e = judged at hjudged
        rcases judged with failure | _ | _
        · rfl
        · exact absurd rfl hjudged
        · rfl

/-! ### Faults of a fixture that are found during a run -/

/-- If a payload is to blame for a failure as one that breaks a rule of its own, the rule is
the one on its version. -/
def Accounted (failure : Failure) : Prop :=
  failure.kind = .fixtureConstruction → failure.block.isSome →
    ∃ v : VersionFault, failure.message = some v.message

def Accounts (x : PayloadStep σ α) : Prop :=
  ∀ m failure, (x.run.run m).1 = .error failure → Accounted failure

lemma accounts_pure (a : α) : Accounts (pure a : PayloadStep σ α) := by
  rintro m failure ⟨⟩

lemma accounts_throw {failure : Failure} (h : Accounted failure) :
    Accounts (throw failure : PayloadStep σ α) := by
  rintro _ _ ⟨⟩
  exact h

lemma accounts_lift {x : Except Failure α} (h : ∀ failure, x = .error failure →
    Accounted failure) : Accounts (liftM x : PayloadStep σ α) := fun _ failure hx => h failure hx

lemma accounts_bind {x : PayloadStep σ α} {next : α → PayloadStep σ β} (h : Accounts x)
    (hnext : ∀ m a m', x.run.run m = (.ok a, m') → Accounts (next a)) :
    Accounts (x >>= next) := by
  intro m failure hfails
  rw [run_bind] at hfails
  have hm := h m
  rcases hx : x.run.run m with ⟨e | a, m'⟩ <;> rw [hx] at hfails hm
  · cases hfails
    exact hm failure rfl
  · exact hnext m a m' hx m' failure hfails

lemma accounts_call (hc : terms.cancelAt = none) (index : Option Nat) (c : Call σ α) :
    Accounts (call terms index fun _ => c) := by
  intro m failure hfails
  rw [run_call hc] at hfails
  rcases h : m.within terms.callTimeout c with ⟨a | _ | _, m'⟩ <;> rw [h] at hfails <;>
    cases hfails <;> rintro ⟨⟩

lemma accounts_ask (hc : terms.cancelAt = none) (index : Option Nat)
    (c : Call σ (FaultOr α)) : Accounts (ask terms index fun _ => c) := by
  refine accounts_bind (accounts_call hc index c) fun _ answer _ _ => ?_
  cases answer with
  | error e => exact accounts_throw (by rintro ⟨⟩)
  | ok a => exact accounts_pure _

lemma accounts_offer (hc : terms.cancelAt = none) (index : Nat) (e : PayloadEntry)
    (deadline rounds : Nat) : Accounts (offer terms (fun _ => target) index e deadline rounds) := by
  induction rounds with
  | zero => exact accounts_throw (by rintro ⟨⟩)
  | succ rounds ih =>
    intro m failure hfails
    rw [run_offer hc] at hfails
    rcases h : m.within terms.callTimeout (target.newPayload e.version e) with
      ⟨(fault | status) | _ | _, m'⟩ <;> rw [h] at hfails
    · cases fault <;> cases hfails <;> rintro ⟨⟩
    · simp only at hfails
      split at hfails
      · cases hfails
      · split at hfails
        · cases hfails
          rintro ⟨⟩
        · exact ih _ failure hfails
    · cases hfails
      rintro ⟨⟩
    · cases hfails
      rintro ⟨⟩

lemma accounted_judgeRejection {index : Nat} {expected : Option ExceptionSet}
    {message : String} {c : Classification} {failure : Failure}
    (h : terms.judgeRejection index expected message c = .error failure) :
    Accounted failure := by
  cases expected with
  | none =>
    cases h
    rintro ⟨⟩
  | some set =>
    simp only [Terms.judgeRejection] at h
    split at h
    · cases h
    · cases h
      intro hkind
      simp only at hkind
      split at hkind <;> cases hkind

lemma accounted_judgeResponse {network : Fork} {index : Nat} {e : PayloadEntry}
    {response : Response} {failure : Failure}
    (h : judgeResponse terms network index e response = .error failure) :
    Accounted failure := by
  cases response with
  | refused code message =>
    simp only [judgeResponse] at h
    split at h
    · cases h
    · cases h
      rintro ⟨⟩
  | status s =>
    simp only [judgeResponse] at h
    split at h
    · cases h
      rintro ⟨⟩
    · split at h
      · cases hjudge : terms.judgeRejection index e.validationError
            (s.validationError.getD "")
            (terms.classify (s.validationError.getD "") (e.fork network)) with
        | error failure' =>
          rw [hjudge] at h
          cases h
          exact accounted_judgeRejection hjudge
        | ok u =>
          rw [hjudge] at h
          cases h
      · split at h
        · cases h
          rintro ⟨⟩
        · cases h

lemma accounts_submit (hc : terms.cancelAt = none) (index : Nat) (e : PayloadEntry) :
    Accounts (submit terms f (fun _ => target) index e) := by
  intro m failure hfails
  rw [run_submit hc] at hfails
  cases hversion : e.checkVersion f.network with
  | error v =>
    rw [hversion] at hfails
    cases hfails
    exact fun _ _ => ⟨v, rfl⟩
  | ok u =>
    rw [hversion] at hfails
    exact accounts_bind (accounts_offer target hc index e _ _)
      (fun _ _ _ _ => accounts_lift fun _ => accounted_judgeResponse) m failure hfails

lemma accounts_choose (hc : terms.cancelAt = none) (index : Nat) {e : PayloadEntry}
    {version : UInt8} (hversion : f.forkchoiceVersionFor e = some version) :
    Accounts (choose terms f (fun _ => target) index e) := by
  unfold choose
  rw [hversion]
  refine accounts_bind (accounts_ask hc _ _) fun _ s _ _ => accounts_lift fun failure h => ?_
  unfold judgeChoice at h
  split at h
  · cases h
  · cases h
    rintro ⟨⟩

lemma accounts_extend (hc : terms.cancelAt = none) (index : Nat) (es : List PayloadEntry) :
    Accounts (extend terms f (fun _ => target) index es) := by
  induction es generalizing index with
  | nil => exact accounts_pure _
  | cons e rest ih =>
    refine accounts_bind (accounts_submit target hc index e) fun m decision m' hsubmit => ?_
    cases decision with
    | refused => exact accounts_pure _
    | accepted =>
      obtain ⟨response, settles, hjudge⟩ := (submit_eq_ok hc).mp hsubmit
      obtain ⟨version, hversion⟩ := Fixture.forkchoiceVersionFor_isSome settles.usable
        (judgeResponse_eq_accepted.mp hjudge).1
      exact accounts_bind (accounts_choose target hc index hversion) fun _ _ _ _ =>
        ih (index + 1)

lemma accounted_judgeState {s observed : Alloc} {failure : Failure}
    (h : judgeState s observed = .error failure) : Accounted failure := by
  simp only [judgeState] at h
  split at h
  · cases h
  · cases h
    rintro ⟨⟩

lemma accounts_checkPost (hc : terms.cancelAt = none) :
    Accounts (checkPost terms f pre fun _ => target) := by
  have hstate : ∀ s, Accounts (checkState terms (fun _ => target) pre s) := fun s =>
    accounts_bind (accounts_ask hc _ _) fun _ _ _ _ =>
      accounts_lift fun _ => accounted_judgeState
  unfold checkPost
  rcases f.expectedPost? with _ | s | d | r
  · exact accounts_throw (by rintro _ ⟨⟩)
  · exact hstate s
  · exact hstate (d.apply pre)
  · refine accounts_bind (accounts_ask hc _ _) fun _ answer _ _ => ?_
    cases answer with
    | none => exact accounts_throw (by rintro ⟨⟩)
    | some b =>
      refine accounts_lift fun failure h => ?_
      simp only [judgeRoot] at h
      split at h
      · cases h
      · cases h
        rintro ⟨⟩

lemma accounts_checkGenesis (hc : terms.cancelAt = none) :
    Accounts (checkGenesis terms f fun _ => target) := by
  refine accounts_bind (accounts_call hc _ _) fun _ answer _ _ => ?_
  cases answer with
  | error e => exact accounts_throw (by rintro ⟨⟩)
  | ok hash =>
    refine accounts_lift fun failure h => ?_
    unfold judgeGenesis at h
    split at h
    · split at h
      · cases h
      · cases h
        rintro ⟨⟩
    · cases h
      rintro ⟨⟩

lemma accounts_steps (hc : terms.cancelAt = none) :
    Accounts (steps terms f pre fun _ => target) := by
  refine accounts_bind (accounts_checkGenesis target hc) fun _ _ _ _ => ?_
  refine accounts_bind (accounts_extend target hc 0 f.payloads) fun _ _ _ _ => ?_
  refine accounts_bind (accounts_ask hc _ _) fun _ head _ _ => ?_
  refine accounts_bind (accounts_lift fun failure h => ?_) fun _ _ _ _ =>
    accounts_checkPost target hc
  unfold judgeHead at h
  split at h
  · cases h
  · cases h
    rintro ⟨⟩

variable (f pre) in
lemma run_record (hc : terms.cancelAt = none) (m : Moment (σ × List EngineCall)) :
    ∃ rounds, (run terms f pre target.recorded m).2.record =
      m.record ++ rounds.flatMap Round.calls ∧ Rounds f f.payloads rounds := by
  have hrun : (run terms f pre target.recorded m).2 =
      ((steps terms f pre target.recorded).run.run m).2 := rfl
  have hgenesis := silent_checkGenesis (f := f) target hc m
  rw [hrun, steps, run_bind]
  rcases h : (checkGenesis terms f fun _ => target.recorded).run.run m with ⟨failure | u, m₁⟩ <;>
    rw [h] at hgenesis
  · refine ⟨[], ?_, rounds_nil f _⟩
    rw [List.flatMap_nil, List.append_nil]
    exact hgenesis
  · obtain ⟨rounds, hrecord, hrounds⟩ := extend_record target hc f 0 f.payloads m₁
    refine ⟨rounds, ?_, hrounds⟩
    rw [← hgenesis, ← hrecord]
    refine record_bind (fun _ => ?_) _ m₁
    simp only [target.recorded_head]
    exact silent_bind (silent_ask hc none _) fun _ =>
      silent_bind (silent_lift _) fun _ => silent_checkPost target hc

/-- In what order a run that is never cancelled makes its calls. They are the calls of
rounds, and a fixture is never blamed for a payload after which no head could be chosen. -/
theorem run_in_rounds (terms : Terms) (hc : terms.cancelAt = none) (f : Fixture) (pre : Alloc)
    (target : EngineTarget σ) (m : Moment σ) :
    let recorded := run terms f pre target.recorded ⟨m.now, (m.state, [])⟩
    run terms f pre target m = (recorded.1, recorded.2.map Prod.fst) ∧
    (∃ rounds : List Round, recorded.2.record = rounds.flatMap Round.calls ∧
      rounds.map Round.entry <+: f.payloads ∧ (∀ r ∈ rounds, r.Proper f) ∧
      ∀ r ∈ rounds.dropLast, r.Continues) ∧
    ∀ index, (run terms f pre target m).1 ≠ .fail (constructionFailure index
      ("no forkchoiceUpdated version for " ++ f.network.name)) := by
  refine ⟨run_recorded target hc m [], ?_, ?_⟩
  · obtain ⟨rounds, hrecord, hrounds⟩ := run_record f pre target hc ⟨m.now, (m.state, [])⟩
    exact ⟨rounds, hrecord, hrounds.in_order, hrounds.proper, hrounds.continues⟩
  · intro index hfails
    have hsteps : ((steps terms f pre target).run.run m).1 = .error (constructionFailure index
        ("no forkchoiceUpdated version for " ++ f.network.name)) := by
      unfold run at hfails
      rcases h : (steps terms f pre fun _ => target).run.run m with ⟨failure | u, m'⟩ <;>
        rw [h] at hfails
      · cases hfails
        rfl
      · cases hfails
    obtain ⟨v, hv⟩ := accounts_steps target hc m _ hsteps rfl rfl
    exact v.message_ne f.network.name (Option.some.inj hv).symm

theorem record_misversioned :
    ({ mapper := .empty, client := "client" } : Terms).cancelAt = none ∧
    ∃ rounds : List Round,
      (run { mapper := .empty, client := "client" } misversioned .empty
        genesisClient.recorded ⟨0, ((), [])⟩).2.record = rounds.flatMap Round.calls ∧
      rounds.map Round.entry <+: misversioned.payloads ∧ rounds ≠ [] := by
  obtain ⟨rounds, hrecord, hentries, _⟩ :=
    (run_in_rounds { mapper := .empty, client := "client" } rfl misversioned .empty
      genesisClient ⟨0, ()⟩).2.1
  refine ⟨rfl, rounds, hrecord, hentries, ?_⟩
  rintro rfl
  cases hrecord

end PayloadRun

end ChainConformance
