import ChainConformance.Proofs.HiveVisits
import ChainConformance.Proofs.SharedClient
import ChainConformance.Sample.Fixtures

/-!
# Tests on a hive simulator

What a launcher asks of a hive simulator while a group of fixtures is run: it visits the
simulator for each client that is to be started, and what it asks on account of one client is
all asked before it starts the next. So each test is ended as often as it is opened, unless
the simulator does not want to stop the client in it.

The clients answer as they like, and so does the simulator. In the record of what is sent, the
requests to clients are those with a token.
-/

namespace ChainConformance

section Tokens

variable {ω α β : Type} (web : Web ω) (known : List Exchange)

/-- Nothing but requests with tokens has been added to what is known of a record, and those to
come will have tokens too. -/
def Tokened (p : (ω × List Exchange) × RpcClient) : Prop :=
  withoutTokens p.1.2 = known ∧ p.2.secret.isSome

namespace RpcClient

variable {known}

lemma keeps_onWeb {c : Call (ω × List Exchange) α}
    (h : c.Keeps fun p => withoutTokens p.2 = known) : (onWeb c).Keeps (Tokened known) :=
  h.inside (fun _ hp => hp.1) fun _ _ hp hw => ⟨hw, hp.2⟩

lemma keeps_fetch {r : HttpRequest} (token : r.token.isSome) (f : Json → Json.Read α) :
    (Http.fetch web.recorded r f).Keeps fun p => withoutTokens p.2 = known := by
  refine .bind (.bind (fun limit p hp => ?_) fun _ => Call.keeps_pure _) fun _ => Call.keeps_pure _
  change withoutTokens (p.2 ++ [⟨r, _⟩]) = known
  rw [withoutTokens_append, hp]
  simp [withoutTokens, Option.isNone_eq_false_iff.mpr token]

lemma keeps_call (method : String) (params : List Json) (f : Json → Json.Read α) :
    (call web.recorded method params f).run.Keeps (Tokened known) := by
  unfold call
  rw [ExceptT.run_mk]
  refine .bind (fun _ _ hp => hp) fun id => ?_
  have hlook : (Call.look : Call ((ω × List Exchange) × RpcClient) _).Keeps (Tokened known) :=
    fun _ _ hp => hp
  refine hlook.bind_of (P := Tokened known) (fun _ _ _ hp h => Option.some.inj h ▸ hp)
    fun p hp => ?_
  obtain ⟨secret, hsecret⟩ := Option.isSome_iff_exists.mp hp.2
  simp only [hsecret]
  refine .bind (keeps_onWeb fun _ _ h => h) fun time => ?_
  refine (Call.keeps_pure _).bind_of (P := (·.isSome))
    (fun _ _ _ _ h => Option.some.inj h ▸ rfl) fun token htoken => ?_
  exact .bind (keeps_onWeb (keeps_fetch web htoken _)) fun _ => Call.keeps_pure _

lemma keeps_calls {x : Calls (ω × List Exchange) α} {next : α → Calls (ω × List Exchange) β}
    (first : x.run.Keeps (Tokened known)) (others : ∀ a, (next a).run.Keeps (Tokened known)) :
    (x >>= next).run.Keeps (Tokened known) := by
  rw [ExceptT.run_bind]
  refine first.bind fun answer => ?_
  rcases answer with fault | a
  · exact Call.keeps_pure _
  · exact others a

lemma keeps_readSlots (address : Address) (keys : List Word) (read : Storage) :
    (readSlots web.recorded address keys read).run.Keeps (Tokened known) := by
  induction keys generalizing read with
  | nil => exact Call.keeps_pure _
  | cons key rest ih => exact keeps_calls (keeps_call web _ _ _) fun _ => ih _

lemma keeps_readAccount (address : Address) (keys : List Word) :
    (readAccount web.recorded address keys).run.Keeps (Tokened known) :=
  keeps_calls (keeps_call web _ _ _) fun _ => keeps_calls (keeps_call web _ _ _) fun _ =>
    keeps_calls (keeps_call web _ _ _) fun _ =>
      keeps_calls (keeps_readSlots web address keys _) fun _ => Call.keeps_pure _

end RpcClient

end Tokens

namespace Hive.Suite

variable {s : Suite} {spec : ClientSpec}

/-- All that was asked of the simulator was asked on account of clients that are gone, but for
what was asked on account of the one that is left, if any. -/
def Tended (s : Suite) (spec : ClientSpec) (live : Option Client) (record : List Exchange) :
    Prop :=
  ∃ (visits : List (List Exchange)) (asked : List Exchange),
    withoutTokens record = visits.flatten ++ asked ∧
    (∀ visit ∈ visits, Visit s spec visit) ∧ Stay s spec live asked

section Loop

variable {ω : Type} {web : Web ω} {record : List Exchange}

lemma tended_nil : Tended s spec none [] := ⟨[], [], rfl, List.forall_mem_nil _, .vacant⟩

lemma keeps_onEndpoint {α : Type} {c : Call ((ω × List Exchange) × RpcClient) α}
    (h : ∀ known, c.Keeps (Tokened known)) :
    (onEndpoint c).Keeps fun q => Tended s spec (some q.2) q.1.2 := by
  rintro limit q ⟨visits, asked, hrecord, hvisits, hstay⟩
  cases hstay with | attended opening secret =>
  obtain ⟨hknown, hsecret⟩ := h _ limit (q.1, q.2.rpc) ⟨rfl, secret⟩
  exact ⟨visits, _, hknown.trans hrecord, hvisits, .attended opening hsecret⟩

lemma clientTarget_keeps (web : Web ω) :
    (clientTarget web.recorded).Keeps fun q => Tended s spec (some q.2) q.1.2 where
  newPayload _ _ := keeps_onEndpoint fun _ => RpcClient.keeps_call web _ _ _
  chooseHead _ _ := keeps_onEndpoint fun _ => RpcClient.keeps_call web _ _ _
  block _ := keeps_onEndpoint fun _ => RpcClient.keeps_call web _ _ _
  account _ _ := keeps_onEndpoint fun _ => RpcClient.keeps_readAccount web _ _

lemma tended_none {visits : List (List Exchange)} {before asked : List Exchange}
    (hrecord : withoutTokens record = visits.flatten ++ before)
    (hvisits : ∀ visit ∈ visits, Visit s spec visit) (h : Visit s spec (before ++ asked)) :
    Tended s spec none (record ++ asked) := by
  have hasked : withoutTokens asked = asked := by
    have hall := List.filter_eq_self.mp h.withoutTokens
    exact List.filter_eq_self.mpr fun e he => hall e (List.mem_append_right before he)
  refine ⟨visits ++ [before ++ asked], [], ?_, ?_, .vacant⟩
  · rw [withoutTokens_append, hrecord, hasked]
    simp
  · exact List.forall_mem_append.mpr ⟨hvisits, List.forall_mem_singleton.mpr h⟩

variable (answers : web.Answers) {g : PayloadGroup (ω × List Exchange) Client}
  (launched : g.launcher = s.launcher web.recorded) {m : Moment (ω × List Exchange)}
include answers launched

lemma Tended.start (h : Tended s g.spec none m.state.2) :
    Tended s g.spec (g.start.run m).1 (g.start.run m).2.state.2 := by
  obtain ⟨visits, before, hrecord, hvisits, hstay⟩ := h
  cases hstay
  obtain ⟨w, x, asked, hends, hcases⟩ := ends_startClient s g.spec answers m.state
  obtain ⟨now, hstart⟩ := hends.unguarded
  have hstarted : m.unguarded ((s.launcher web.recorded).start g.spec) =
      (some x, ⟨now, (w, m.state.2 ++ asked)⟩) := hstart
  rw [PayloadGroup.run_start, launched, hstarted]
  rcases hcases with ⟨c, rfl, hstay⟩ | ⟨fault, rfl, hvisit⟩
  · refine ⟨visits, asked, ?_, hvisits, hstay⟩
    rw [withoutTokens_append, hrecord, hstay.withoutTokens, List.append_nil]
  · exact tended_none hrecord hvisits hvisit

lemma Tended.stop {c : Client} (h : Tended s g.spec (some c) m.state.2) :
    Tended s g.spec none ((g.stop c).run m).2.state.2 := by
  obtain ⟨visits, before, hrecord, hvisits, hstay⟩ := h
  obtain ⟨w, x, asked, hends, hvisit⟩ := hstay.ends_stopClient answers m.state
  obtain ⟨now, hstop⟩ := hends.unguarded
  have hstopped : ((g.stop c).run m).2 = ⟨now, (w, m.state.2 ++ asked)⟩ := by
    change (m.unguarded (g.launcher.stop c)).2 = _
    rw [launched]
    exact congrArg Prod.snd hstop
  rw [hstopped]
  exact tended_none hrecord hvisits hvisit

lemma Tended.runFrom (members : List Member) {live : Option Client}
    (h : Tended s g.spec live m.state.2) :
    Tended s g.spec ((g.runFrom members live).run m).1.2
      ((g.runFrom members live).run m).2.state.2 := by
  -- By induction on the members: what is asked on account of a client is all asked before the
  -- next one is started.
  induction members generalizing live m with
  | nil => exact h
  | cons member rest ih =>
    cases live with
    | none => exact h
    | some c =>
      have keeps (k : EngineRequest) : (g.launcher.client.request k).Keeps fun q =>
          Tended s g.spec (some q.2) q.1.2 := by
        rw [launched]
        exact (clientTarget_keeps web).request k
      have hran := PayloadGroup.runMember_keeps keeps member (m := ⟨m.now, (m.state, c)⟩) h
      rcases ran : g.runMember member ⟨m.now, (m.state, c)⟩ with ⟨⟨verdict, result⟩, after⟩
      rw [ran] at hran
      by_cases hrest : rest = []
      · subst hrest
        rw [PayloadGroup.run_runFrom_last ran]
        exact hran
      · rcases back : (if verdict.poisonsClient then (false, after) else g.reset after) with
          ⟨isReset, left⟩
        have hleft : Tended s g.spec (some left.state.2) (aside left).state.2 :=
          PayloadGroup.back_keeps keeps back hran
        rw [PayloadGroup.run_runFrom_cons hrest ran back, PayloadGroup.run_goOn]
        by_cases hcancelled : isCancelled g.terms.cancelAt (aside left).now
        · rw [if_pos hcancelled]
          exact hleft
        · rw [if_neg hcancelled]
          cases isReset with
          | true => exact ih hleft
          | false => exact ih ((hleft.stop answers launched).start answers launched)

lemma Tended.session (members : List Member) (h : Tended s g.spec none m.state.2) :
    Tended s g.spec none ((g.session members).run m).2.state.2 := by
  have hstarted := h.start answers launched
  rcases hstart : g.start.run m with ⟨live, m₁⟩
  rw [hstart] at hstarted
  have hran := hstarted.runFrom answers launched members
  rcases hloop : (g.runFrom members live).run m₁ with ⟨⟨results, last⟩, m₂⟩
  rw [hloop] at hran
  rw [PayloadGroup.run_session hstart hloop]
  cases last with
  | none => exact hran
  | some c => exact hran.stop answers launched

end Loop

lemma countP_flatten {visits : List (List Exchange)}
    (h : ∀ visit ∈ visits, Visit s spec visit) (test : Nat) :
    visits.flatten.countP (s.closes test) + visits.flatten.countP (s.retains test) =
      visits.flatten.countP (s.opens test) := by
  induction visits with
  | nil => rfl
  | cons visit rest ih =>
    obtain ⟨hvisit, hrest⟩ := List.forall_mem_cons.mp h
    have hfirst := hvisit.countP test
    have hothers := ih hrest
    simp only [List.flatten_cons, List.countP_append]
    omega

/-- Whatever the simulator and the clients answer, what a launcher asks of the simulator for a
group is made up of visits, each of them complete before the next one begins. So each test is
ended as often as it is opened, but for the times when the simulator does not want to stop the
client in it. -/
theorem tests_ended_unless_retained {ω : Type} (web : Web ω) (answers : web.Answers)
    (terms : Terms) (s : Suite) (group : Group) (members : List Member) (now : Nat) (w : ω) :
    let launcher := s.launcher web.recorded
    let ended := PayloadGroup.run terms launcher group members ⟨now, (w, [])⟩
    let asked := withoutTokens ended.2.state.2
    (∃ visits : List (List Exchange), asked = visits.flatten ∧
      ∀ visit ∈ visits, ∃ first ∈ members.head?,
        Visit s (PayloadGroup.ofGroup terms launcher group first members.length).spec visit) ∧
    ∀ test, asked.countP (s.closes test) + asked.countP (s.retains test) =
      asked.countP (s.opens test) := by
  intro launcher ended asked
  cases members with
  | nil => exact ⟨⟨[], rfl, List.forall_mem_nil _⟩, fun _ => rfl⟩
  | cons first rest =>
    let g := PayloadGroup.ofGroup terms launcher group first (rest.length + 1)
    have htended : Tended s g.spec none ended.2.state.2 :=
      Tended.session (g := g) answers rfl (first :: rest) tended_nil
    obtain ⟨visits, before, hasked, hvisits, hstay⟩ := htended
    cases hstay
    rw [List.append_nil] at hasked
    have hcount := countP_flatten hvisits
    rw [← hasked] at hcount
    exact ⟨⟨visits, hasked, fun visit h => ⟨first, rfl, hvisits visit h⟩⟩, hcount⟩

def sample : Suite := ⟨"http://simulator", 3, "client", ⟨.zero⟩⟩

/-- A simulator that starts all the clients that it is asked for in the test 7, and answers with
the given status when one is to be stopped. The clients cannot be reached. -/
def sampleWeb (status : Nat) : Web Unit where
  send r := pure <|
    if r.token.isSome then .error "unreachable"
    else if r.verb = "DELETE" then .ok ⟨status, ""⟩
    else if r.url = sample.url ++ "/test" then .ok ⟨200, "7"⟩
    else if r.url = sample.testUrl 7 ++ "/node" then
      .ok ⟨200, "\x7b\"id\": \"n1\", \"ip\": \"10.0.0.1\"\x7d"⟩
    else .ok ⟨200, ""⟩
  clock := pure 0

lemma sampleWeb_answers (status : Nat) : (sampleWeb status).Answers := fun _ _ => rfl

def sampleTerms : Terms := { mapper := .empty, client := "client" }

def sampleGroup : Group := ⟨Sample.pre, .ofHeader Sample.genesis, .cancun, [], 1⟩

def sampleMember : Member where
  path := "a.json"
  name := "b"
  fixture := { Sample.bare with genesis := { Sample.genesis with statedHash := some .zero } }

def sampleAsked (status : Nat) : List Exchange :=
  withoutTokens (PayloadGroup.run sampleTerms (sample.launcher (sampleWeb status).recorded)
    sampleGroup [sampleMember] ⟨0, ((), [])⟩).2.state.2

theorem tests_ended_unless_retained_stopped :
    (sampleWeb 200).Answers ∧ (sampleAsked 200).countP (sample.opens 7) = 1 ∧
      (sampleAsked 200).countP (sample.closes 7) = 1 := by
  have hcount := (tests_ended_unless_retained (sampleWeb 200) (sampleWeb_answers 200) sampleTerms
    sample sampleGroup [sampleMember] 0 ()).2 7
  have hopens : (sampleAsked 200).countP (sample.opens 7) = 1 := by decide +kernel
  have hretains : (sampleAsked 200).countP (sample.retains 7) = 0 := by decide +kernel
  change (sampleAsked 200).countP _ + (sampleAsked 200).countP _ = (sampleAsked 200).countP _
    at hcount
  rw [hopens, hretains] at hcount
  exact ⟨sampleWeb_answers 200, hopens, hcount⟩

/-- A test is never ended when the simulator does not want to stop the client in it. -/
theorem retained_test_not_ended :
    (sampleWeb 500).Answers ∧ (sampleAsked 500).countP (sample.opens 7) = 1 ∧
      (sampleAsked 500).countP (sample.closes 7) = 0 :=
  ⟨sampleWeb_answers 500, by decide +kernel, by decide +kernel⟩

end Hive.Suite

end ChainConformance
