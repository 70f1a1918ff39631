import ChainConformance.Hive
import ChainConformance.Proofs.Recording

/-!
# Visits to a hive simulator

What a launcher asks of a hive simulator on account of one client. It opens a test for the
client, and ends the test when the client could not be started or was stopped. A test whose
client the simulator does not want to stop is left open.

The simulator answers as it likes. What is sent to it is kept in a record.
-/

namespace ChainConformance

/-- A request with the answer to it, none if it was cut short. -/
structure Exchange where
  request : HttpRequest
  answer : Option (Except String HttpResponse)

namespace Exchange

def outcome (e : Exchange) : Option (FaultOr String) := e.answer.map (Http.accepted e.request)

def reading {α : Type} (f : Json → Json.Read α) (e : Exchange) : Option (FaultOr α) :=
  e.outcome.map (· >>= Http.readBody f)

def isDenied (e : Exchange) : Bool := !e.outcome.any (·.isOk)

end Exchange

def withoutTokens (record : List Exchange) : List Exchange :=
  record.filter (·.request.token.isNone)

lemma withoutTokens_append (record others : List Exchange) :
    withoutTokens (record ++ others) = withoutTokens record ++ withoutTokens others :=
  List.filter_append ..

/-- The way to servers with a record of what is sent. -/
def Web.recorded {ω : Type} (web : Web ω) : Web (ω × List Exchange) where
  send r := (web.send r).noted (Exchange.mk r)
  clock := web.clock.unnoted

/-- The servers do not see the record that is kept of what is sent to them. -/
lemma Web.recorded_matches {ω : Type} (web : Web ω) :
    (∀ r, (web.recorded.send r).Matches (web.send r) fun p w => p.1 = w) ∧
      web.recorded.clock.Matches web.clock fun p w => p.1 = w :=
  ⟨fun r => Call.noted_matches _ (web.send r), web.clock.unnoted_matches⟩

/-- Whatever is sent is answered, or fails, in the end. -/
def Web.Answers {ω : Type} (web : Web ω) : Prop := ∀ r w, (web.send r none w).answer.isSome

/-- The call has an answer, and leaves a state, if nothing cuts it short. -/
def Call.Ends {σ α : Type} (c : Call σ α) (s : σ) (a : α) (s' : σ) : Prop :=
  (c none s).answer = some a ∧ (c none s).state = s'

section Ends

variable {σ α β : Type}

lemma Call.ends_pure (a : α) (s : σ) : (pure a : Call σ α).Ends s a s := ⟨rfl, rfl⟩

lemma Call.Ends.bind {c : Call σ α} {next : α → Call σ β} {s s' s'' : σ} {a : α} {b : β}
    (first : c.Ends s a s') (rest : (next a).Ends s' b s'') : (c >>= next).Ends s b s'' := by
  obtain ⟨hanswer, rfl⟩ := first
  obtain ⟨hrest, rfl⟩ := rest
  unfold Ends
  rw [bind_answered hanswer]
  exact ⟨hrest, rfl⟩

lemma Call.Ends.unguarded {c : Call σ α} {m : Moment σ} {a : α} {s : σ}
    (h : c.Ends m.state a s) : ∃ now, m.unguarded c = (some a, ⟨now, s⟩) := by
  obtain ⟨hanswer, rfl⟩ := h
  exact ⟨_, Prod.ext hanswer rfl⟩

end Ends

namespace Web.Answers

variable {ω α : Type} {web : Web ω} (answers : web.Answers) (r : HttpRequest)
  (p : ω × List Exchange)
include answers

lemma ends_send : ∃ e w x, e.request = r ∧ e.outcome = some x ∧
    (Http.send web.recorded r).Ends p x (w, p.2 ++ [e]) := by
  obtain ⟨a, hanswer⟩ := Option.isSome_iff_exists.mp (answers r p.1)
  have hsent : (web.recorded.send r).Ends p a
      ((web.send r none p.1).state, p.2 ++ [⟨r, some a⟩]) := by
    refine ⟨hanswer, ?_⟩
    rw [← hanswer]
    rfl
  exact ⟨⟨r, some a⟩, _, _, rfl, rfl, hsent.bind (Call.ends_pure _ _)⟩

lemma ends_fetch (f : Json → Json.Read α) : ∃ e w x, e.request = r ∧ e.reading f = some x ∧
    (Http.fetch web.recorded r f).Ends p x (w, p.2 ++ [e]) := by
  obtain ⟨e, w, x, hrequest, houtcome, hsent⟩ := answers.ends_send r p
  refine ⟨e, w, _, hrequest, ?_, hsent.bind (Call.ends_pure _ _)⟩
  rw [Exchange.reading, houtcome]
  rfl

end Web.Answers

namespace Hive.Suite

section Requests

variable {ω : Type} (web : Web ω) (s : Suite) (spec : ClientSpec) (test : Nat)

open Json in
def testRequest : HttpRequest where
  verb := "POST"
  url := s.url ++ "/test"
  body := .json (object [
    ("name", .text spec.label),
    ("description", .text (spec.client ++ " on " ++ spec.fork.name))])

def nodeRequest : HttpRequest where
  verb := "POST"
  url := s.testUrl test ++ "/node"
  body := .form (s.nodeForm spec)

def stopRequest (node : String) : HttpRequest where
  verb := "DELETE"
  url := s.testUrl test ++ "/node/" ++ node

open Json in
def endRequest (pass : Bool) (details : String) : HttpRequest where
  verb := "POST"
  url := s.testUrl test
  body := .json (object [("pass", .bool pass), ("details", .text details)])

def stoppedNote : String := "client stopped"

lemma startTest_eq : s.startTest web spec = Http.fetch web (s.testRequest spec) readId := rfl

lemma startNode_eq :
    s.startNode web test spec = Http.fetch web (s.nodeRequest spec test) readNode := rfl

lemma endTest_eq (pass : Bool) (details : String) : s.endTest web test pass details = (do
    return (← Http.send web (s.endRequest test pass details)).map fun _ => ()) := rfl

lemma stopClient_eq (c : Client) : s.stopClient web c = (do
    match ← Http.send web (s.stopRequest c.test c.node) with
    | .error e => return .error e
    | .ok _ => s.endTest web c.test true stoppedNote) := rfl

end Requests

/-- A test is opened, and a client is started in it. -/
structure Opening (s : Suite) (spec : ClientSpec) (test : Nat) (node : String)
    (opened started : Exchange) : Prop where
  asksTest : opened.request = s.testRequest spec
  isOpened : opened.reading readId = some (.ok test)
  asksNode : started.request = s.nodeRequest spec test
  isStarted : ∃ address, started.reading readNode = some (.ok (node, address))

/-- All that is asked of the simulator on account of one client. -/
inductive Visit (s : Suite) (spec : ClientSpec) : List Exchange → Prop
  | unopened {opened : Exchange} {fault : RunFault} (asksTest : opened.request = s.testRequest spec)
      (isRefused : opened.reading readId = some (.error fault)) : Visit s spec [opened]
  | unstarted {opened refused closed : Exchange} {test : Nat} {fault : RunFault}
      (asksTest : opened.request = s.testRequest spec)
      (isOpened : opened.reading readId = some (.ok test))
      (asksNode : refused.request = s.nodeRequest spec test)
      (isRefused : refused.reading readNode = some (.error fault))
      (ends : closed.request = s.endRequest test false fault.message) :
      Visit s spec [opened, refused, closed]
  | stopped {opened started released closed : Exchange} {test : Nat} {node body : String}
      (opening : Opening s spec test node opened started)
      (stops : released.request = s.stopRequest test node)
      (isStopped : released.outcome = some (.ok body))
      (ends : closed.request = s.endRequest test true stoppedNote) :
      Visit s spec [opened, started, released, closed]
  | unreleased {opened started refused : Exchange} {test : Nat} {node : String}
      {fault : RunFault} (opening : Opening s spec test node opened started)
      (stops : refused.request = s.stopRequest test node)
      (isRefused : refused.outcome = some (.error fault)) :
      Visit s spec [opened, started, refused]

/-- What has been asked on account of a client that is still to be stopped. -/
inductive Stay (s : Suite) (spec : ClientSpec) : Option Client → List Exchange → Prop
  | vacant : Stay s spec none []
  | attended {opened started : Exchange} {c : Client}
      (opening : Opening s spec c.test c.node opened started) (secret : c.rpc.secret.isSome) :
      Stay s spec (some c) [opened, started]

variable {s : Suite} {spec : ClientSpec} {visit : List Exchange}

lemma Opening.withoutTokens {test : Nat} {node : String} {opened started : Exchange}
    (h : Opening s spec test node opened started) :
    withoutTokens [opened, started] = [opened, started] := by
  simp [ChainConformance.withoutTokens, h.asksTest, h.asksNode, testRequest, nodeRequest]

lemma Stay.withoutTokens {live : Option Client} (h : Stay s spec live visit) :
    withoutTokens visit = visit := by
  cases h with
  | vacant => rfl
  | attended opening _ => exact opening.withoutTokens

lemma Visit.withoutTokens (h : Visit s spec visit) : withoutTokens visit = visit := by
  cases h with
  | unopened asksTest _ => simp [ChainConformance.withoutTokens, asksTest, testRequest]
  | unstarted asksTest _ asksNode _ ends =>
    simp [ChainConformance.withoutTokens, asksTest, asksNode, ends, testRequest, nodeRequest,
      endRequest]
  | stopped opening stops _ ends =>
    simp [ChainConformance.withoutTokens, opening.asksTest, opening.asksNode, stops, ends,
      testRequest, nodeRequest, stopRequest, endRequest]
  | unreleased opening stops _ =>
    simp [ChainConformance.withoutTokens, opening.asksTest, opening.asksNode, stops, testRequest,
      nodeRequest, stopRequest]

def opens (s : Suite) (test : Nat) (e : Exchange) : Bool :=
  e.request.verb == "POST" && e.request.url == s.url ++ "/test" &&
    (e.reading readId).any (·.toOption == some test)

def closes (s : Suite) (test : Nat) (e : Exchange) : Bool :=
  e.request.verb == "POST" && e.request.url == s.testUrl test

def retains (s : Suite) (test : Nat) (e : Exchange) : Bool :=
  e.request.verb == "DELETE" &&
    (s.testUrl test ++ "/node/").toList.isPrefixOf e.request.url.toList && e.isDenied

section Urls

variable (s) (test other : Nat)

lemma slash_notMem_toString : '/' ∉ (toString test).toList := by
  rw [Nat.toString_eq_repr, Nat.toList_repr]
  intro h
  have hdigit := Nat.isDigit_of_mem_toDigits (by decide) (by decide) h
  exact absurd hdigit (by decide)

lemma takeWhile_toString (rest : List Char) :
    ((toString test).toList ++ '/' :: rest).takeWhile (· ≠ '/') = (toString test).toList := by
  rw [List.takeWhile_append_of_pos]
  · simp
  · intro c hc
    exact decide_eq_true fun h => slash_notMem_toString test (h ▸ hc)

lemma number_inj {test other : Nat} (h : (toString test).toList = (toString other).toList) :
    test = other := by
  rw [Nat.toString_eq_repr, Nat.toString_eq_repr, Nat.toList_repr, Nat.toList_repr] at h
  have hvalue := congrArg (Nat.ofDigitChars 10 · 0) h
  simpa only [Nat.ofDigitChars_ten_toDigits] using hvalue

lemma testUrl_eq_append : s.testUrl test = s.url ++ ("/test" ++ ("/" ++ toString test)) := by
  simp only [testUrl, String.append_assoc]
  rfl

@[simp] lemma testUrl_inj : s.testUrl test = s.testUrl other ↔ test = other := by
  refine ⟨fun h => number_inj ?_, congrArg _⟩
  exact congrArg String.toList ((String.append_right_inj _).mp h)

@[simp] lemma testUrl_ne_tests : s.testUrl test ≠ s.url ++ "/test" := by
  intro h
  have hlength := congrArg String.length h
  simp [testUrl_eq_append] at hlength

@[simp] lemma nodeUrl_ne_tests : s.testUrl test ++ "/node" ≠ s.url ++ "/test" := by
  intro h
  have hlength := congrArg String.length h
  have hnode : "/node".length = 5 := by decide
  simp only [testUrl_eq_append, String.length_append] at hlength
  omega

@[simp] lemma nodeUrl_ne_testUrl : s.testUrl test ++ "/node" ≠ s.testUrl other := by
  intro h
  rw [testUrl, testUrl, String.append_assoc, String.append_right_inj] at h
  have hslash := slash_notMem_toString other
  rw [← h] at hslash
  simp at hslash

lemma isPrefixOf_stopUrl (node : String) :
    (s.testUrl other ++ "/node/").toList.isPrefixOf (s.testUrl test ++ "/node/" ++ node).toList =
      (test == other) := by
  rw [Bool.eq_iff_iff, List.isPrefixOf_iff_prefix, beq_iff_eq]
  constructor
  · rintro ⟨rest, h⟩
    have hnode : "/node/".toList = '/' :: "node/".toList := by decide
    simp only [testUrl, String.toList_append, List.append_assoc, List.append_cancel_left_eq, hnode,
      List.cons_append] at h
    have hnumber := congrArg (List.takeWhile (· ≠ '/')) h
    rw [takeWhile_toString, takeWhile_toString] at hnumber
    exact (number_inj hnumber).symm
  · rintro rfl
    rw [String.toList_append (s := _ ++ _)]
    exact List.prefix_append _ _

end Urls

section Counts

variable {e : Exchange} {test : Nat} (other : Nat)

lemma of_testRequest (h : e.request = s.testRequest spec) :
    s.closes other e = false ∧ s.retains other e = false := by
  simp [closes, retains, h, testRequest, (testUrl_ne_tests s other).symm]

lemma of_nodeRequest (h : e.request = s.nodeRequest spec test) :
    s.opens other e = false ∧ s.closes other e = false ∧ s.retains other e = false := by
  simp [opens, closes, retains, h, nodeRequest]

lemma of_stopRequest {node : String} (h : e.request = s.stopRequest test node) :
    s.opens other e = false ∧ s.closes other e = false ∧
      s.retains other e = (test == other && e.isDenied) := by
  simp only [opens, closes, retains, h, stopRequest, isPrefixOf_stopUrl]
  exact ⟨rfl, rfl, rfl⟩

lemma of_endRequest {pass : Bool} {details : String}
    (h : e.request = s.endRequest test pass details) :
    s.opens other e = false ∧ s.closes other e = (test == other) ∧ s.retains other e = false := by
  simp [opens, closes, retains, h, endRequest]

lemma opens_of_error {fault : RunFault} (h : e.reading readId = some (.error fault)) :
    s.opens other e = false := by
  simp [opens, h, Except.toOption]

lemma opens_of_ok (h : e.request = s.testRequest spec)
    (hread : e.reading readId = some (.ok test)) : s.opens other e = (test == other) := by
  simp [opens, h, testRequest, hread, Except.toOption]

end Counts

/-- A test that is opened on account of a client is ended, unless the client is retained. -/
lemma Visit.countP (h : Visit s spec visit) (test : Nat) :
    visit.countP (s.closes test) + visit.countP (s.retains test) = visit.countP (s.opens test) := by
  cases h with
  | unopened asksTest isRefused =>
    simp [of_testRequest test asksTest, opens_of_error test isRefused]
  | unstarted asksTest isOpened asksNode isRefused ends =>
    simp [List.countP_cons, of_testRequest test asksTest, opens_of_ok test asksTest isOpened,
      of_nodeRequest test asksNode, of_endRequest test ends]
  | stopped opening stops isStopped ends =>
    obtain ⟨asksTest, isOpened, asksNode, -⟩ := opening
    simp [List.countP_cons, of_testRequest test asksTest, opens_of_ok test asksTest isOpened,
      of_nodeRequest test asksNode, of_stopRequest test stops, of_endRequest test ends,
      Exchange.isDenied, isStopped, Except.isOk, Except.toBool]
  | unreleased opening stops isRefused =>
    obtain ⟨asksTest, isOpened, asksNode, -⟩ := opening
    simp [List.countP_cons, of_testRequest test asksTest, opens_of_ok test asksTest isOpened,
      of_nodeRequest test asksNode, of_stopRequest test stops, Exchange.isDenied, isRefused,
      Except.isOk, Except.toBool]

section Ends

variable {ω : Type} {web : Web ω} (answers : web.Answers) (p : ω × List Exchange)
include answers

lemma ends_endTest (test : Nat) (pass : Bool) (details : String) : ∃ e w x,
    e.request = s.endRequest test pass details ∧
      (s.endTest web.recorded test pass details).Ends p x (w, p.2 ++ [e]) := by
  obtain ⟨e, w, x, hrequest, -, hsent⟩ := answers.ends_send (s.endRequest test pass details) p
  refine ⟨e, w, x.map fun _ => (), hrequest, ?_⟩
  rw [endTest_eq]
  exact hsent.bind (Call.ends_pure _ _)

variable (s spec) in
lemma ends_startClient : ∃ w x asked,
    (s.startClient web.recorded spec).Ends p x (w, p.2 ++ asked) ∧
      ((∃ c, x = .ok c ∧ Stay s spec (some c) asked) ∨
        ∃ fault, x = .error fault ∧ Visit s spec asked) := by
  obtain ⟨opened, w, test, asksTest, isOpened, htest⟩ :=
    answers.ends_fetch (s.testRequest spec) p readId
  rw [← startTest_eq] at htest
  rcases test with fault | test
  · refine ⟨w, _, _, htest.bind (Call.ends_pure _ _), Or.inr ⟨fault, rfl, ?_⟩⟩
    exact .unopened asksTest isOpened
  obtain ⟨started, w, node, asksNode, isStarted, hnode⟩ :=
    answers.ends_fetch (s.nodeRequest spec test) (w, p.2 ++ [opened]) readNode
  rw [← startNode_eq, List.append_assoc] at hnode
  rcases node with fault | ⟨node, address⟩
  · obtain ⟨closed, w, x, ends, hend⟩ := ends_endTest (s := s) answers
      (w, p.2 ++ [opened, started]) test false fault.message
    rw [List.append_assoc] at hend
    refine ⟨w, _, _, htest.bind (hnode.bind (hend.bind (Call.ends_pure _ _))),
      Or.inr ⟨fault, rfl, ?_⟩⟩
    exact .unstarted asksTest isOpened asksNode isStarted ends
  · refine ⟨w, _, _, htest.bind (hnode.bind (Call.ends_pure _ _)), Or.inl ⟨_, rfl, ?_⟩⟩
    exact .attended ⟨asksTest, isOpened, asksNode, address, isStarted⟩ rfl

lemma Stay.ends_stopClient {c : Client} {before : List Exchange}
    (h : Stay s spec (some c) before) : ∃ w x asked,
    (s.stopClient web.recorded c).Ends p x (w, p.2 ++ asked) ∧ Visit s spec (before ++ asked) := by
  cases h with | attended opening _ =>
  obtain ⟨released, w, body, stops, isStopped, hstop⟩ :=
    answers.ends_send (s.stopRequest c.test c.node) p
  rw [stopClient_eq]
  rcases body with fault | body
  · exact ⟨w, _, _, hstop.bind (Call.ends_pure _ _), .unreleased opening stops isStopped⟩
  · obtain ⟨closed, w, x, ends, hend⟩ := ends_endTest (s := s) answers
      (w, p.2 ++ [released]) c.test true stoppedNote
    rw [List.append_assoc] at hend
    exact ⟨w, x, _, hstop.bind hend, .stopped opening stops isStopped ends⟩

end Ends

end Hive.Suite

end ChainConformance
