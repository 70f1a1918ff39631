import ChainConformance.Proofs.ChainStore

/-!
# Calls that fail

A chain is left as it is by a call that fails, whether the tool has been asked by then or not.
All later calls are answered as if the failed one had not been made, unless the tool has been
asked and answers otherwise for that.
-/

namespace ChainConformance

variable {ω : Type}

namespace TransitionTool

variable (tool : TransitionTool ω)

/-- What the tool answers to questions, one after another, each with a limit to its time. -/
def answers : List (TransitionInput × TransitionOptions × Option Nat) → ω →
    List (Option (FaultOr TransitionOutput))
  | [], _ => []
  | (input, options, limit) :: questions, w =>
    (tool input options limit w).answer :: answers questions (tool input options limit w).state

/-- No questions tell the two states apart. -/
def Indistinct (w w' : ω) : Prop :=
  ∀ questions, tool.answers questions w = tool.answers questions w'

variable {tool}

lemma Indistinct.refl (w : ω) : tool.Indistinct w w := fun _ => rfl

lemma Indistinct.ask {w w' : ω} (h : tool.Indistinct w w') (input : TransitionInput)
    (options : TransitionOptions) (limit : Option Nat) :
    (tool input options limit w).answer = (tool input options limit w').answer ∧
    tool.Indistinct (tool input options limit w).state (tool input options limit w').state :=
  ⟨(List.cons.inj (h [(input, options, limit)])).1,
    fun questions => (List.cons.inj (h ((input, options, limit) :: questions))).2⟩

lemma indistinct_of_answer_eq (h : ∀ input options limit w w',
    (tool input options limit w).answer = (tool input options limit w').answer) (w w' : ω) :
    tool.Indistinct w w' := by
  intro questions
  induction questions generalizing w w' with
  | nil => rfl
  | cons question questions ih =>
    obtain ⟨input, options, limit⟩ := question
    exact List.cons_eq_cons.mpr ⟨h input options limit w w', ih _ _⟩

end TransitionTool

/-- What is answered to a call on a chain, unless it is cut short. -/
inductive ChainAnswer where
  | started (answer : Option (FaultOr Genesis))
  | judged (answer : Option (FaultOr BlockOutcome))
  | held (answer : Option (FaultOr Alloc))
  | moved (answer : Option (FaultOr Unit))

namespace ChainCall

section Answers

variable {σ : Type} (target : BlockTarget σ)

def answer (limit : Option Nat) (s : σ) : ChainCall → ChainAnswer
  | start fork pre genesis => .started (target.start fork pre genesis limit s).answer
  | apply raw b _ => .judged (target.apply b raw limit s).answer
  | readState hint => .held (target.readState hint limit s).answer
  | resetTo hash => .moved (target.resetTo hash limit s).answer

/-- What is answered to calls, one after another, each with a limit to its time. -/
def answers : List (Option Nat × ChainCall) → σ → List ChainAnswer
  | [], _ => []
  | (limit, call) :: calls, s =>
    call.answer target limit s :: answers calls (call.after target limit s)

end Answers

/-- The tool has to be asked for the call. -/
def Asks (c : TransitionChain) : ChainCall → Prop
  | start .. => True
  | apply _ b _ => ∃ parent, c.parentFor b.header = .ok parent
  | readState _ => False
  | resetTo _ => False

/-- The call fails: the tool fails or is cut short when the chain is to be started, a block is
not accepted, whatever the reason, or there is no block to go back to. -/
def Fails (tool : TransitionTool ω) (chainId : Word) (limit : Option Nat)
    (s : TransitionChain × ω) : ChainCall → Prop
  | start _ pre _ => ∀ output,
    (tool (Transition.idleInput pre) ⟨.frontier, chainId, none⟩ limit s.2).answer ≠
      some (.ok output)
  | apply raw b _ => ∀ head stateRoot,
    ((TransitionChain.target tool chainId).apply b raw limit s).answer ≠
      some (.ok (.accepted head stateRoot))
  | readState _ => False
  | resetTo hash => s.1.blocks.get? hash = none

end ChainCall

namespace TransitionChain

variable {tool : TransitionTool ω} {chainId : Word} {limit : Option Nat} {c : TransitionChain}
  {w w' : ω} {call : ChainCall}

lemma chain_after_failed {s : TransitionChain × ω} (h : call.Fails tool chainId limit s) :
    (call.after (target tool chainId) limit s).1 = s.1 := by
  obtain ⟨c, w⟩ := s
  cases call with
  | start fork pre genesis =>
    change (start tool chainId fork pre genesis limit (c, w)).state.1 = c
    rw [start_eq]
    unfold upon
    cases hanswer : (tool (Transition.idleInput pre) ⟨.frontier, chainId, none⟩ limit w).answer with
    | none => rfl
    | some found =>
      cases found with
      | error e => rfl
      | ok output => exact absurd hanswer (h output)
  | apply raw b decoded =>
    rcases apply_cases tool chainId limit c w b with ⟨parent, output, himports⟩ | ⟨-, hsame⟩
    · exact absurd himports.accepted.1 (h _ _)
    · exact hsame
  | readState hint => exact h.elim
  | resetTo hash =>
    change (resetTo hash c).2 = c
    unfold resetTo
    split
    next hheld =>
      obtain ⟨stored, hstored⟩ := OrderedMap.contains_iff.mp hheld
      rw [show c.blocks.get? hash = none from h] at hstored
      cases hstored
    next => rfl

/-- A call for which the tool is not asked leaves it as it is. -/
lemma tool_after_unasked (h : ¬call.Asks c) :
    (call.after (target tool chainId) limit (c, w)).2 = w := by
  cases call with
  | start fork pre genesis => exact absurd trivial h
  | apply raw b decoded =>
    change (apply tool chainId b limit (c, w)).state.2 = w
    rw [apply_eq]
    cases hparent : c.parentFor b.header with
    | error outcome => rfl
    | ok parent => exact absurd ⟨parent, hparent⟩ h
  | readState hint => rfl
  | resetTo hash => rfl

/-- The same chain, with states of the tool that no questions tell apart. -/
structure Alike (tool : TransitionTool ω) (s s' : TransitionChain × ω) : Prop where
  chain : s.1 = s'.1
  tool : tool.Indistinct s.2 s'.2

/-- The same answer, and states that are alike. -/
structure EndsAlike (tool : TransitionTool ω) {α : Type}
    (a a' : Attempt (TransitionChain × ω) α) : Prop where
  answer : a.answer = a'.answer
  state : Alike tool a.state a'.state

lemma endsAlike_upon {α : Type} (h : tool.Indistinct w w') (input : TransitionInput)
    (options : TransitionOptions) (limit : Option Nat)
    (act : FaultOr TransitionOutput → TransitionChain → α × TransitionChain)
    (c : TransitionChain) : EndsAlike tool (upon (tool input options limit w) act c)
      (upon (tool input options limit w') act c) := by
  obtain ⟨hanswer, hleft⟩ := h.ask input options limit
  refine ⟨congrArg (Option.map _) hanswer, ?_, hleft⟩
  exact congrArg (Option.elim · c fun output => (act output c).2) hanswer

/-- A call is answered alike, and leaves states that are alike again. -/
lemma Alike.step {s s' : TransitionChain × ω} (h : Alike tool s s') (chainId : Word)
    (limit : Option Nat) (call : ChainCall) :
    call.answer (target tool chainId) limit s = call.answer (target tool chainId) limit s' ∧
    Alike tool (call.after (target tool chainId) limit s)
      (call.after (target tool chainId) limit s') := by
  obtain ⟨c, w⟩ := s
  obtain ⟨_, w'⟩ := s'
  obtain ⟨rfl, htool⟩ := h
  cases call with
  | start fork pre genesis =>
    have hends : EndsAlike tool (start tool chainId fork pre genesis limit (c, w))
        (start tool chainId fork pre genesis limit (c, w')) := by
      rw [start_eq, start_eq]
      exact endsAlike_upon htool _ _ _ _ _
    exact ⟨congrArg ChainAnswer.started hends.answer, hends.state⟩
  | apply raw b decoded =>
    have hends : EndsAlike tool (apply tool chainId b limit (c, w))
        (apply tool chainId b limit (c, w')) := by
      rw [apply_eq, apply_eq]
      cases c.parentFor b.header with
      | error outcome => exact ⟨rfl, rfl, htool⟩
      | ok parent => exact endsAlike_upon htool _ _ _ _ _
    exact ⟨congrArg ChainAnswer.judged hends.answer, hends.state⟩
  | readState hint => exact ⟨rfl, rfl, htool⟩
  | resetTo hash => exact ⟨rfl, rfl, htool⟩

/-- All calls are answered alike. -/
lemma Alike.run {s s' : TransitionChain × ω} (h : Alike tool s s') (chainId : Word)
    (calls : List (Option Nat × ChainCall)) :
    ChainCall.answers (target tool chainId) calls s =
      ChainCall.answers (target tool chainId) calls s' := by
  induction calls generalizing s s' with
  | nil => rfl
  | cons timed calls ih =>
    obtain ⟨hanswer, hafter⟩ := h.step chainId timed.1 timed.2
    exact List.cons_eq_cons.mpr ⟨hanswer, ih hafter⟩

/-- A call that fails leaves the blocks, the head and the network as they are. All later calls
are answered as if it had not been made, if the tool has not been asked, or no questions tell
that it has. -/
theorem failed_call_unseen (tool : TransitionTool ω) (chainId : Word) (limit : Option Nat)
    (s : TransitionChain × ω) (call : ChainCall) (hfails : call.Fails tool chainId limit s) :
    (call.after (target tool chainId) limit s).1 = s.1 ∧
    ((call.Asks s.1 → tool.Indistinct (call.after (target tool chainId) limit s).2 s.2) →
      ∀ later, ChainCall.answers (target tool chainId) later
          (call.after (target tool chainId) limit s) =
        ChainCall.answers (target tool chainId) later s) := by
  have hchain := chain_after_failed hfails
  refine ⟨hchain, fun hasked later => ?_⟩
  have htool : tool.Indistinct (call.after (target tool chainId) limit s).2 s.2 := by
    by_cases hasks : call.Asks s.1
    · exact hasked hasks
    · rw [tool_after_unasked hasks]
      exact .refl _
  exact Alike.run ⟨hchain, htool⟩ chainId later

/-- The tool that finds one root for all states, takes ten milliseconds for it, and counts how
often it is asked. -/
def slowTool : TransitionTool Nat := fun input options => do
  Call.change (· + 1)
  Call.wait 10
  return rootless (fun _ => .empty) input options

lemma slowTool_answer (input : TransitionInput) (options : TransitionOptions)
    (limit : Option Nat) (w : Nat) : (slowTool input options limit w).answer =
      if limit.all (10 ≤ ·) then some (rootless (fun _ => .empty) input options) else none := by
  cases limit with
  | none => rfl
  | some most =>
    have hleft : ((slowTool input options (some most) w)).answer =
        ((Call.wait 10 >>= fun _ => pure (rootless (fun _ => .empty) input options) :
          Call Nat _) (some most) (w + 1)).answer := rfl
    rw [hleft, Option.all_some]
    by_cases htime : 10 ≤ most
    · have hwait : (Call.wait 10 (some most) (w + 1)).answer = some () := by
        simp [Call.wait, htime]
      rw [Call.bind_answered hwait, if_pos (decide_eq_true htime)]
      rfl
    · have hwait : (Call.wait 10 (some most) (w + 1)).answer = none := by
        simp [Call.wait, htime]
      rw [Call.bind_cut hwait, if_neg (by simpa using htime)]

lemma slowTool_indistinct (w w' : Nat) : slowTool.Indistinct w w' :=
  TransitionTool.indistinct_of_answer_eq
    (fun input options limit w w' => by rw [slowTool_answer, slowTool_answer]) w w'

lemma slowTool_hurried (input : TransitionInput) (options : TransitionOptions) (w : Nat) :
    slowTool input options (some 5) w = ⟨none, 5, w + 1⟩ := rfl

theorem failed_call_unseen_hurried :
    ChainCall.Fails slowTool 1 (some 5) (started.1, 0) (give [] size_empty) ∧
    ((give [] size_empty).after (target slowTool 1) (some 5) (started.1, 0)).2 = 1 ∧
    ((give [] size_empty).after (target slowTool 1) (some 5) (started.1, 0)).1 = started.1 ∧
    ∀ later, ChainCall.answers (target slowTool 1) later
        ((give [] size_empty).after (target slowTool 1) (some 5) (started.1, 0)) =
      ChainCall.answers (target slowTool 1) later (started.1, 0) := by
  have hparent : started.1.parentFor (secondBlock []).block.header = .ok ⟨default, .empty⟩ :=
    parentFor_eq_ok.mpr ⟨get?_started, by decide, by decide⟩
  have happly : apply slowTool 1 (secondBlock []).block (some 5) (started.1, 0) =
      ⟨none, 5, started.1, 1⟩ := by
    rw [apply_eq, hparent]
    simp only [slowTool_hurried, upon, Option.map_none, Option.elim_none, Nat.zero_add]
  have hfails : ChainCall.Fails slowTool 1 (some 5) (started.1, 0) (give [] size_empty) := by
    intro head stateRoot
    change (apply slowTool 1 (secondBlock []).block (some 5) (started.1, 0)).answer ≠ _
    rw [happly]
    exact (Option.some_ne_none _).symm
  have hasked : ((give [] size_empty).after (target slowTool 1) (some 5) (started.1, 0)).2 = 1 := by
    rw [give, ChainCall.after]
    exact congrArg (·.state.2) happly
  obtain ⟨hchain, hunseen⟩ := failed_call_unseen slowTool 1 (some 5) (started.1, 0) _ hfails
  exact ⟨hfails, hasked, hchain, hunseen fun _ => slowTool_indistinct _ _⟩

end TransitionChain

end ChainConformance
