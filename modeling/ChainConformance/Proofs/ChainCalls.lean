import ChainConformance.Proofs.BlockSimulation
import ChainConformance.Transition.Chain

/-!
# Calls of computed chains

A call of a chain asks the tool at most once, and what it does to the chain follows from the
answer. With a transition tool that always answers, and always alike, the calls are functions of
the chain. How long they take and what becomes of the tool makes no difference to them.
-/

namespace ChainConformance

variable {ω α β : Type}

/-- A tool that answers everything it is asked, and always as the given function does. -/
def TransitionTool.Answers (tool : TransitionTool ω)
    (execute : TransitionInput → TransitionOptions → FaultOr TransitionOutput) : Prop :=
  ∀ input options limit w, (tool input options limit w).answer = some (execute input options)

namespace TransitionChain

/-- A call that is made on a chain is answered in the given way and leaves the given chain,
whatever time it has. -/
def Yields (c : Call (TransitionChain × ω) α) (before : TransitionChain) (a : α)
    (after : TransitionChain) : Prop :=
  ∀ limit w, (c limit (before, w)).answer = some a ∧ (c limit (before, w)).state.1 = after

section Yields

variable {before between after : TransitionChain}

lemma yields_pure (a : α) : Yields (pure a : Call (TransitionChain × ω) α) before a before :=
  fun _ _ => ⟨rfl, rfl⟩

lemma yields_revise (act : TransitionChain → α × TransitionChain) :
    Yields (revise act : Call (TransitionChain × ω) α) before (act before).1 (act before).2 :=
  fun _ _ => ⟨rfl, rfl⟩

lemma yields_bind {c : Call (TransitionChain × ω) α} {next : α → Call (TransitionChain × ω) β}
    {a : α} {b : β} (h : Yields c before a between) (hnext : Yields (next a) between b after) :
    Yields (c >>= next) before b after := by
  intro limit w
  obtain ⟨hanswer, hstate⟩ := h limit w
  have hrest := hnext (limit.map (· - (c limit (before, w)).elapsed))
    (c limit (before, w)).state.2
  rw [← hstate] at hrest
  rw [Call.bind_answered hanswer]
  exact hrest

lemma Yields.alike {ω' : Type} {c : Call (TransitionChain × ω) α}
    {d : Call (TransitionChain × ω') α} {a : α} {s : TransitionChain × ω}
    {t : TransitionChain × ω'} {after' : TransitionChain} (h : Yields c s.1 a after)
    (h' : Yields d t.1 a after')
    {R : α → TransitionChain × ω → TransitionChain × ω' → Prop}
    (hR : ∀ w w', R a (after, w) (after', w')) : c.Alike d R s t := by
  refine ⟨a, fun limit limit' => ?_⟩
  obtain ⟨hanswer, hstate⟩ := h limit s.2
  obtain ⟨hanswer', hstate'⟩ := h' limit' t.2
  have hrelated := hR (c limit s).state.2 (d limit' t).state.2
  rw [← hstate, ← hstate'] at hrelated
  exact ⟨hanswer, hanswer', hrelated⟩

end Yields

section Judgements

variable {c : TransitionChain} {h : Header} {r : TransitionResult} {outcome : BlockOutcome}

lemma parentFor_eq_ok {parent : StoredBlock} :
    c.parentFor h = .ok parent ↔ c.blocks.get? h.parentHash = some parent ∧
      h.number = parent.header.number + 1 ∧ parent.header.timestamp < h.timestamp := by
  unfold parentFor
  cases c.blocks.get? h.parentHash with
  | none => simp
  | some p =>
    simp only [Option.some.injEq, ← BitVec.not_le]
    split
    next hnumber => grind
    next hnumber => split <;> grind

lemma parentFor_rejects (hparent : c.parentFor h = .error outcome) :
    ∃ message tag, outcome = .rejected message tag := by
  unfold parentFor at hparent
  split at hparent
  · cases hparent
    exact ⟨_, _, rfl⟩
  · split at hparent
    · cases hparent
      exact ⟨_, _, rfl⟩
    · split at hparent <;> cases hparent
      exact ⟨_, _, rfl⟩

lemma refusal?_eq_none_iff : refusal? h r = none ↔ r.rejected = [] ∧
    r.gasUsed = h.gasUsed.saturated ∧ r.receiptsRoot = h.receiptsRoot ∧
    r.stateRoot = h.stateRoot := by
  unfold refusal?
  cases r.rejected with
  | cons tx rest => simp
  | nil => grind

lemma refusal?_rejects (hrefusal : refusal? h r = some outcome) :
    ∃ message, outcome = .rejected message none := by
  unfold refusal? at hrefusal
  split at hrefusal
  · cases hrefusal
    exact ⟨_, rfl⟩
  · split at hrefusal
    · cases hrefusal
      exact ⟨_, rfl⟩
    · split at hrefusal
      · cases hrefusal
        exact ⟨_, rfl⟩
      · split at hrefusal <;> cases hrefusal
        exact ⟨_, rfl⟩

lemma conclude_cases (b : Block) (output : FaultOr TransitionOutput) :
    (∃ answer, (∀ c, conclude b output c = (answer, c)) ∧
      ∀ head stateRoot, answer ≠ .ok (.accepted head stateRoot)) ∨
    ∃ out, output = .ok out ∧ refusal? b.header out.result = none ∧ ∀ c, conclude b output c =
      (.ok (.accepted b.head b.header.stateRoot), c.extended b out.alloc) := by
  unfold conclude
  cases output with
  | error e =>
    refine .inl ?_
    cases e <;> exact ⟨_, fun _ => rfl, nofun⟩
  | ok out =>
    cases hrefusal : refusal? b.header out.result with
    | none =>
      simp only [hrefusal]
      exact .inr ⟨out, rfl, hrefusal, fun _ => rfl⟩
    | some outcome =>
      simp only [hrefusal]
      obtain ⟨message, rfl⟩ := refusal?_rejects hrefusal
      exact .inl ⟨_, fun _ => rfl, nofun⟩

end Judgements

/-- What becomes of a call that asks the tool and goes by its answer. Nothing is done to the
chain if the tool is cut short. -/
def upon (asked : Attempt ω (FaultOr TransitionOutput))
    (act : FaultOr TransitionOutput → TransitionChain → α × TransitionChain)
    (c : TransitionChain) : Attempt (TransitionChain × ω) α :=
  ⟨asked.answer.map fun output => (act output c).1, asked.elapsed,
    asked.answer.elim c fun output => (act output c).2, asked.state⟩

/-- Judges what the tool finds for a state to start from, and starts the chain from it. -/
def commence (fork : Fork) (pre : Alloc) (genesis : Header) (output : FaultOr TransitionOutput)
    (c : TransitionChain) : FaultOr Genesis × TransitionChain :=
  match output with
  | .error e => (.error e, c)
  | .ok output => (.ok ⟨output.result.stateRoot, genesis.hash⟩, ofGenesis fork pre genesis)

lemma ask_revise (tool : TransitionTool ω) (input : TransitionInput)
    (options : TransitionOptions)
    (act : FaultOr TransitionOutput → TransitionChain → α × TransitionChain)
    (limit : Option Nat) (c : TransitionChain) (w : ω) :
    ((tool input options).onSecond >>= fun output => revise (act output)) limit (c, w) =
      upon (tool input options limit w) act c := by
  have hanswer : ((tool input options).onSecond limit (c, w)).answer =
      (tool input options limit w).answer := rfl
  unfold upon
  cases h : (tool input options limit w).answer with
  | none =>
    rw [Call.bind_cut (hanswer.trans h)]
    rfl
  | some output =>
    rw [Call.bind_answered (hanswer.trans h)]
    rfl

lemma apply_eq (tool : TransitionTool ω) (chainId : Word) (b : Block) (limit : Option Nat)
    (c : TransitionChain) (w : ω) :
    apply tool chainId b limit (c, w) = match c.parentFor b.header with
      | .error outcome => ⟨some (.ok outcome), 0, c, w⟩
      | .ok parent =>
        upon (tool (c.task chainId b parent).1 (c.task chainId b parent).2 limit w)
          (conclude b) c := by
  have hlook : ((Call.look : Call (TransitionChain × ω) _) limit (c, w)).answer =
      some (c, w) := rfl
  unfold apply
  rw [Call.bind_answered hlook]
  cases hparent : c.parentFor b.header with
  | error outcome => rfl
  | ok parent =>
    have hlimit : limit.map (· - ((Call.look : Call (TransitionChain × ω) _) limit
        (c, w)).elapsed) = limit := by
      cases limit <;> rfl
    simp only [hlimit]
    rw [← ask_revise]
    exact congrArg (Attempt.mk _ · _) (Nat.zero_add _)

section Apply

variable {tool : TransitionTool ω} {chainId : Word} {limit : Option Nat} {c : TransitionChain}
  {w : ω} {b : Block}

/-- The block may follow its parent, the tool executes it in time, and the chain has nothing
against what the tool reports. -/
structure Imports (tool : TransitionTool ω) (chainId : Word) (limit : Option Nat)
    (c : TransitionChain) (w : ω) (b : Block) (parent : StoredBlock)
    (output : TransitionOutput) : Prop where
  follows : c.parentFor b.header = .ok parent
  ran : (tool (c.task chainId b parent).1 (c.task chainId b parent).2 limit w).answer =
    some (.ok output)
  agrees : refusal? b.header output.result = none

lemma Imports.accepted {parent : StoredBlock} {output : TransitionOutput}
    (h : Imports tool chainId limit c w b parent output) :
    (apply tool chainId b limit (c, w)).answer =
      some (.ok (.accepted b.head b.header.stateRoot)) ∧
    (apply tool chainId b limit (c, w)).state.1 = c.extended b output.alloc := by
  rw [apply_eq, h.follows]
  simp only [upon, h.ran, Option.map_some, Option.elim_some, conclude, h.agrees, and_self]

variable (tool chainId limit c w b) in
lemma apply_cases : (∃ parent output, Imports tool chainId limit c w b parent output) ∨
    (∀ head stateRoot, (apply tool chainId b limit (c, w)).answer ≠
      some (.ok (.accepted head stateRoot))) ∧
    (apply tool chainId b limit (c, w)).state.1 = c := by
  rw [apply_eq]
  cases hparent : c.parentFor b.header with
  | error outcome =>
    obtain ⟨message, tag, rfl⟩ := parentFor_rejects hparent
    exact .inr ⟨nofun, rfl⟩
  | ok parent =>
    simp only
    generalize hasked : tool (c.task chainId b parent).1 (c.task chainId b parent).2 limit w = asked
    rcases asked with ⟨_ | output, elapsed, left⟩
    · exact .inr ⟨nofun, rfl⟩
    · rcases conclude_cases b output with ⟨answer, hanswer, hnot⟩ | ⟨out, rfl, hrefusal, -⟩
      · refine .inr ⟨fun head stateRoot h => hnot head stateRoot ?_, congrArg Prod.snd (hanswer c)⟩
        exact (congrArg Prod.fst (hanswer c)).symm.trans (Option.some.inj h)
      · exact .inl ⟨parent, out, hparent, by rw [hasked], hrefusal⟩

end Apply

lemma stateRoot_eq (tool : TransitionTool ω) (chainId : Word) (pre : Alloc)
    (limit : Option Nat) (c : TransitionChain) (w : ω) :
    (Transition.stateRoot tool pre chainId).onSecond limit (c, w) =
      upon (tool (Transition.idleInput pre) ⟨.frontier, chainId, none⟩ limit w)
        (fun output c => (output.map (·.result.stateRoot), c)) c := by
  unfold Call.onSecond Call.inside Transition.stateRoot upon
  cases h : (tool (Transition.idleInput pre) ⟨.frontier, chainId, none⟩ limit w).answer with
  | none => rw [Call.bind_cut h]; rfl
  | some output => rw [Call.bind_answered h]; rfl

lemma start_eq (tool : TransitionTool ω) (chainId : Word) (fork : Fork) (pre : Alloc)
    (genesis : Header) (limit : Option Nat) (c : TransitionChain) (w : ω) :
    start tool chainId fork pre genesis limit (c, w) =
      upon (tool (Transition.idleInput pre) ⟨.frontier, chainId, none⟩ limit w)
        (commence fork pre genesis) c := by
  have hroot := stateRoot_eq tool chainId pre limit c w
  unfold start
  generalize tool (Transition.idleInput pre) ⟨.frontier, chainId, none⟩ limit w = asked at hroot ⊢
  rcases asked with ⟨_ | e | output, elapsed, left⟩
  · rw [Call.bind_cut (by rw [hroot]; rfl), hroot]
    rfl
  · rw [Call.bind_answered (by rw [hroot]; rfl), hroot]
    rfl
  · rw [Call.bind_answered (by rw [hroot]; rfl), hroot]
    rfl

variable {tool : TransitionTool ω}
  {execute : TransitionInput → TransitionOptions → FaultOr TransitionOutput}

def startOn (execute : TransitionInput → TransitionOptions → FaultOr TransitionOutput)
    (chainId : Word) (fork : Fork) (pre : Alloc) (genesis : Header) (c : TransitionChain) :
    FaultOr Genesis × TransitionChain :=
  match execute (Transition.idleInput pre) ⟨.frontier, chainId, none⟩ with
  | .error e => (.error e, c)
  | .ok output => (.ok ⟨output.result.stateRoot, genesis.hash⟩, ofGenesis fork pre genesis)

def applyOn (execute : TransitionInput → TransitionOptions → FaultOr TransitionOutput)
    (chainId : Word) (b : Block) (c : TransitionChain) :
    FaultOr BlockOutcome × TransitionChain :=
  match c.parentFor b.header with
  | .error outcome => (.ok outcome, c)
  | .ok parent =>
    conclude b (execute (c.task chainId b parent).1 (c.task chainId b parent).2) c

lemma yields_start (h : tool.Answers execute) (chainId : Word) (fork : Fork) (pre : Alloc)
    (genesis : Header) (c : TransitionChain) :
    Yields (start tool chainId fork pre genesis) c
      (startOn execute chainId fork pre genesis c).1
      (startOn execute chainId fork pre genesis c).2 := by
  intro limit w
  rw [start_eq, upon, h]
  exact ⟨rfl, rfl⟩

lemma yields_apply (h : tool.Answers execute) (chainId : Word) (b : Block)
    (c : TransitionChain) :
    Yields (apply tool chainId b) c (applyOn execute chainId b c).1
      (applyOn execute chainId b c).2 := by
  intro limit w
  rw [apply_eq]
  unfold applyOn
  cases c.parentFor b.header with
  | error outcome => exact ⟨rfl, rfl⟩
  | ok parent =>
    simp only [upon, h _ _ limit w]
    exact ⟨rfl, rfl⟩

end TransitionChain

end ChainConformance
