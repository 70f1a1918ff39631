import ChainConformance.Run.PayloadGroup
import Mathlib.Data.List.Range
import Mathlib.Tactic.Common

/-!
# The clients of a group

What happens to the clients that a group of payload fixtures is run on. Every call that the
run makes is an event of a history that leads from its first moment to its last: a client is
started, a fixture is run on it, its head is chosen in between, and it is stopped. The order
of these events is an invariant of the loop over the fixtures.

The launcher and its clients are arbitrary, so they may well be ones that count the calls made
to them. A call that was left out of a history would be missing from its last moment then.
-/

namespace ChainConformance

/-- What happens to the clients of a group, which are numbered in the order in which they are
started. -/
inductive ClientEvent where
  | started (client : Nat)
  | startFailed
  | ran (client : Nat) (member : Member) (verdict : Verdict) (result : CaseResult)
  | chose (client : Nat) (version : UInt8) (choice : Forkchoice)
      (answer : Guarded (FaultOr PayloadStatus))
  | stopped (client : Nat)

namespace ClientEvent

def isStart : ClientEvent → Bool
  | started _ | startFailed => true
  | _ => false

def started? : ClientEvent → Option Nat
  | started client => some client
  | _ => none

def stopped? : ClientEvent → Option Nat
  | stopped client => some client
  | _ => none

def used? : ClientEvent → Option Nat
  | ran client .. => some client
  | _ => none

def ran? : ClientEvent → Option (Member × CaseResult)
  | ran _ member _ result => some (member, result)
  | _ => none

def choice? : ClientEvent → Option (UInt8 × Forkchoice)
  | chose _ version choice _ => some (version, choice)
  | _ => none

end ClientEvent

open ClientEvent

/-- The launcher at some moment, and all the clients that it has started, as they were left
by the last call to them. -/
structure Fleet (ω σ : Type) where
  moment : Moment ω
  clients : List σ

def aside {ω σ : Type} (m : Moment (ω × σ)) : Moment ω := ⟨m.now, m.state.1⟩

namespace Fleet

variable {ω σ : Type}

/-- The moment with the state of one client beside that of the launcher. -/
def beside (w : Fleet ω σ) (s : σ) : Moment (ω × σ) := ⟨w.moment.now, (w.moment.state, s)⟩

def leaving (w : Fleet ω σ) (client : Nat) (m : Moment (ω × σ)) : Fleet ω σ :=
  ⟨aside m, w.clients.set client m.state.2⟩

variable {w : Fleet ω σ} {client : Nat} {s : σ}

lemma getElem?_leaving (found : w.clients[client]? = some s) (m : Moment (ω × σ)) :
    (w.leaving client m).clients[client]? = some m.state.2 := by
  obtain ⟨hclient, -⟩ := List.getElem?_eq_some_iff.mp found
  exact List.getElem?_set_self hclient

lemma leaving_beside (found : w.clients[client]? = some s) :
    w.leaving client (w.beside s) = w := by
  obtain ⟨hclient, rfl⟩ := List.getElem?_eq_some_iff.mp found
  exact congrArg (mk w.moment) (List.set_getElem_self hclient)

lemma leaving_leaving (w : Fleet ω σ) (client : Nat) (m m' : Moment (ω × σ)) :
    (w.leaving client m).leaving client m' = w.leaving client m' :=
  congrArg (mk (aside m')) (List.set_set _)

end Fleet

namespace PayloadGroup

variable {ω σ : Type} (g : PayloadGroup ω σ)

/-- What each event does to the launcher and the clients. -/
inductive Happens : Fleet ω σ → ClientEvent → Fleet ω σ → Prop
  | started {w : Fleet ω σ} {s : σ} {m : Moment ω}
      (answer : w.moment.unguarded (g.launcher.start g.spec) = (some (.ok s), m)) :
      Happens w (.started w.clients.length) ⟨m, w.clients ++ [s]⟩
  | startFailed {w : Fleet ω σ} {answer : Option (FaultOr σ)} {m : Moment ω}
      (answered : w.moment.unguarded (g.launcher.start g.spec) = (answer, m))
      (failed : ∀ s, answer ≠ some (.ok s)) : Happens w .startFailed ⟨m, w.clients⟩
  | ran {w : Fleet ω σ} {client : Nat} {s : σ} {member : Member} {verdict : Verdict}
      {result : CaseResult} {m : Moment (ω × σ)} (found : w.clients[client]? = some s)
      (run : g.runMember member (w.beside s) = ((verdict, result), m)) :
      Happens w (.ran client member verdict result) (w.leaving client m)
  | chose {w : Fleet ω σ} {client : Nat} {s : σ} {version : UInt8} {choice : Forkchoice}
      {answer : Guarded (FaultOr PayloadStatus)} {m : Moment (ω × σ)}
      (found : w.clients[client]? = some s)
      (answered : (w.beside s).within g.terms.callTimeout
        (g.launcher.client.chooseHead version choice) = (answer, m)) :
      Happens w (.chose client version choice answer) (w.leaving client m)
  | stopped {w : Fleet ω σ} {client : Nat} {s : σ} {answer : Option (FaultOr Unit)}
      {m : Moment ω} (found : w.clients[client]? = some s)
      (answered : w.moment.unguarded (g.launcher.stop s) = (answer, m)) :
      Happens w (.stopped client) ⟨m, w.clients⟩

/-- The events from a moment without clients on, one after another. -/
inductive History (m₀ : Moment ω) : List ClientEvent → Fleet ω σ → Prop
  | nil : History m₀ [] ⟨m₀, []⟩
  | snoc {events : List ClientEvent} {w w' : Fleet ω σ} {e : ClientEvent}
      (before : History m₀ events w) (last : g.Happens w e w') :
      History m₀ (events ++ [e]) w'

/-- A choice of a head that sets a client back. -/
def IsReset (choice : UInt8 × Forkchoice) : Prop :=
  g.resetVersion = some choice.1 ∧ choice.2 = { head := g.genesisHash }

end PayloadGroup

/-- A property of every event and of those before it. -/
def Always (P : List ClientEvent → ClientEvent → Prop) (events : List ClientEvent) : Prop :=
  ∀ before e after, events = before ++ e :: after → P before e

lemma always_nil {P : List ClientEvent → ClientEvent → Prop} : Always P [] := by
  intro before e after h
  simp at h

lemma always_concat {P : List ClientEvent → ClientEvent → Prop} {events : List ClientEvent}
    {e : ClientEvent} : Always P (events ++ [e]) ↔ Always P events ∧ P events e := by
  constructor
  · intro h
    refine ⟨fun before e' after hsplit => h before e' (after ++ [e]) ?_, h events e [] rfl⟩
    rw [hsplit, List.append_assoc, List.cons_append]
  · rintro ⟨hevents, he⟩ before e' after hsplit
    rcases List.eq_nil_or_concat after with rfl | ⟨after', last, rfl⟩
    · obtain ⟨rfl, hlast⟩ := List.append_inj' hsplit rfl
      cases hlast
      exact he
    · rw [List.concat_eq_append, ← List.cons_append, ← List.append_assoc] at hsplit
      obtain ⟨hinit, -⟩ := List.append_inj' hsplit rfl
      exact hevents before e' after' hinit

/-- A client may be used if it is used for the first time, or if the last thing that happened
is that it was set back to the genesis block with a valid answer and no fixture has ended on
it with a failure after which it cannot be trusted. -/
def Ready (genesis : Hash) (before : List ClientEvent) (client : Nat) : Prop :=
  client ∈ before.filterMap used? →
    (∃ earlier version status, status.verdict = .valid ∧
      before = earlier ++ [.chose client version { head := genesis } (.done (.ok status))]) ∧
    ∀ member failure result, .ran client member (.fail failure) result ∈ before →
      failure.kind ≠ .timeout ∧ failure.kind ≠ .clientFault

/-- None is to be started before those started earlier are stopped, and each is ready whenever
a fixture is run on it. -/
structure Paced (genesis : Hash) (events : List ClientEvent) : Prop where
  oneAtATime : Always (fun before e => e.isStart →
    ∀ client ∈ before.filterMap started?, client ∈ before.filterMap stopped?) events
  ready : Always (fun before e => ∀ client ∈ e.used?, Ready genesis before client) events

/-- The order in which things happen to the clients of a group. Each client that was started
is stopped once, and no other. -/
structure Orderly (genesis : Hash) (events : List ClientEvent) : Prop
    extends Paced genesis events where
  stoppedOnce : ∀ client, (events.filterMap stopped?).count client =
    if client ∈ events.filterMap started? then 1 else 0

lemma Paced.nil {genesis : Hash} : Paced genesis [] := ⟨always_nil, always_nil⟩

lemma Paced.snoc {genesis : Hash} {events : List ClientEvent} {e : ClientEvent}
    (h : Paced genesis events) (free : e.isStart →
      ∀ client ∈ events.filterMap started?, client ∈ events.filterMap stopped?)
    (hready : ∀ client ∈ e.used?, Ready genesis events client) :
    Paced genesis (events ++ [e]) where
  oneAtATime := always_concat.mpr ⟨h.oneAtATime, free⟩
  ready := always_concat.mpr ⟨h.ready, hready⟩

lemma filterMap_concat {α : Type} (f : ClientEvent → Option α) (events : List ClientEvent)
    (e : ClientEvent) : (events ++ [e]).filterMap f = events.filterMap f ++ (f e).toList := by
  rw [List.filterMap_append]
  cases h : f e <;> simp [h]

/-! ### Custody -/

namespace PayloadGroup

variable {ω σ : Type} {g : PayloadGroup ω σ} {m₀ : Moment ω}

/-- What holds whenever the loop over the fixtures goes on: `gone` are the clients that have
been stopped, and `live` is the one that is still to be, if any. -/
structure Custody (g : PayloadGroup ω σ) (m₀ : Moment ω) (events : List ClientEvent)
    (gone : List σ) (live : Option σ) (m : Moment ω) : Prop where
  history : g.History m₀ events ⟨m, gone ++ live.toList⟩
  started : events.filterMap started? = List.range (gone.length + live.toList.length)
  stopped : events.filterMap stopped? = List.range gone.length
  used : ∀ client ∈ events.filterMap used?, client < gone.length + live.toList.length
  resets : ∀ choice ∈ events.filterMap choice?, g.IsReset choice
  paced : Paced g.genesisHash events

namespace Custody

variable {events : List ClientEvent} {gone : List σ} {live : Option σ} {s : σ}
  {m m' : Moment ω}

lemma nil : Custody g m₀ [] [] none m₀ where
  history := .nil
  started := rfl
  stopped := rfl
  used := nofun
  resets := nofun
  paced := .nil

lemma all_stopped (h : Custody g m₀ events gone none m) :
    ∀ client ∈ events.filterMap started?, client ∈ events.filterMap stopped? := by
  intro client hstarted
  rw [h.started] at hstarted
  rw [h.stopped]
  exact hstarted

/-- An event keeps custody if a client is only to be started while there is none, gets the
next number, and is ready if a fixture is run on it, and if it is the live one that is
stopped. -/
lemma snoc (h : Custody g m₀ events gone live m) {e : ClientEvent} {gone' : List σ}
    {live' : Option σ}
    (last : g.Happens ⟨m, gone ++ live.toList⟩ e ⟨m', gone' ++ live'.toList⟩)
    (free : e.isStart → live = none)
    (hready : ∀ client ∈ e.used?,
      client < gone'.length + live'.toList.length ∧ Ready g.genesisHash events client)
    (resets : ∀ choice ∈ e.choice?, g.IsReset choice)
    (started : List.range (gone.length + live.toList.length) ++ e.started?.toList =
      List.range (gone'.length + live'.toList.length))
    (stopped : List.range gone.length ++ e.stopped?.toList = List.range gone'.length) :
    Custody g m₀ (events ++ [e]) gone' live' m' where
  history := h.history.snoc last
  started := by rw [filterMap_concat, h.started, started]
  stopped := by rw [filterMap_concat, h.stopped, stopped]
  used := by
    intro client hused
    rw [filterMap_concat, List.mem_append, Option.mem_toList] at hused
    rcases hused with hbefore | hlast
    · have hlength := congrArg List.length started
      rw [List.length_append, List.length_range, List.length_range] at hlength
      exact lt_of_lt_of_le (h.used client hbefore) (by omega)
    · exact (hready client hlast).1
  resets := by
    intro choice hchoice
    rw [filterMap_concat, List.mem_append, Option.mem_toList] at hchoice
    exact hchoice.elim (h.resets choice) (resets choice)
  paced := by
    refine h.paced.snoc (fun hstart => ?_) fun client hclient => (hready client hclient).2
    obtain rfl := free hstart
    exact h.all_stopped

lemma start (h : Custody g m₀ events gone none m)
    (answer : m.unguarded (g.launcher.start g.spec) = (some (.ok s), m')) :
    Custody g m₀ (events ++ [.started gone.length]) gone (some s) m' := by
  have hlast := Happens.started (w := ⟨m, gone ++ Option.toList none⟩) answer
  rw [Option.toList_none, List.append_nil] at hlast
  refine h.snoc ?_ (fun _ => rfl) nofun nofun List.range_succ.symm (List.append_nil _)
  rw [Option.toList_none, List.append_nil]
  exact hlast

lemma startFailed (h : Custody g m₀ events gone none m) {answer : Option (FaultOr σ)}
    (answered : m.unguarded (g.launcher.start g.spec) = (answer, m'))
    (failed : ∀ s, answer ≠ some (.ok s)) :
    Custody g m₀ (events ++ [.startFailed]) gone none m' :=
  h.snoc (.startFailed answered failed) (fun _ => rfl) nofun nofun (List.append_nil _)
    (List.append_nil _)

lemma getElem?_live : (gone ++ [s])[gone.length]? = some s := by simp

lemma leaving_live (after : Moment (ω × σ)) :
    (⟨m, gone ++ [s]⟩ : Fleet ω σ).leaving gone.length after =
      ⟨aside after, gone ++ [after.state.2]⟩ := by
  simp [Fleet.leaving, aside]

lemma ran (h : Custody g m₀ events gone (some s) m)
    (hready : Ready g.genesisHash events gone.length) {member : Member} {verdict : Verdict}
    {result : CaseResult} {after : Moment (ω × σ)}
    (answered : g.runMember member ⟨m.now, (m.state, s)⟩ = ((verdict, result), after)) :
    Custody g m₀ (events ++ [.ran gone.length member verdict result]) gone
      (some after.state.2) (aside after) := by
  have hlast := Happens.ran (w := ⟨m, gone ++ [s]⟩) getElem?_live answered
  rw [leaving_live] at hlast
  refine h.snoc hlast nofun ?_ nofun (List.append_nil _) (List.append_nil _)
  rintro _ ⟨⟩
  exact ⟨Nat.lt_succ_self _, hready⟩

lemma chose (h : Custody g m₀ events gone (some s) m) {version : UInt8} {choice : Forkchoice}
    (isReset : g.IsReset (version, choice)) {answer : Guarded (FaultOr PayloadStatus)}
    {after : Moment (ω × σ)}
    (answered : (⟨m.now, (m.state, s)⟩ : Moment (ω × σ)).within g.terms.callTimeout
      (g.launcher.client.chooseHead version choice) = (answer, after)) :
    Custody g m₀ (events ++ [.chose gone.length version choice answer]) gone
      (some after.state.2) (aside after) := by
  have hlast := Happens.chose (w := ⟨m, gone ++ [s]⟩) getElem?_live answered
  rw [leaving_live] at hlast
  refine h.snoc hlast nofun nofun ?_ (List.append_nil _) (List.append_nil _)
  rintro _ ⟨⟩
  exact isReset

lemma stop (h : Custody g m₀ events gone (some s) m) :
    Custody g m₀ (events ++ [.stopped gone.length]) (gone ++ [s]) none
      ((g.stop s).run m).2 := by
  have hlast : g.Happens ⟨m, gone ++ [s]⟩ (.stopped gone.length)
      ⟨((g.stop s).run m).2, gone ++ [s]⟩ := .stopped getElem?_live rfl
  refine h.snoc ?_ nofun nofun nofun ?_ ?_
  · rw [Option.toList_none, List.append_nil]
    exact hlast
  · rw [List.length_append]
    exact List.append_nil _
  · rw [List.length_append]
    exact List.range_succ.symm

lemma orderly (h : Custody g m₀ events gone none m) : Orderly g.genesisHash events where
  toPaced := h.paced
  stoppedOnce := by
    intro client
    rw [h.started, h.stopped]
    exact List.nodup_range.count

end Custody

lemma run_start (m : Moment ω) : g.start.run m =
    match m.unguarded (g.launcher.start g.spec) with
    | (some (.ok s), m') => (some s, m')
    | (_, m') => (none, m') := by
  have hwait : (wait (g.launcher.start g.spec)).run m =
      m.unguarded (g.launcher.start g.spec) := rfl
  unfold start
  rw [StateT.run_bind, hwait]
  rcases m.unguarded (g.launcher.start g.spec) with ⟨_ | _ | s, m'⟩ <;> rfl

lemma run_withClient {α : Type} (s : σ) (act : Moment (ω × σ) → α × Moment (ω × σ))
    (m : Moment ω) : (withClient s act).run m =
      (((act ⟨m.now, (m.state, s)⟩).1, (act ⟨m.now, (m.state, s)⟩).2.state.2),
        aside (act ⟨m.now, (m.state, s)⟩).2) := rfl

/-- The loop after a fixture that is not the last, once the client has been set back or
not. -/
def goOn (g : PayloadGroup ω σ) (result : CaseResult) (rest : List Member)
    (back : Bool × σ) : StateM (Moment ω) (List CaseResult × Option σ) := do
  if isCancelled g.terms.cancelAt (← get).now then
    return (result :: rest.map Member.cancelled, some back.2)
  let client ← if back.1 then pure (some back.2) else do
    g.stop back.2
    g.start
  let (results, last) ← g.runFrom rest client
  return (result :: results, last)

section Loop

variable {member : Member} {rest : List Member} {s : σ} {m : Moment ω} {verdict : Verdict}
  {result : CaseResult} {after left : Moment (ω × σ)} {isReset : Bool}

lemma run_runFrom_last
    (ran : g.runMember member ⟨m.now, (m.state, s)⟩ = ((verdict, result), after)) :
    (g.runFrom [member] (some s)).run m = (([result], some after.state.2), aside after) := by
  rw [runFrom, StateT.run_bind, run_withClient, ran]
  rfl

lemma run_runFrom_cons (hrest : rest ≠ [])
    (ran : g.runMember member ⟨m.now, (m.state, s)⟩ = ((verdict, result), after))
    (back : (if verdict.poisonsClient then (false, after) else g.reset after) =
      (isReset, left)) :
    (g.runFrom (member :: rest) (some s)).run m =
      (g.goOn result rest (isReset, left.state.2)).run (aside left) := by
  have hmore : rest.isEmpty = false := by simpa using hrest
  rw [runFrom, StateT.run_bind, run_withClient, ran]
  simp only [hmore, Bool.false_eq_true, if_false]
  by_cases hpoison : verdict.poisonsClient
  · rw [if_pos hpoison] at back
    obtain ⟨rfl, rfl⟩ := Prod.mk.inj back
    change StateT.run (if verdict.poisonsClient then _ else _) (aside after) = _
    rw [if_pos hpoison]
    rfl
  · rw [if_neg hpoison] at back
    have hreset : (withClient after.state.2 g.reset).run (aside after) =
        ((isReset, left.state.2), aside left) := by
      rw [run_withClient]
      change (((g.reset after).1, (g.reset after).2.state.2), aside (g.reset after).2) = _
      rw [back]
    change StateT.run (if verdict.poisonsClient then _ else _) (aside after) = _
    rw [if_neg hpoison]
    change StateT.run (withClient after.state.2 g.reset >>= g.goOn result rest) _ = _
    rw [StateT.run_bind, hreset]
    rfl

lemma run_goOn (back : Bool × σ) : (g.goOn result rest back).run m =
    if isCancelled g.terms.cancelAt m.now then
      ((result :: rest.map Member.cancelled, some back.2), m)
    else
      let client := if back.1 then (some back.2, m) else g.start.run ((g.stop back.2).run m).2
      let others := (g.runFrom rest client.1).run client.2
      ((result :: others.1.1, others.1.2), others.2) := by
  unfold goOn
  by_cases hcancelled : isCancelled g.terms.cancelAt m.now
  · rw [if_pos hcancelled]
    change StateT.run (if isCancelled g.terms.cancelAt m.now then _ else _) m = _
    rw [if_pos hcancelled]
    rfl
  · rw [if_neg hcancelled]
    change StateT.run (if isCancelled g.terms.cancelAt m.now then _ else _) m = _
    rw [if_neg hcancelled]
    cases back.1 <;> rfl

end Loop

lemma reset_cases (m : Moment (ω × σ)) : g.reset m = (false, m) ∨
    ∃ version answer, g.resetVersion = some version ∧ m.within g.terms.callTimeout
        (g.launcher.client.chooseHead version { head := g.genesisHash }) =
          (answer, (g.reset m).2) ∧
      ((g.reset m).1 = true → ∃ status, answer = .done (.ok status) ∧ status.verdict = .valid) := by
  unfold reset
  cases hversion : g.resetVersion with
  | none => exact Or.inl rfl
  | some version =>
    right
    simp only
    rcases h : m.within g.terms.callTimeout
      (g.launcher.client.chooseHead version { head := g.genesisHash }) with
      ⟨(fault | status) | _ | _, after⟩
    · exact ⟨version, _, rfl, h, nofun⟩
    · exact ⟨version, _, rfl, h, fun hvalid => ⟨status, rfl, of_decide_eq_true hvalid⟩⟩
    · exact ⟨version, _, rfl, h, nofun⟩
    · exact ⟨version, _, rfl, h, nofun⟩

end PayloadGroup

/-- The results of fixtures of which some were run and the rest were left out, either because
there was no client or because the run was cancelled. -/
def Reported (ran : List (Member × CaseResult)) (members : List Member)
    (results : List CaseResult) : Prop :=
  ∃ skipped : List Member, members = ran.map Prod.fst ++ skipped ∧
    (results = ran.map Prod.snd ++ skipped.map (·.failed PayloadGroup.unavailable) ∨
      results = ran.map Prod.snd ++ skipped.map Member.cancelled)

lemma Reported.cons {ran : List (Member × CaseResult)} {members : List Member}
    {results : List CaseResult} (h : Reported ran members results) (member : Member)
    (result : CaseResult) :
    Reported ((member, result) :: ran) (member :: members) (result :: results) := by
  obtain ⟨skipped, rfl, rfl | rfl⟩ := h
  · exact ⟨skipped, rfl, Or.inl rfl⟩
  · exact ⟨skipped, rfl, Or.inr rfl⟩

namespace Ready

variable {genesis : Hash} {events : List ClientEvent} {client : Nat}

lemma of_unused (h : client ∉ events.filterMap used?) : Ready genesis events client :=
  fun hused => absurd hused h

/-- A client that can be trusted after a fixture is ready for the next one once it is set
back. -/
lemma reset (h : Ready genesis events client) {member : Member} {verdict : Verdict}
    {result : CaseResult} (trusted : ¬verdict.poisonsClient) {version : UInt8}
    {status : PayloadStatus} (valid : status.verdict = .valid) :
    Ready genesis (events ++ [.ran client member verdict result] ++
      [.chose client version { head := genesis } (.done (.ok status))]) client := by
  intro _
  refine ⟨⟨_, version, status, valid, rfl⟩, fun member' failure result' hran => ?_⟩
  rw [List.mem_append, List.mem_append, List.mem_singleton, List.mem_singleton] at hran
  rcases hran with (hbefore | hlast) | hchose
  · have hused : client ∈ events.filterMap used? := List.mem_filterMap.mpr ⟨_, hbefore, rfl⟩
    exact (h hused).2 member' failure result' hbefore
  · cases hlast
    have hkind : failure.kind.poisonsClient = false := by
      simpa [Verdict.poisonsClient, Verdict.failure?] using trusted
    constructor <;> intro hk <;> rw [hk] at hkind <;> cases hkind
  · cases hchose

end Ready

namespace PayloadGroup

variable {ω σ : Type} {g : PayloadGroup ω σ} {m₀ : Moment ω} {events : List ClientEvent}
  {gone : List σ}

lemma Custody.run_start {m : Moment ω} (h : Custody g m₀ events gone none m) :
    ∃ e, ran? e = none ∧
      Custody g m₀ (events ++ [e]) gone (g.start.run m).1 (g.start.run m).2 ∧
      ∀ s ∈ (g.start.run m).1, Ready g.genesisHash (events ++ [e]) gone.length := by
  rw [PayloadGroup.run_start]
  have hunused : ∀ e, used? e = none → gone.length ∉ (events ++ [e]).filterMap used? := by
    intro e he hused
    rw [filterMap_concat, he, List.mem_append] at hused
    exact absurd (h.used _ (hused.resolve_right nofun)) (lt_irrefl _)
  rcases hanswer : m.unguarded (g.launcher.start g.spec) with ⟨_ | _ | s, m'⟩
  · exact ⟨.startFailed, rfl, h.startFailed hanswer nofun, nofun⟩
  · exact ⟨.startFailed, rfl, h.startFailed hanswer nofun, nofun⟩
  · exact ⟨.started gone.length, rfl, h.start hanswer, fun _ _ => .of_unused (hunused _ rfl)⟩

lemma Custody.back {member : Member} {verdict : Verdict} {result : CaseResult}
    {after left : Moment (ω × σ)} {isReset : Bool}
    (h : Custody g m₀ (events ++ [.ran gone.length member verdict result]) gone
      (some after.state.2) (aside after))
    (hready : Ready g.genesisHash events gone.length)
    (hback : (if verdict.poisonsClient then (false, after) else g.reset after) =
      (isReset, left)) :
    ∃ events', events'.filterMap ran? = events.filterMap ran? ++ [(member, result)] ∧
      Custody g m₀ events' gone (some left.state.2) (aside left) ∧
      (isReset = true → Ready g.genesisHash events' gone.length) := by
  have hran : (events ++ [ClientEvent.ran gone.length member verdict result]).filterMap ran? =
      events.filterMap ran? ++ [(member, result)] := filterMap_concat _ _ _
  by_cases hpoison : verdict.poisonsClient
  · rw [if_pos hpoison] at hback
    obtain ⟨rfl, rfl⟩ := Prod.mk.inj hback
    exact ⟨_, hran, h, nofun⟩
  · rw [if_neg hpoison] at hback
    rcases g.reset_cases after with hno | ⟨version, answer, hversion, hanswer, hvalid⟩
    · rw [hback] at hno
      obtain ⟨rfl, rfl⟩ := Prod.mk.inj hno
      exact ⟨_, hran, h, nofun⟩
    · rw [hback] at hanswer hvalid
      refine ⟨_, ?_, h.chose ⟨hversion, rfl⟩ hanswer, fun hreset => ?_⟩
      · rw [filterMap_concat, hran]
        exact List.append_nil _
      · obtain ⟨status, rfl, hstatus⟩ := hvalid hreset
        exact hready.reset hpoison hstatus

/-- The loop keeps custody of its clients: at its end there is at most one to be stopped. -/
lemma Custody.runFrom (members : List Member) {events : List ClientEvent} {gone : List σ}
    {live : Option σ} {m : Moment ω} (h : Custody g m₀ events gone live m)
    (hready : ∀ s ∈ live, Ready g.genesisHash events gone.length) :
    ∃ events' gone' ran, events'.filterMap ran? = events.filterMap ran? ++ ran ∧
      Custody g m₀ events' gone' ((g.runFrom members live).run m).1.2
        ((g.runFrom members live).run m).2 ∧
      Reported ran members ((g.runFrom members live).run m).1.1 := by
  -- By induction on the members: the live client is ready for the next of them.
  induction members generalizing events gone live m with
  | nil => exact ⟨events, gone, [], (List.append_nil _).symm, h, [], rfl, Or.inl rfl⟩
  | cons member rest ih =>
    cases live with
    | none =>
      exact ⟨events, gone, [], (List.append_nil _).symm, h, member :: rest, rfl, Or.inl rfl⟩
    | some s =>
      rcases hran : g.runMember member ⟨m.now, (m.state, s)⟩ with ⟨⟨verdict, result⟩, after⟩
      have hlive : Ready g.genesisHash events gone.length := hready s rfl
      have hcustody := h.ran hlive hran
      by_cases hrest : rest = []
      · subst hrest
        rw [run_runFrom_last hran]
        exact ⟨_, gone, [(member, result)], filterMap_concat _ _ _, hcustody, [], rfl, Or.inl rfl⟩
      · rcases hback : (if verdict.poisonsClient then (false, after) else g.reset after) with
          ⟨isReset, left⟩
        obtain ⟨before, hbefore, hcustody, hreset⟩ := hcustody.back hlive hback
        rw [run_runFrom_cons hrest hran hback, run_goOn]
        -- The others are left out, or run on this client, or on the next one.
        by_cases hcancelled : isCancelled g.terms.cancelAt (aside left).now
        · rw [if_pos hcancelled]
          exact ⟨before, gone, [(member, result)], hbefore, hcustody, rest, rfl, Or.inr rfl⟩
        · rw [if_neg hcancelled]
          cases isReset with
          | true =>
            obtain ⟨events', gone', ran, hevents', hcustody', hreported⟩ :=
              ih hcustody fun _ _ => hreset rfl
            refine ⟨events', gone', (member, result) :: ran, ?_, hcustody',
              hreported.cons member result⟩
            rw [hevents', hbefore, List.append_assoc]
            rfl
          | false =>
            obtain ⟨e, he, hstarted, hfresh⟩ := hcustody.stop.run_start
            obtain ⟨events', gone', ran, hevents', hcustody', hreported⟩ := ih hstarted hfresh
            refine ⟨events', gone', (member, result) :: ran, ?_, hcustody',
              hreported.cons member result⟩
            rw [hevents', filterMap_concat, he, filterMap_concat, hbefore]
            simp [ran?]

/-! ### Results -/

lemma runMember_named (g : PayloadGroup ω σ) (member : Member) (m : Moment (ω × σ)) :
    (g.runMember member m).1.2.path = member.path ∧
      (g.runMember member m).1.2.name = member.name := by
  unfold runMember
  rcases g.judge member.fixture m with ⟨verdict, after⟩
  by_cases hpass : verdict.isPass
  · simp only [hpass, if_true]
    exact ⟨rfl, rfl⟩
  · simp only [hpass]
    exact ⟨rfl, rfl⟩

lemma Happens.named {w w' : Fleet ω σ} {e : ClientEvent} (h : g.Happens w e w') :
    ∀ p ∈ e.ran?, p.2.path = p.1.path ∧ p.2.name = p.1.name := by
  intro p hp
  cases h with
  | @ran client s member verdict result m found ran =>
    cases hp
    have hnamed := g.runMember_named member (w.beside s)
    rwa [ran] at hnamed
  | started | startFailed | chose | stopped => cases hp

lemma History.named {w : Fleet ω σ} (h : g.History m₀ events w) :
    ∀ p ∈ events.filterMap ran?, p.2.path = p.1.path ∧ p.2.name = p.1.name := by
  induction h with
  | nil =>
    intro p hp
    cases hp
  | snoc before last ih =>
    intro p hp
    rw [filterMap_concat, List.mem_append, Option.mem_toList] at hp
    exact hp.elim (ih p) (last.named p)

end PayloadGroup

lemma Reported.named {ran : List (Member × CaseResult)} {members : List Member}
    {results : List CaseResult} (h : Reported ran members results)
    (hran : ∀ p ∈ ran, p.2.path = p.1.path ∧ p.2.name = p.1.name) :
    results.map (fun r => (r.path, r.name)) =
      members.map fun member => (member.path, member.name) := by
  have hmap : (ran.map Prod.snd).map (fun r => (r.path, r.name)) =
      (ran.map Prod.fst).map fun member => (member.path, member.name) := by
    rw [List.map_map, List.map_map]
    refine List.map_congr_left fun p hp => ?_
    obtain ⟨hpath, hname⟩ := hran p hp
    exact Prod.ext hpath hname
  have hskipped : ∀ (skipped : List Member) (failure : Failure),
      (skipped.map (·.failed failure)).map (fun r => (r.path, r.name)) =
        skipped.map fun member => (member.path, member.name) := by
    intro skipped failure
    rw [List.map_map]
    rfl
  obtain ⟨skipped, rfl, rfl | rfl⟩ := h
  · rw [List.map_append, List.map_append, hmap, hskipped]
  · rw [List.map_append, List.map_append, hmap]
    exact congrArg _ (hskipped skipped _)

namespace PayloadGroup

variable {ω σ : Type}

/-- A run with at least one fixture: the loop on a client that is started first, and the end
of the client that is left. -/
def session (g : PayloadGroup ω σ) (members : List Member) :
    StateM (Moment ω) (List CaseResult) := do
  let (results, last) ← g.runFrom members (← g.start)
  if let some s := last then g.stop s
  return results

variable {g : PayloadGroup ω σ}

lemma run_session {members : List Member} {m m₁ m₂ : Moment ω} {live last : Option σ}
    {results : List CaseResult} (hstart : g.start.run m = (live, m₁))
    (hloop : (g.runFrom members live).run m₁ = ((results, last), m₂)) :
    (g.session members).run m =
      (results, last.elim m₂ fun s => ((g.stop s).run m₂).2) := by
  unfold session
  rw [StateT.run_bind, hstart]
  change StateT.run (g.runFrom members live >>= _) m₁ = _
  rw [StateT.run_bind, hloop]
  cases last <;> rfl

lemma session_orderly (members : List Member) (m : Moment ω) :
    ∃ events clients, g.History m events ⟨((g.session members).run m).2, clients⟩ ∧
      Orderly g.genesisHash events ∧ (∀ choice ∈ events.filterMap choice?, g.IsReset choice) ∧
      Reported (events.filterMap ran?) members ((g.session members).run m).1 := by
  have hnil : Custody g m [] [] none m := .nil
  obtain ⟨e, he, hstarted, hready⟩ := hnil.run_start
  obtain ⟨events, gone, ran, hevents, hcustody, hreported⟩ := hstarted.runFrom members hready
  have hran : events.filterMap ran? = ran := by
    rw [hevents, filterMap_concat, he]
    rfl
  rcases hstart : g.start.run m with ⟨live, m₁⟩
  rw [hstart] at hcustody hreported
  rcases hloop : (g.runFrom members live).run m₁ with ⟨⟨results, last⟩, m₂⟩
  rw [hloop] at hcustody hreported
  rw [run_session hstart hloop]
  cases last with
  | none =>
    exact ⟨events, _, hcustody.history, hcustody.orderly, hcustody.resets, hran ▸ hreported⟩
  | some s =>
    refine ⟨_, _, hcustody.stop.history, hcustody.stop.orderly, hcustody.stop.resets, ?_⟩
    rw [filterMap_concat, hran]
    simpa [ran?] using hreported

/-- Without fixtures nothing happens. Otherwise there is one result for each of them, in their
order and under their names, and what happens to the clients from the first moment to the last
is in order. The fixtures that are not run are those after the last that is. -/
theorem run_orderly (terms : Terms) (launcher : Launcher ω σ) (group : Group) (m : Moment ω) :
    run terms launcher group [] m = ([], m) ∧
    ∀ (first : Member) (rest : List Member),
      let g := ofGroup terms launcher group first (rest.length + 1)
      let ended := run terms launcher group (first :: rest) m
      ended.1.map (fun r => (r.path, r.name)) =
        (first :: rest).map (fun member => (member.path, member.name)) ∧
      ∃ events clients, g.History m events ⟨ended.2, clients⟩ ∧
        Orderly first.fixture.genesisHash events ∧
        Reported (events.filterMap ran?) (first :: rest) ended.1 := by
  refine ⟨rfl, fun first rest => ?_⟩
  obtain ⟨events, clients, history, orderly, -, reported⟩ :=
    session_orderly (g := ofGroup terms launcher group first (rest.length + 1)) (first :: rest) m
  exact ⟨reported.named history.named, events, clients, history, orderly, reported⟩

end PayloadGroup

end ChainConformance
