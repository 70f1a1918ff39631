import ChainConformance.Proofs.BlockRecords
import ChainConformance.Proofs.ClientLifecycle

/-!
# When calls begin

A target or a client can be made to keep a record of the calls to it, with the time at which each
of them begins. No run sees the record. Under whatever terms it is made, its calls begin one after
another as long as the run goes on, and none of them begins once it is cancelled.
-/

namespace ChainConformance

variable {κ σ α : Type}

/-- The calls begin one after another, from one time on up to another, and each of them at a time
at which the run is not cancelled yet. -/
structure BegunInTime (cancelAt : Option Nat) (first last : Nat) (record : List (Nat × κ)) :
    Prop where
  span : first ≤ last
  ordered : record.Pairwise (·.1 ≤ ·.1)
  within : ∀ call ∈ record, first ≤ call.1 ∧ call.1 ≤ last
  timely : ∀ call ∈ record, isCancelled cancelAt call.1 = false

namespace BegunInTime

variable {cancelAt : Option Nat} {first middle last : Nat} {record others : List (Nat × κ)}

lemma nil (now : Nat) : BegunInTime cancelAt now now ([] : List (Nat × κ)) :=
  ⟨Nat.le_refl now, .nil, nofun, nofun⟩

lemma single {now : Nat} (hnow : isCancelled cancelAt now = false) (call : κ) :
    BegunInTime cancelAt now now [(now, call)] := by
  refine ⟨Nat.le_refl now, List.pairwise_singleton _ _, ?_, ?_⟩ <;> simp [hnow]

lemma append (h : BegunInTime cancelAt first middle record)
    (h' : BegunInTime cancelAt middle last others) :
    BegunInTime cancelAt first last (record ++ others) where
  span := h.span.trans h'.span
  ordered := List.pairwise_append.mpr ⟨h.ordered, h'.ordered, fun call hcall other hother =>
    (h.within call hcall).2.trans (h'.within other hother).1⟩
  within := by
    intro call hcall
    rcases List.mem_append.mp hcall with hbefore | hafter
    · obtain ⟨hfirst, hmiddle⟩ := h.within call hbefore
      exact ⟨hfirst, hmiddle.trans h'.span⟩
    · obtain ⟨hmiddle, hlast⟩ := h'.within call hafter
      exact ⟨h.span.trans hmiddle, hlast⟩
  timely := by
    intro call hcall
    exact (List.mem_append.mp hcall).elim (h.timely call) (h'.timely call)

lemma later (h : BegunInTime cancelAt first middle record) (hle : middle ≤ last) :
    BegunInTime cancelAt first last record where
  span := h.span.trans hle
  ordered := h.ordered
  within call hcall := ⟨(h.within call hcall).1, (h.within call hcall).2.trans hle⟩
  timely := h.timely

end BegunInTime

section Records

variable {cancelAt : Option Nat} {first now : Nat} (hnow : isCancelled cancelAt now = false)
include hnow

lemma Call.logged_begun (note : σ → Option α → κ) (c : Call σ α) :
    (c.logged fun on answer => (now, note on answer)).Keeps
      fun p => BegunInTime cancelAt first now p.2 :=
  fun _ _ h => h.append (.single hnow _)

lemma Call.noted_begun (note : Option α → κ) (c : Call σ α) :
    (c.noted fun answer => (now, note answer)).Keeps
      fun p => BegunInTime cancelAt first now p.2 :=
  fun _ _ h => h.append (.single hnow _)

end Records

/-- The target with a record of the calls that are made on it and of the times at which they
begin. -/
def BlockTarget.timed (t : BlockTarget σ) (now : Nat) :
    BlockTarget (σ × List (Nat × BlockCall σ)) where
  start fork pre genesis := (t.start fork pre genesis).logged fun on answer =>
    (now, .start fork pre genesis on answer)
  apply block raw := (t.apply block raw).logged fun on answer =>
    (now, .apply block raw on answer)
  readState hint := (t.readState hint).logged fun on answer => (now, .readState hint on answer)
  resetTo hash := (t.resetTo hash).logged fun on answer => (now, .resetTo hash on answer)

lemma BlockTarget.timed_matches (t : BlockTarget σ) (now : Nat) :
    (t.timed now).Matches t fun p s => p.1 = s where
  start _ _ _ := Call.logged_matches _ _
  apply _ _ := Call.logged_matches _ _
  readState _ := Call.logged_matches _ _
  resetTo _ := Call.logged_matches _ _

lemma BlockTarget.timed_kept (t : BlockTarget σ) (cancelAt : Option Nat) (first : Nat) :
    Kept (fun now => (t.timed now).request) cancelAt
      fun m => BegunInTime cancelAt first m.now m.state.2 where
  later _ _ hle h := h.later hle
  made m hnow h k limit := by
    have hrequest : ((t.timed m.now).request k).Keeps
        fun p => BegunInTime cancelAt first m.now p.2 := by
      cases k with
      | start fork pre genesis => exact Call.logged_begun hnow _ _
      | resume g => exact (Call.logged_begun hnow _ _).bind fun _ => Call.keeps_pure _
      | apply block raw => exact Call.logged_begun hnow _ _
      | readState hint => exact Call.logged_begun hnow _ _
    exact hrequest limit m.state h

namespace BlockRun

variable (terms : Terms) (f : Fixture) (pre : Alloc) (target : BlockTarget σ)
  (resumed : Option Genesis) (m : Moment σ)

/-- The run on the target with a record of when its calls begin. -/
def timedRun : Verdict × BlockRun (σ × List (Nat × BlockCall σ)) :=
  run terms f pre target.timed resumed ⟨m.now, m.state, []⟩

/-- The record changes nothing of the run, and its calls begin in time. -/
lemma run_timed :
    let timed := timedRun terms f pre target resumed m
    let ended := run terms f pre target resumed m
    ended.1 = timed.1 ∧ ended.2.moment = timed.2.moment.map Prod.fst ∧
      BegunInTime terms.cancelAt m.now ended.2.moment.now timed.2.moment.state.2 := by
  obtain ⟨hverdict, ⟨hnow, hstate⟩, -, -⟩ := run_level terms f pre
    (fun now _ => target.timed_matches now) resumed (m := ⟨m.now, m.state, []⟩) (n := m)
    ⟨rfl, rfl⟩
  have hmoment : (run terms f pre target resumed m).2.moment =
      (timedRun terms f pre target resumed m).2.moment.map Prod.fst :=
    congrArg₂ Moment.mk hnow.symm hstate.symm
  refine ⟨hverdict.symm, hmoment, ?_⟩
  rw [hmoment]
  exact run_keeps terms f pre _ resumed (target.timed_kept terms.cancelAt m.now) (.nil m.now)

end BlockRun

namespace BlockGroup

variable (terms : Terms) (pre : Alloc) (target : BlockTarget σ) (members : List Member)
  (m : Moment σ)

def timedRun : List CaseResult × Moment (σ × List (Nat × BlockCall σ)) :=
  run terms pre target.timed members ⟨m.now, m.state, []⟩

lemma run_timed :
    let timed := timedRun terms pre target members m
    let ended := run terms pre target members m
    ended = (timed.1, timed.2.map Prod.fst) ∧
      BegunInTime terms.cancelAt m.now ended.2.now timed.2.state.2 := by
  obtain ⟨hresults, hnow, hstate⟩ := runFrom_level terms pre
    (fun now _ => target.timed_matches now) members none (m := ⟨m.now, m.state, []⟩) (n := m)
    ⟨rfl, rfl⟩
  have hended : run terms pre target members m =
      ((timedRun terms pre target members m).1,
        (timedRun terms pre target members m).2.map Prod.fst) :=
    Prod.ext hresults.symm (congrArg₂ Moment.mk hnow.symm hstate.symm)
  refine ⟨hended, ?_⟩
  rw [hended]
  exact runFrom_keeps terms pre _ (target.timed_kept terms.cancelAt m.now) members none
    (.nil m.now)

end BlockGroup

/-- The client with a record of the calls that offer payloads and choose heads and of the times at
which they begin. -/
def EngineTarget.timed (t : EngineTarget σ) (now : Nat) :
    EngineTarget (σ × List (Nat × EngineCall)) where
  newPayload version e := (t.newPayload version e).noted fun answer =>
    (now, .newPayload version e answer)
  chooseHead version choice := (t.chooseHead version choice).noted fun answer =>
    (now, .chooseHead version choice answer)
  block choice := (t.block choice).unnoted
  account address keys := (t.account address keys).unnoted

lemma EngineTarget.timed_matches (t : EngineTarget σ) (now : Nat) :
    (t.timed now).Matches t fun p s => p.1 = s where
  newPayload _ _ := Call.noted_matches _ _
  chooseHead _ _ := Call.noted_matches _ _
  block _ := Call.unnoted_matches _
  account _ _ := Call.unnoted_matches _

lemma EngineTarget.timed_kept (t : EngineTarget σ) (cancelAt : Option Nat) (first : Nat) :
    Kept (fun now => (t.timed now).request) cancelAt
      fun m => BegunInTime cancelAt first m.now m.state.2 where
  later _ _ hle h := h.later hle
  made m hnow h k limit := by
    have hkeeps : (t.timed m.now).Keeps fun p => BegunInTime cancelAt first m.now p.2 := {
      newPayload _ _ := Call.noted_begun hnow _ _
      chooseHead _ _ := Call.noted_begun hnow _ _
      block _ _ _ h := h
      account _ _ _ _ h := h }
    exact hkeeps.request k limit m.state h

namespace PayloadRun

variable (terms : Terms) (f : Fixture) (pre : Alloc) (target : EngineTarget σ) (m : Moment σ)

def timedRun : Verdict × Moment (σ × List (Nat × EngineCall)) :=
  run terms f pre target.timed ⟨m.now, m.state, []⟩

lemma run_timed :
    let timed := timedRun terms f pre target m
    let ended := run terms f pre target m
    ended = (timed.1, timed.2.map Prod.fst) ∧
      BegunInTime terms.cancelAt m.now ended.2.now timed.2.state.2 := by
  let m₀ : Moment (σ × List (Nat × EngineCall)) := ⟨m.now, m.state, []⟩
  have habreast : Abreast 0 0 (fun p s => p.1 = s) m₀ m := ⟨rfl, rfl⟩
  obtain ⟨verdict, m', n, htimed, hrun, hnow, hstate⟩ := run_alongside f pre (.inr rfl)
    (fun now _ => target.timed_matches now) habreast
  have hended : run terms f pre target m = ((timedRun terms f pre target m).1,
      (timedRun terms f pre target m).2.map Prod.fst) := by
    rw [hrun, timedRun, htimed]
    exact congrArg (Prod.mk verdict) (congrArg₂ Moment.mk hnow.symm hstate.symm)
  refine ⟨hended, ?_⟩
  rw [hended]
  exact run_keeps terms f pre _ (target.timed_kept terms.cancelAt m.now) (.nil m.now)

end PayloadRun

/-! ### Groups of payload fixtures -/

namespace PayloadGroup

variable {ω : Type} (g : PayloadGroup ω σ)

/-- The group starts and stops its clients and sets them back. -/
def IsOwn (e : ClientEvent) : Prop := e.used? = none ∧ ∀ choice ∈ e.choice?, g.IsReset choice

/-- What a group does to its launcher and its clients from a moment without clients on, with the
calls that it makes to judge fixtures. Besides judging fixtures on its clients it starts them,
stops them and sets them back, and reads their accounts. -/
inductive Timeline (m₀ : Moment ω) : List (Nat × EngineCall) → Fleet ω σ → Prop
  | nil : Timeline m₀ [] ⟨m₀, []⟩
  | own {calls : List (Nat × EngineCall)} {w w' : Fleet ω σ} {e : ClientEvent}
      (before : Timeline m₀ calls w) (own : g.IsOwn e) (last : g.Happens w e w') :
      Timeline m₀ calls w'
  | read {calls : List (Nat × EngineCall)} {w : Fleet ω σ} {client : Nat} {s : σ} {hint : Alloc}
      {answer : Option (FaultOr Alloc)} {m : Moment (ω × σ)}
      (before : Timeline m₀ calls w) (found : w.clients[client]? = some s)
      (answered : (w.beside s).unguarded (g.launcher.client.readState hint) = (answer, m)) :
      Timeline m₀ calls (w.leaving client m)
  | judged {calls : List (Nat × EngineCall)} {w : Fleet ω σ} {client : Nat} {s : σ}
      {f : Fixture} {verdict : Verdict} {m : Moment (ω × σ)}
      (before : Timeline m₀ calls w) (found : w.clients[client]? = some s)
      (run : PayloadRun.run g.terms f g.pre g.launcher.client (w.beside s) = (verdict, m)) :
      Timeline m₀ (calls ++
        (PayloadRun.timedRun g.terms f g.pre g.launcher.client (w.beside s)).2.state.2)
        (w.leaving client m)

/-- The launcher and the clients are what the group makes of them, and the calls by which it judges
fixtures begin in time. -/
def ComesInTime (m₀ : Moment ω) (w : Fleet ω σ) : Prop :=
  ∃ calls, g.Timeline m₀ calls w ∧
    BegunInTime g.terms.cancelAt m₀.now w.moment.now calls

variable {g} {m₀ : Moment ω} {w : Fleet ω σ} {client : Nat}

lemma observedDiff_moment (f : Fixture) (m : Moment (ω × σ)) : (g.observedDiff f m).2 = m ∨
    ∃ hint, (g.observedDiff f m).2 = (m.unguarded (g.launcher.client.readState hint)).2 := by
  unfold observedDiff
  cases expectedState? g.pre f with
  | none => exact .inl rfl
  | some expected =>
    refine .inr ⟨g.pre.readingHint expected, ?_⟩
    simp only
    rcases m.unguarded (g.launcher.client.readState (g.pre.readingHint expected)) with
      ⟨_ | _ | observed, after⟩ <;> rfl

lemma now_le_own {w w' : Fleet ω σ} {e : ClientEvent} (own : g.IsOwn e) (h : g.Happens w e w') :
    w.moment.now ≤ w'.moment.now := by
  cases h with
  | started answer => exact Moment.now_le_of_unguarded answer
  | startFailed answered => exact Moment.now_le_of_unguarded answered
  | ran => cases own.1
  | @chose client s version choice answer m found answered =>
    have hle := (w.beside s).now_le_within g.terms.callTimeout
      (g.launcher.client.chooseHead version choice)
    rwa [answered] at hle
  | stopped found answered => exact Moment.now_le_of_unguarded answered

lemma ComesInTime.judge (h : g.ComesInTime m₀ w) {s : σ} (found : w.clients[client]? = some s)
    (f : Fixture) : g.ComesInTime m₀ (w.leaving client (g.judge f (w.beside s)).2) := by
  unfold PayloadGroup.judge
  by_cases hgenesis : f.genesisHash = g.genesisHash
  · obtain ⟨calls, before, begun⟩ := h
    rw [if_pos hgenesis]
    exact ⟨_, .judged before found rfl,
      begun.append (PayloadRun.run_timed g.terms f g.pre g.launcher.client (w.beside s)).2⟩
  · rw [if_neg hgenesis]
    exact (Fleet.leaving_beside found).symm ▸ h

lemma ComesInTime.read (h : g.ComesInTime m₀ w) {s : σ} (found : w.clients[client]? = some s)
    (hint : Alloc) : g.ComesInTime m₀
      (w.leaving client ((w.beside s).unguarded (g.launcher.client.readState hint)).2) := by
  obtain ⟨calls, before, begun⟩ := h
  exact ⟨calls, .read before found rfl, begun.later (Nat.le_add_right _ _)⟩

lemma ComesInTime.runMember (h : g.ComesInTime m₀ w) {s : σ}
    (found : w.clients[client]? = some s) (member : Member) :
    g.ComesInTime m₀ (w.leaving client (g.runMember member (w.beside s)).2) := by
  have hjudged := h.judge found member.fixture
  rw [run_runMember]
  by_cases hpass : (g.judge member.fixture (w.beside s)).1.isPass
  · rw [if_pos hpass]
    rcases observedDiff_moment member.fixture (g.judge member.fixture (w.beside s)).2 with
      hnone | ⟨hint, hread⟩
    · exact hnone.symm ▸ hjudged
    · have hreading := hjudged.read (Fleet.getElem?_leaving found _) hint
      rw [← w.leaving_leaving client (g.judge member.fixture (w.beside s)).2, hread]
      exact hreading
  · rw [if_neg hpass]
    exact hjudged

/-- The heads that are chosen between the fixtures must be those that set clients back. -/
lemma History.comesInTime {events : List ClientEvent} (h : g.History m₀ events w)
    (resets : ∀ choice ∈ events.filterMap ClientEvent.choice?, g.IsReset choice) :
    g.ComesInTime m₀ w := by
  induction h with
  | nil => exact ⟨[], .nil, .nil m₀.now⟩
  | @snoc events w w' e _ last ih =>
    rw [filterMap_concat] at resets
    have hbefore : g.ComesInTime m₀ w := ih fun choice h =>
      resets choice (List.mem_append_left _ h)
    have hown (unused : e.used? = none) : g.ComesInTime m₀ w' := by
      obtain ⟨calls, before, begun⟩ := hbefore
      have own : g.IsOwn e := ⟨unused, fun choice h =>
        resets choice (List.mem_append_right _ (Option.mem_toList.mpr h))⟩
      exact ⟨calls, .own before own last, begun.later (now_le_own own last)⟩
    cases last with
    | @ran client s member verdict result m found ran =>
      have hran := hbefore.runMember found member
      rwa [ran] at hran
    | started | startFailed | chose | stopped => exact hown rfl

end PayloadGroup

/-- Whenever a run is cancelled, each of its verdicts is that of the run that is never cancelled,
or says that the run was cancelled. A target or a client can be made to keep a record of the calls
to it, of which the run sees nothing: the calls in it begin one after another from the first moment
of the run up to its last one, and none of them begins once the run is cancelled. In a group of
payload fixtures the record is that of the calls by which its fixtures are judged, one after
another. Apart from those, the group starts its clients, stops them and sets them back, and reads
their accounts, and does nothing else to them. -/
theorem cancellation_withholds (terms : Terms) :
    (∀ (σ : Type) (target : BlockTarget σ) (f : Fixture) (pre : Alloc)
        (resumed : Option Genesis) (m : Moment σ),
      let ended := BlockRun.run terms f pre target resumed m
      let timed := BlockRun.timedRun terms f pre target resumed m
      (target.Steady →
        ended.1 = (BlockRun.run terms.uncancelled f pre target resumed m).1 ∨
          ended.1.IsWithheld) ∧
      ended.1 = timed.1 ∧ ended.2.moment = timed.2.moment.map Prod.fst ∧
      BegunInTime terms.cancelAt m.now ended.2.moment.now timed.2.moment.state.2) ∧
    (∀ (σ : Type) (target : EngineTarget σ) (f : Fixture) (pre : Alloc) (m : Moment σ),
      let ended := PayloadRun.run terms f pre target m
      let timed := PayloadRun.timedRun terms f pre target m
      (target.Steady → ended.1 = (PayloadRun.run terms.uncancelled f pre target m).1 ∨
        ended.1.IsWithheld) ∧
      ended = (timed.1, timed.2.map Prod.fst) ∧
      BegunInTime terms.cancelAt m.now ended.2.now timed.2.state.2) ∧
    (∀ (σ : Type) (target : BlockTarget σ) (pre : Alloc) (members : List Member)
        (m : Moment σ),
      let ended := BlockGroup.run terms pre target members m
      let timed := BlockGroup.timedRun terms pre target members m
      (target.Steady → List.Forall₂ CaseResult.Withholds ended.1
        (BlockGroup.run terms.uncancelled pre target members m).1) ∧
      ended = (timed.1, timed.2.map Prod.fst) ∧
      BegunInTime terms.cancelAt m.now ended.2.now timed.2.state.2) ∧
    ∀ (ω σ : Type) (launcher : Launcher ω σ) (group : Group) (m : Moment ω),
      PayloadGroup.run terms launcher group [] m = ([], m) ∧
      ∀ (first : Member) (rest : List Member),
        let ended := PayloadGroup.run terms launcher group (first :: rest) m
        (launcher.client.Steady → List.Forall₂ CaseResult.Withholds ended.1
          (PayloadGroup.run terms.uncancelled launcher group (first :: rest) m).1) ∧
        ∃ calls clients,
          (PayloadGroup.ofGroup terms launcher group first (rest.length + 1)).Timeline m calls
            ⟨ended.2, clients⟩ ∧
          BegunInTime terms.cancelAt m.now ended.2.now calls := by
  refine ⟨fun σ target f pre resumed m => ⟨fun steady => ?_, ?_⟩,
    fun σ target f pre m => ⟨fun steady => ?_, ?_⟩,
    fun σ target pre members m => ⟨fun steady => ?_, ?_⟩,
    fun ω σ launcher group m => ⟨rfl, fun first rest => ⟨fun steady => ?_, ?_⟩⟩⟩
  · rcases BlockRun.run_withholds terms f pre resumed steady m with hsame | ⟨-, hwithheld⟩
    · exact Or.inl (congrArg Prod.fst hsame)
    · exact Or.inr hwithheld
  · exact BlockRun.run_timed terms f pre target resumed m
  · rcases PayloadRun.run_withholds terms f pre steady m with hsame | ⟨-, hwithheld⟩
    · exact Or.inl (congrArg Prod.fst hsame)
    · exact Or.inr hwithheld
  · exact PayloadRun.run_timed terms f pre target m
  · exact BlockGroup.runFrom_withholds terms pre steady members none m
  · exact BlockGroup.run_timed terms pre target members m
  · exact PayloadGroup.run_withholds terms launcher steady group (first :: rest) m
  · obtain ⟨events, clients, history, -, resets, -⟩ := PayloadGroup.session_orderly
      (g := PayloadGroup.ofGroup terms launcher group first (rest.length + 1)) (first :: rest) m
    obtain ⟨calls, timeline, begun⟩ := history.comesInTime resets
    exact ⟨calls, clients, timeline, begun⟩

def EngineTarget.delayed {σ : Type} (time : Nat) (target : EngineTarget σ) :
    EngineTarget σ where
  newPayload version e := do
    Call.wait time
    target.newPayload version e
  chooseHead version choice := do
    Call.wait time
    target.chooseHead version choice
  block choice := do
    Call.wait time
    target.block choice
  account address keys := do
    Call.wait time
    target.account address keys

lemma EngineTarget.Steady.delayed {σ : Type} {target : EngineTarget σ} (h : target.Steady)
    (time : Nat) : (target.delayed time).Steady where
  newPayload version e := (Call.steady_wait time).bind fun _ => h.newPayload version e
  chooseHead version choice := (Call.steady_wait time).bind fun _ => h.chooseHead version choice
  block choice := (Call.steady_wait time).bind fun _ => h.block choice
  account address keys := (Call.steady_wait time).bind fun _ => h.account address keys

/-- A run that would pass is cancelled while its client still considers the first payload, and
nothing is called after that. -/
theorem cancellation_withholds_midway :
    let terms : Terms := { mapper := .empty, client := "client", cancelAt := some 5 }
    let client := PayloadRun.genesisClient.delayed 3
    let timed := PayloadRun.timedRun terms PayloadRun.misversioned .empty client ⟨0, ()⟩
    client.Steady ∧
      (PayloadRun.run terms.uncancelled PayloadRun.misversioned .empty client ⟨0, ()⟩).1 =
        .pass ∧
      (PayloadRun.run terms PayloadRun.misversioned .empty client ⟨0, ()⟩).1.IsWithheld ∧
      timed.2.state.2.map Prod.fst = [3] ∧
      BegunInTime terms.cancelAt 0 5 timed.2.state.2 := by
  intro terms client timed
  have steady : client.Steady := EngineTarget.Steady.delayed
    ⟨fun _ _ => Call.steady_instantly _, fun _ _ => Call.steady_never,
      fun _ => Call.steady_instantly _, fun _ _ => Call.steady_never⟩ 3
  have hpass : (PayloadRun.run terms.uncancelled PayloadRun.misversioned .empty client
      ⟨0, ()⟩).1 = .pass := by
    decide +kernel
  have hnot : (PayloadRun.run terms PayloadRun.misversioned .empty client ⟨0, ()⟩).1 ≠
      .pass := by
    decide +kernel
  have hends : (PayloadRun.run terms PayloadRun.misversioned .empty client ⟨0, ()⟩).2.now = 5 := by
    decide +kernel
  have htimes : timed.2.state.2.map Prod.fst = [3] := by
    decide +kernel
  obtain ⟨hwithholds, -, hbegun⟩ := (cancellation_withholds terms).2.1 Unit client
    PayloadRun.misversioned .empty ⟨0, ()⟩
  rw [hends] at hbegun
  refine ⟨steady, hpass, (hwithholds steady).resolve_left fun hsame => hnot ?_, htimes, hbegun⟩
  exact hsame.trans hpass

end ChainConformance
