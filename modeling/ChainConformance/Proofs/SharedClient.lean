import ChainConformance.Proofs.Cancellation
import ChainConformance.Proofs.PayloadSimulation

/-!
# Fixtures on a shared client

Fixtures of a group share clients, and none of them sees those before it: each has the result
that it has on a client that is started for it, if clients behave as what they are started
from determines, and as freshly started ones once they are back at the genesis block.
-/

namespace ChainConformance

/-- What the behaviour of a client is to depend on, of all that it is started with. -/
structure Origin where
  fork : Fork
  genesis : Header
  pre : Alloc
  chainId : Word
  deriving DecidableEq

def Origin.genesisHash (o : Origin) : Hash := o.genesis.statedHash.getD o.genesis.hash

def ClientSpec.origin (spec : ClientSpec) : Origin :=
  ⟨spec.fork, spec.genesis, spec.pre, spec.chainId⟩

namespace Launcher

variable {ω σ : Type} (launcher : Launcher ω σ)

def Starts (spec : ClientSpec) (w : ω) : Prop :=
  ∃ s, (launcher.start spec none w).answer = some (.ok s)

/-- The states of a client that was started so, with those of its launcher, when nothing but
calls to it have been made since. -/
inductive Serves (spec : ClientSpec) : ω × σ → Prop
  | started {w : ω} {s : σ} (answer : (launcher.start spec none w).answer = some (.ok s)) :
      Serves spec ((launcher.start spec none w).state, s)
  | called {p : ω × σ} (before : Serves spec p) (k : EngineRequest) (limit : Option Nat) :
      Serves spec (launcher.client.request k limit p).state

/-- A client is related to all that are freshly started from an origin. -/
def LikeNew (R : ω × σ → ω × σ → Prop) (o : Origin) (p : ω × σ) : Prop :=
  ∀ spec w s, spec.origin = o → (launcher.start spec none w).answer = some (.ok s) →
    R p ((launcher.start spec none w).state, s)

/-- What clients do is determined by what they are started from, and those that have been set
back to the genesis block are like new ones. Clients that are related by `R` behave alike. -/
structure Determined (R : ω × σ → ω × σ → Prop) : Prop where
  alike : launcher.client.Matches launcher.client R
  starts : ∀ spec spec' w w', spec.origin = spec'.origin → launcher.Starts spec w →
    launcher.Starts spec' w'
  started : ∀ spec w s, (launcher.start spec none w).answer = some (.ok s) →
    launcher.LikeNew R spec.origin ((launcher.start spec none w).state, s)
  setBack : ∀ spec p version limit status, launcher.Serves spec p →
    (launcher.client.chooseHead version { head := spec.origin.genesisHash } limit p).answer =
      some (.ok status) → status.verdict = .valid →
    launcher.LikeNew R spec.origin
      (launcher.client.chooseHead version { head := spec.origin.genesisHash } limit p).state

variable {launcher} {spec : ClientSpec}

lemma Serves.starts {p : ω × σ} (h : launcher.Serves spec p) :
    ∃ w, launcher.Starts spec w := by
  induction h with
  | started answer => exact ⟨_, _, answer⟩
  | called _ _ _ ih => exact ih

lemma keeps_serves (k : EngineRequest) :
    (launcher.client.request k).Keeps (launcher.Serves spec) :=
  fun limit _ h => h.called k limit

end Launcher

namespace PayloadGroup

variable {ω σ : Type}

/-- Two groups are run under the same terms on clients of the same origin. -/
structure Akin (g g' : PayloadGroup ω σ) : Prop where
  terms : g.terms = g'.terms
  launcher : g.launcher = g'.launcher
  pre : g.pre = g'.pre
  genesisHash : g.genesisHash = g'.genesisHash
  origin : g.spec.origin = g'.spec.origin

/-- A result is that of the fixture as the only one of a group. -/
def Gives (g : PayloadGroup ω σ) (member : Member) (r : CaseResult) : Prop :=
  ∀ g', g.Akin g' → ∀ n, ((g'.session [member]).run n).1 = [r]

/-- What is known when a fixture is about to be run: the client is like a new one, or none can
be started. -/
def Poised (g : PayloadGroup ω σ) (R : ω × σ → ω × σ → Prop) (w : ω) : Option σ → Prop
  | some s => g.launcher.Serves g.spec (w, s) ∧ g.launcher.LikeNew R g.spec.origin (w, s)
  | none => ∀ w, ¬g.launcher.Starts g.spec w

variable {g g' : PayloadGroup ω σ} {R : ω × σ → ω × σ → Prop}

lemma Akin.refl (g : PayloadGroup ω σ) : g.Akin g := ⟨rfl, rfl, rfl, rfl, rfl⟩

lemma Akin.runMember_eq (akin : g.Akin g') : g'.runMember = g.runMember := by
  obtain ⟨terms, launcher, spec, pre, genesisHash, version⟩ := g
  obtain ⟨terms', launcher', spec', pre', genesisHash', version'⟩ := g'
  obtain ⟨rfl, rfl, rfl, rfl, -⟩ := akin
  rfl

lemma run_start_answered {m : Moment ω} {s : σ}
    (answer : (g.launcher.start g.spec none m.state).answer = some (.ok s)) :
    g.start.run m = (some s, m.after (g.launcher.start g.spec none m.state)) := by
  have hstart : m.unguarded (g.launcher.start g.spec) =
      (some (.ok s), m.after (g.launcher.start g.spec none m.state)) := Prod.ext answer rfl
  rw [run_start, hstart]

lemma run_start_failed {m : Moment ω} (h : ¬g.launcher.Starts g.spec m.state) :
    (g.start.run m).1 = none := by
  rw [run_start]
  rcases hstart : m.unguarded (g.launcher.start g.spec) with ⟨_ | fault | s, m'⟩
  · rfl
  · rfl
  · exact absurd ⟨s, congrArg Prod.fst hstart⟩ h

lemma session_single (member : Member) (m : Moment ω) :
    ((g.session [member]).run m).1 = match g.start.run m with
      | (some s, m') => [(g.runMember member ⟨m'.now, (m'.state, s)⟩).1.2]
      | (none, _) => [member.failed unavailable] := by
  rcases hstart : g.start.run m with ⟨_ | s, m'⟩
  · rw [run_session hstart rfl]
    rfl
  · rcases ran : g.runMember member ⟨m'.now, (m'.state, s)⟩ with ⟨⟨verdict, result⟩, after⟩
    rw [run_session hstart (run_runFrom_last ran)]
    simp only [ran]

section Alike

variable (alike : g.launcher.client.Matches g.launcher.client R)
include alike

lemma judge_alike (hc : g.terms.cancelAt = none) (f : Fixture) {m n : Moment (ω × σ)}
    (hR : R m.state n.state) : ∃ verdict m' n', g.judge f m = (verdict, m') ∧
      g.judge f n = (verdict, n') ∧ R m'.state n'.state := by
  unfold judge
  by_cases hgenesis : f.genesisHash = g.genesisHash
  · obtain ⟨verdict, m', n', hm, hn, hmn⟩ := PayloadRun.run_abreast f g.pre hc alike hR
    rw [if_pos hgenesis, if_pos hgenesis]
    exact ⟨verdict, m', n', hm, hn, hmn.state⟩
  · rw [if_neg hgenesis, if_neg hgenesis]
    exact ⟨_, m, n, rfl, rfl, hR⟩

lemma observedDiff_alike (f : Fixture) {m n : Moment (ω × σ)} (hR : R m.state n.state) :
    (g.observedDiff f m).1 = (g.observedDiff f n).1 := by
  unfold observedDiff
  cases expectedState? g.pre f with
  | none => rfl
  | some expected =>
    have hanswer := (alike.readState (g.pre.readingHint expected) none m.state n.state hR).1
    simp only [Moment.unguarded, hanswer]
    rcases (g.launcher.client.readState _ none n.state).answer with _ | _ | observed <;> rfl

lemma runMember_alike (hc : g.terms.cancelAt = none) (member : Member)
    {m n : Moment (ω × σ)} (hR : R m.state n.state) :
    (g.runMember member m).1 = (g.runMember member n).1 := by
  obtain ⟨verdict, m', n', hm, hn, hR'⟩ := judge_alike alike hc member.fixture hR
  rw [run_runMember, run_runMember, hm, hn]
  by_cases hpass : verdict.isPass
  · simp only [hpass, if_true, observedDiff_alike alike member.fixture hR']
  · simp only [hpass, Bool.false_eq_true, if_false]

end Alike

section Keeps

variable {I : ω × σ → Prop} (keeps : ∀ k, (g.launcher.client.request k).Keeps I)
include keeps

lemma judge_keeps (f : Fixture) {m : Moment (ω × σ)} (h : I m.state) :
    I (g.judge f m).2.state := by
  unfold judge
  by_cases hgenesis : f.genesisHash = g.genesisHash
  · rw [if_pos hgenesis]
    exact PayloadRun.run_keeps g.terms f g.pre _ (.of_keeps fun _ => keeps) h
  · rwa [if_neg hgenesis]

lemma observedDiff_keeps (f : Fixture) {m : Moment (ω × σ)} (h : I m.state) :
    I (g.observedDiff f m).2.state := by
  unfold observedDiff
  cases expectedState? g.pre f with
  | none => exact h
  | some expected =>
    have hread := keeps (.readState (g.pre.readingHint expected)) none _ h
    simp only
    rcases hm : m.unguarded (g.launcher.client.readState (g.pre.readingHint expected)) with
      ⟨_ | _ | observed, m'⟩ <;> obtain ⟨-, rfl⟩ := Prod.mk.inj hm <;> exact hread

lemma runMember_keeps (member : Member) {m : Moment (ω × σ)} (h : I m.state) :
    I (g.runMember member m).2.state := by
  have hjudged := judge_keeps keeps member.fixture h
  rw [run_runMember]
  by_cases hpass : (g.judge member.fixture m).1.isPass
  · rw [if_pos hpass]
    exact observedDiff_keeps keeps member.fixture hjudged
  · rw [if_neg hpass]
    exact hjudged

lemma reset_keeps {m : Moment (ω × σ)} (h : I m.state) : I (g.reset m).2.state := by
  rcases reset_cases (g := g) m with hkept | ⟨version, answer, -, hanswer, -⟩
  · rw [hkept]
    exact h
  · have hstate := m.state_within g.terms.callTimeout
      (g.launcher.client.chooseHead version { head := g.genesisHash })
    rw [hanswer] at hstate
    rw [hstate]
    exact keeps (.chooseHead version { head := g.genesisHash }) _ _ h

lemma back_keeps {verdict : Verdict} {after left : Moment (ω × σ)} {isReset : Bool}
    (back : (if verdict.poisonsClient then (false, after) else g.reset after) = (isReset, left))
    (h : I after.state) : I left.state := by
  by_cases hpoison : verdict.poisonsClient
  · rw [if_pos hpoison] at back
    obtain ⟨-, rfl⟩ := Prod.mk.inj back
    exact h
  · rw [if_neg hpoison] at back
    have hreset := reset_keeps keeps h
    rwa [back] at hreset

end Keeps

section Determined

variable (determined : g.launcher.Determined R)
include determined

lemma poised_reset (hgenesis : g.genesisHash = g.spec.origin.genesisHash) {m m' : Moment (ω × σ)}
    (h : g.launcher.Serves g.spec m.state) (back : g.reset m = (true, m')) :
    g.Poised R m'.state.1 (some m'.state.2) := by
  rcases reset_cases (g := g) m with hkept | ⟨version, answer, -, hanswer, hvalid⟩
  · rw [hkept] at back
    cases back
  · rw [back] at hanswer hvalid
    obtain ⟨status, rfl, hstatus⟩ := hvalid rfl
    obtain ⟨hanswered, rfl⟩ := Moment.within_eq_done.mp hanswer
    rw [hgenesis] at hanswered ⊢
    exact ⟨h.called (.chooseHead version _) _,
      determined.setBack _ _ version _ status h hanswered hstatus⟩

lemma poised_start (m : Moment ω) : g.Poised R (g.start.run m).2.state (g.start.run m).1 := by
  by_cases hstarts : g.launcher.Starts g.spec m.state
  · obtain ⟨s, answer⟩ := hstarts
    rw [run_start_answered answer]
    exact ⟨.started answer, determined.started _ _ _ answer⟩
  · rw [run_start_failed hstarts]
    exact fun w h => hstarts (determined.starts _ _ _ _ rfl h)

lemma gives_runMember (hc : g.terms.cancelAt = none) (member : Member) {s : σ} {m : Moment ω}
    (h : g.Poised R m.state (some s)) :
    g.Gives member (g.runMember member ⟨m.now, (m.state, s)⟩).1.2 := by
  intro g' akin n
  obtain ⟨serves, likeNew⟩ := h
  obtain ⟨w, hstarts⟩ := serves.starts
  obtain ⟨s', answer⟩ := determined.starts _ _ _ n.state akin.origin hstarts
  have hR := likeNew _ _ _ akin.origin.symm answer
  rw [akin.launcher] at answer hR
  rw [session_single, run_start_answered answer, akin.runMember_eq]
  have hsame (now : Nat) := runMember_alike determined.alike hc member
    (m := ⟨m.now, (m.state, s)⟩) (n := ⟨now, (_, s')⟩) hR
  exact congrArg (fun ended => [ended.2]) (hsame _).symm

lemma gives_unavailable (member : Member) {m : Moment ω} (h : g.Poised R m.state none) :
    g.Gives member (member.failed unavailable) := by
  intro g' akin n
  have hfails : ¬g'.launcher.Starts g'.spec n.state := by
    rw [← akin.launcher]
    exact fun hstarts => h n.state (determined.starts _ _ _ _ akin.origin.symm hstarts)
  rw [session_single]
  rcases hstart : g'.start.run n with ⟨live, n'⟩
  have hnone := run_start_failed hfails
  rw [hstart] at hnone
  cases hnone
  rfl

/-- Whatever comes before a fixture of a group, it has the result that it has alone. -/
lemma runFrom_gives (hc : g.terms.cancelAt = none)
    (hgenesis : g.genesisHash = g.spec.origin.genesisHash) (members : List Member)
    (client : Option σ) (m : Moment ω) (h : g.Poised R m.state client) :
    List.Forall₂ g.Gives members ((g.runFrom members client).run m).1.1 := by
  induction members generalizing client m with
  | nil => exact .nil
  | cons member rest ih =>
    cases client with
    | none =>
      refine List.forall₂_map_right_iff.mpr (List.forall₂_same.mpr fun other _ => ?_)
      exact gives_unavailable determined other h
    | some s =>
      have hgives := gives_runMember determined hc member h
      have hserves := runMember_keeps Launcher.keeps_serves member (m := ⟨m.now, (m.state, s)⟩) h.1
      rcases ran : g.runMember member ⟨m.now, (m.state, s)⟩ with ⟨⟨verdict, result⟩, after⟩
      rw [ran] at hgives hserves
      by_cases hrest : rest = []
      · subst hrest
        rw [run_runFrom_last ran]
        exact .cons hgives .nil
      · rcases back : (if verdict.poisonsClient then (false, after) else g.reset after) with
          ⟨isReset, left⟩
        have hlive : ¬isCancelled g.terms.cancelAt (aside left).now := by
          rw [hc]
          exact Bool.false_ne_true
        rw [run_runFrom_cons hrest ran back, run_goOn, if_neg hlive]
        -- The client was set back, or another one is started for the next fixture.
        refine .cons hgives (ih _ _ ?_)
        cases isReset with
        | false => exact poised_start determined _
        | true =>
          by_cases hpoison : verdict.poisonsClient
          · rw [if_pos hpoison] at back
            cases back
          · rw [if_neg hpoison] at back
            exact poised_reset determined hgenesis hserves back

end Determined

lemma run_gives (terms : Terms) (launcher : Launcher ω σ) (determined : launcher.Determined R)
    (hc : terms.cancelAt = none) (group : Group) (first : Member) (rest : List Member)
    (m : Moment ω) :
    List.Forall₂ (ofGroup terms launcher group first (rest.length + 1)).Gives (first :: rest)
      (run terms launcher group (first :: rest) m).1 := by
  let g := ofGroup terms launcher group first (rest.length + 1)
  have hpoised := poised_start (g := g) determined m
  rcases hstart : g.start.run m with ⟨live, m'⟩
  rcases hloop : (g.runFrom (first :: rest) live).run m' with ⟨⟨results, last⟩, m''⟩
  rw [hstart] at hpoised
  have hgives := runFrom_gives determined hc rfl (first :: rest) live m' hpoised
  rw [hloop] at hgives
  have hrun : run terms launcher group (first :: rest) m = (g.session (first :: rest)).run m :=
    rfl
  rw [hrun, run_session hstart hloop]
  exact hgives

lemma Gives.unique {member : Member} {r r' : CaseResult} (h : g.Gives member r)
    (h' : g'.Gives member r') (akin : g.Akin g') (w : ω) : r = r' :=
  List.singleton_inj.mp ((h g' akin ⟨0, w⟩).symm.trans (h' g' (.refl g') ⟨0, w⟩))

lemma Gives.title {member : Member} {r : CaseResult} (h : g.Gives member r) (w : ω) :
    r.title = member.title := by
  have hsession := h g (.refl g) ⟨0, w⟩
  rw [session_single] at hsession
  rcases hstart : g.start.run ⟨0, w⟩ with ⟨_ | s, m'⟩
  · rw [hstart] at hsession
    rw [← List.singleton_inj.mp hsession]
    rfl
  · rw [hstart] at hsession
    rw [← List.singleton_inj.mp hsession, title_runMember]

lemma Gives.of_foreign {member : Member} {r : CaseResult} (h : g.Gives member r) (w : ω)
    (hforeign : member.fixture.genesisHash ≠ g.genesisHash) :
    r = member.failed foreignGenesis ∨ r = member.failed unavailable := by
  have hsession := h g (.refl g) ⟨0, w⟩
  rw [session_single] at hsession
  rcases hstart : g.start.run ⟨0, w⟩ with ⟨_ | s, m'⟩
  · rw [hstart] at hsession
    exact Or.inr (List.singleton_inj.mp hsession).symm
  · rw [hstart] at hsession
    have hran := (List.singleton_inj.mp hsession).symm
    rw [run_runMember, judge, if_neg hforeign] at hran
    exact Or.inl hran

end PayloadGroup

end ChainConformance
