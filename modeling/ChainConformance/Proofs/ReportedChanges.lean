import ChainConformance.Proofs.BlockSteps
import ChainConformance.Proofs.PostStates
import ChainConformance.Proofs.SharedClient
import ChainConformance.Proofs.StateChanges

/-!
# Reported changes

What a fixture has changed in the state of its group is read from the client once more, after
the verdict. If the client tells the same of an account however often it is asked in a row, the
changes that are reported make the state that the fixture expects out of that of the group, and
name the accounts that differ between the two.
-/

namespace ChainConformance

/-- An account as it was read once: the slots that were asked for, and what was told. -/
structure AccountReading where
  address : Address
  keys : List Word
  told : Option Account

namespace AccountReading

def put (read : Alloc) (r : AccountReading) : Alloc := r.told.elim read (read.insert r.address)

/-- What was asked for is what an entry of a state names. -/
def AsksFor (e : Address × Account) (r : AccountReading) : Prop :=
  r.address = e.1 ∧ r.keys = e.2.storage.keys

end AccountReading

open AccountReading

namespace EngineTarget

variable {σ : Type} (t : EngineTarget σ)

/-- A client comes from one state to another while nothing is done but reading accounts. -/
inductive Reads (s : σ) : List AccountReading → σ → Prop
  | nil : Reads s [] s
  | snoc {readings : List AccountReading} {s' : σ} {r : AccountReading} {limit : Option Nat}
      (before : Reads s readings s')
      (answer : (t.account r.address r.keys limit s').answer = some (.ok r.told)) :
      Reads s (readings ++ [r]) (t.account r.address r.keys limit s').state

/-- From this state on, a client that has the time for it tells of an account what it has told
before, as long as nothing is done but reading accounts. -/
def Repeats (s : σ) : Prop :=
  ∀ readings s', t.Reads s readings s' → ∀ r ∈ readings,
    (t.account r.address r.keys none s').answer = some (.ok r.told)

variable {t} {s₀ s : σ} {e : Address × Account} {rest asked : List (Address × Account)}
  {earlier readings : List AccountReading} {read observed : Alloc} {limit : Option Nat}

lemma readAccounts_cons {r : AccountReading} (hasks : AsksFor e r)
    (answer : (t.account r.address r.keys limit s).answer = some (.ok r.told)) :
    let first := t.account r.address r.keys limit s
    let others := t.readAccounts rest (put read r) (limit.map (· - first.elapsed)) first.state
    t.readAccounts (e :: rest) read limit s =
      ⟨others.answer, first.elapsed + others.elapsed, others.state⟩ := by
  obtain ⟨address, account⟩ := e
  obtain ⟨haddress, hkeys⟩ := hasks
  rw [haddress, hkeys] at answer ⊢
  rw [readAccounts, Call.bind_answered answer, put, haddress]
  cases r.told <;> rfl

lemma exists_reading (h : (t.readAccounts (e :: rest) read limit s).answer = some (.ok observed)) :
    ∃ r, AsksFor e r ∧ (t.account r.address r.keys limit s).answer = some (.ok r.told) := by
  obtain ⟨address, account⟩ := e
  rw [readAccounts] at h
  rcases hfirst : (t.account address account.storage.keys limit s).answer with _ | fault | told
  · rw [Call.bind_cut hfirst] at h
    cases h
  · rw [Call.bind_answered hfirst] at h
    cases h
  · exact ⟨⟨address, account.storage.keys, told⟩, ⟨rfl, rfl⟩, hfirst⟩

lemma Reads.readAccounts (before : t.Reads s₀ earlier s)
    (h : (t.readAccounts asked read limit s).answer = some (.ok observed)) :
    ∃ readings, t.Reads s₀ (earlier ++ readings) (t.readAccounts asked read limit s).state ∧
      List.Forall₂ AsksFor asked readings ∧ observed = readings.foldl put read := by
  induction asked generalizing earlier s read limit with
  | nil =>
    cases h
    refine ⟨[], ?_, .nil, rfl⟩
    rw [List.append_nil]
    exact before
  | cons e rest ih =>
    obtain ⟨r, hasks, answer⟩ := exists_reading h
    rw [readAccounts_cons hasks answer] at h ⊢
    obtain ⟨others, hreads, hothers, hread⟩ := ih (before.snoc answer) h
    rw [List.append_assoc] at hreads
    exact ⟨r :: others, hreads, .cons hasks hothers, hread⟩

/-- Readings that have been made are made again with the same end. -/
lemma Repeats.readAccounts_again (h : t.Repeats s₀) (before : t.Reads s₀ earlier s)
    (hasks : List.Forall₂ AsksFor asked readings) (hmade : ∀ r ∈ readings, r ∈ earlier) :
    (t.readAccounts asked read none s).answer = some (.ok (readings.foldl put read)) := by
  induction hasks generalizing earlier s read with
  | nil => rfl
  | @cons e r rest readings hfirst _ ih =>
    obtain ⟨hr, hothers⟩ := List.forall_mem_cons.mp hmade
    have answer := h earlier s before r hr
    rw [readAccounts_cons hfirst answer]
    exact ih (before.snoc answer) fun r' hr' => List.mem_append_left _ (hothers r' hr')

lemma Repeats.readState_again (h : t.Repeats s) {hint : Alloc}
    (answer : (t.readState hint limit s).answer = some (.ok observed)) :
    (t.readState hint none (t.readState hint limit s).state).answer = some (.ok observed) := by
  obtain ⟨readings, hreads, hasks, rfl⟩ := Reads.nil.readAccounts answer
  exact h.readAccounts_again hreads hasks fun r hr => List.mem_append_right _ hr

end EngineTarget

/-- Each client that is started repeats what it tells of accounts, whatever calls are made to it
before. -/
def Launcher.Repeats {ω σ : Type} (launcher : Launcher ω σ) : Prop :=
  ∀ spec p, launcher.Serves spec p → launcher.client.Repeats p

/-- The changes make the second state out of the first, and are those of the accounts that
differ by more than slots that hold zero. -/
structure AllocDiff.Explains (d : AllocDiff) (pre expected : Alloc) : Prop where
  rebuilds : Mismatch.ofStates expected (d.apply pre) = []
  names (address : Address) : address ∈ d.keys ↔
    ¬Option.Rel Account.Same (pre.get? address) (expected.get? address)

lemma Mismatch.ofAddress_eq_nil_iff {e o : Alloc} {address : Address} :
    ofAddress e o address = [] ↔ Option.Rel Account.Same (e.get? address) (o.get? address) := by
  unfold ofAddress
  cases e.get? address <;> cases o.get? address <;> simp [ofAccounts_eq_nil_iff]

lemma AllocDiff.explains_between {pre expected observed : Alloc}
    (h : Mismatch.ofStates expected observed = []) :
    (AllocDiff.between pre observed).Explains pre expected := by
  have hsame := Mismatch.ofStates_eq_nil_iff.mp h
  refine ⟨?_, fun address => ?_⟩
  · rw [Mismatch.ofStates_congr (.refl expected) (apply_between_same pre observed), h]
  · rw [mem_keys_between_iff, ← named_iff, ← Mismatch.ofStates_congr (.refl pre) hsame, named_iff,
      Ne, Mismatch.ofAddress_eq_nil_iff]

/-- If the fixture has passed and expects more than a root, changes are reported with it, and
they explain the state that it expects. -/
def CaseResult.Explained (pre : Alloc) (f : Fixture) (r : CaseResult) : Prop :=
  r.isPass → ∀ post expected, f.expectedPost? = some post → post.state? pre = some expected →
    ∃ d, r.postDiff = some d ∧ d.Explains pre expected

namespace PayloadRun

variable {σ : Type} {terms : Terms} {f : Fixture} {pre expected : Alloc} {target : EngineTarget σ}

variable (terms f target) in
lemma arrive_keeps {I : σ → Prop} (keeps : ∀ k, (target.request k).Keeps I) {m : Moment σ}
    (hm : I m.state) : I ((arrive terms f target).run.run m).2.state := by
  have watched : Watched terms target (arrive terms f target)
      (arrive terms.uncancelled f target) := by
    refine .bind (watched_checkGenesis terms f fun _ => target) fun _ => ?_
    refine .bind (watched_extend terms f (fun _ => target) f.payloads 0) fun _ => ?_
    exact .bind (watched_ask terms _ none (watched_call terms (fun _ => target) none .head))
      fun _ => .lift _
  exact watched.keeps (.of_keeps fun _ => keeps) m hm

lemma steps_of_pass {m : Moment σ} (h : (run terms f pre target m).1.isPass) :
    (steps terms f pre target).run.run m = (.ok (), (run terms f pre target m).2) := by
  rcases hsteps : (steps terms f pre target).run.run m with ⟨failure | ⟨⟩, m'⟩
  · rw [run, hsteps] at h
    cases h
  · rw [run, hsteps]

lemma answer_of_ask {α : Type} {index : Option Nat} {c : Call σ (FaultOr α)} {a : α}
    {m m' : Moment σ} (h : (ask terms index c).run.run m = (.ok a, m')) :
    ∃ limit, (c limit m.state).answer = some (.ok a) ∧ m'.state = (c limit m.state).state := by
  have hdone : m.guarded terms.cancelAt terms.callTimeout c = (.done (.ok a), m') := by
    rw [run_ask_guarded] at h
    rcases hguarded : m.guarded terms.cancelAt terms.callTimeout c with ⟨(e | a') | _ | _, m''⟩ <;>
      rw [hguarded] at h <;> cases h
    rfl
  rcases m.guarded_made c terms.cancelAt terms.callTimeout with
    hcancelled | ⟨limit, hstate, hanswer⟩
  · rw [hdone] at hcancelled
    cases hcancelled
  · rw [hdone] at hstate hanswer
    exact ⟨limit, hanswer _ rfl, hstate⟩

lemma read_of_pass {post : ExpectedPost} (expects : f.expectedPost? = some post)
    (known : post.state? pre = some expected) {I : σ → Prop}
    (keeps : ∀ k, (target.request k).Keeps I) {m : Moment σ} (hm : I m.state)
    (h : (run terms f pre target m).1.isPass) :
    ∃ (m₁ : Moment σ) (limit : Option Nat) (observed : Alloc), I m₁.state ∧
      (target.readState (pre.readingHint expected) limit m₁.state).answer = some (.ok observed) ∧
      (run terms f pre target m).2.state =
        (target.readState (pre.readingHint expected) limit m₁.state).state ∧
      Mismatch.ofStates expected observed = [] := by
  have harrived := arrive_keeps terms f target keeps hm
  have hsteps := steps_of_pass h
  rw [steps_eq] at hsteps
  obtain ⟨⟨⟩, m₁, harrive, hpost⟩ := run_bind_eq_ok.mp hsteps
  rw [harrive] at harrived
  rw [checkPost_of_state expects known, checkState] at hpost
  obtain ⟨observed, m₂, hask, hjudge⟩ := run_bind_eq_ok.mp hpost
  obtain ⟨hjudge, hend⟩ := run_lift_eq_ok.mp hjudge
  obtain ⟨limit, hanswer, hstate⟩ := answer_of_ask hask
  exact ⟨m₁, limit, observed, harrived, hanswer, hend ▸ hstate, judgeState_eq_ok.mp hjudge⟩

end PayloadRun

namespace PayloadGroup

variable {ω σ : Type} {g : PayloadGroup ω σ}

lemma expectedState?_eq {pre expected : Alloc} {f : Fixture} {post : ExpectedPost}
    (expects : f.expectedPost? = some post) (known : post.state? pre = some expected) :
    expectedState? pre f = some expected := by
  unfold expectedState?
  rw [expects]
  cases post <;> exact known

/-- The second reading of a fixture that has passed gives what the first gave. -/
lemma runMember_explained (repeats : g.launcher.Repeats) (member : Member) {m : Moment (ω × σ)}
    (serves : g.launcher.Serves g.spec m.state) :
    (g.runMember member m).1.2.Explained g.pre member.fixture := by
  intro hpass post expected expects known
  by_cases hjudge : (g.judge member.fixture m).1.isPass
  · rw [run_runMember, if_pos hjudge]
    unfold judge at hjudge ⊢
    by_cases hgenesis : member.fixture.genesisHash = g.genesisHash
    · rw [if_pos hgenesis] at hjudge ⊢
      obtain ⟨m₁, limit, observed, hserves, hanswer, hstate, hagrees⟩ :=
        PayloadRun.read_of_pass expects known Launcher.keeps_serves serves hjudge
      have hrepeats := repeats _ _ hserves
      have hagain := hrepeats.readState_again hanswer
      rw [← hstate] at hagain
      refine ⟨_, ?_, AllocDiff.explains_between hagrees⟩
      simp only [observedDiff, expectedState?_eq expects known, Moment.unguarded, hagain]
    · rw [if_neg hgenesis] at hjudge
      cases hjudge
  · rw [run_runMember, if_neg hjudge] at hpass
    exact absurd hpass hjudge

lemma explained_of_failed (members : List Member) (failure : Failure) :
    List.Forall₂ (fun member r => r.Explained g.pre member.fixture) members
      (members.map fun member => member.failed failure) :=
  List.forall₂_map_right_iff.mpr (List.forall₂_same.mpr fun _ _ => nofun)

lemma serves_start (m : Moment ω) :
    ∀ s ∈ (g.start.run m).1, g.launcher.Serves g.spec ((g.start.run m).2.state, s) := by
  intro s hs
  by_cases hstarts : g.launcher.Starts g.spec m.state
  · obtain ⟨s', answer⟩ := hstarts
    rw [run_start_answered answer] at hs ⊢
    cases hs
    exact .started answer
  · rw [run_start_failed hstarts] at hs
    cases hs

lemma runFrom_explained (repeats : g.launcher.Repeats) (members : List Member)
    (client : Option σ) (m : Moment ω)
    (serves : ∀ s ∈ client, g.launcher.Serves g.spec (m.state, s)) :
    List.Forall₂ (fun member r => r.Explained g.pre member.fixture) members
      ((g.runFrom members client).run m).1.1 := by
  induction members generalizing client m with
  | nil => exact .nil
  | cons member rest ih =>
    cases client with
    | none => exact explained_of_failed (member :: rest) unavailable
    | some s =>
      have hserves := serves s rfl
      have hexplained := runMember_explained repeats member (m := ⟨m.now, (m.state, s)⟩) hserves
      have hkept :=
        runMember_keeps Launcher.keeps_serves member (m := ⟨m.now, (m.state, s)⟩) hserves
      rcases ran : g.runMember member ⟨m.now, (m.state, s)⟩ with ⟨⟨verdict, result⟩, after⟩
      rw [ran] at hexplained hkept
      by_cases hrest : rest = []
      · subst hrest
        rw [run_runFrom_last ran]
        exact .cons hexplained .nil
      · rcases back : (if verdict.poisonsClient then (false, after) else g.reset after) with
          ⟨isReset, left⟩
        have hleft := back_keeps Launcher.keeps_serves back hkept
        rw [run_runFrom_cons hrest ran back, run_goOn]
        by_cases hcancelled : isCancelled g.terms.cancelAt (aside left).now
        · rw [if_pos hcancelled]
          exact .cons hexplained (explained_of_failed rest _)
        · rw [if_neg hcancelled]
          refine .cons hexplained (ih _ _ ?_)
          -- The client was set back, or another one is started for the next fixture.
          cases isReset with
          | false => exact serves_start _
          | true =>
            rintro s' ⟨⟩
            exact hleft

/-- Each fixture of a group that passes is reported with changes that explain the state which it
expects, unless it gives no more than a root: they make that state out of the one of the group,
and name the accounts in which the two differ by more than slots that hold zero. -/
theorem run_explained (terms : Terms) (launcher : Launcher ω σ) (repeats : launcher.Repeats)
    (group : Group) (members : List Member) (m : Moment ω) :
    List.Forall₂ (fun member r => r.Explained group.pre member.fixture) members
      (run terms launcher group members m).1 := by
  cases members with
  | nil => exact .nil
  | cons first rest =>
    let g := ofGroup terms launcher group first (rest.length + 1)
    have hserves := serves_start (g := g) m
    rcases hstart : g.start.run m with ⟨live, m₁⟩
    rcases hloop : (g.runFrom (first :: rest) live).run m₁ with ⟨⟨results, last⟩, m₂⟩
    rw [hstart] at hserves
    have hexplained := runFrom_explained repeats (first :: rest) live m₁ hserves
    rw [hloop] at hexplained
    have hrun : run terms launcher group (first :: rest) m = (g.session (first :: rest)).run m :=
      rfl
    rw [hrun, run_session hstart hloop]
    exact hexplained

end PayloadGroup

lemma SampleLauncher.client_repeats (s : SampleLauncher × SampleClient) :
    SampleLauncher.client.Repeats s := by
  intro readings s' hreads
  have hsame : s' = s ∧ ∀ r ∈ readings,
      (SampleLauncher.client.account r.address r.keys none s).answer = some (.ok r.told) := by
    induction hreads with
    | nil => exact ⟨rfl, List.forall_mem_nil _⟩
    | snoc _ answer ih =>
      obtain ⟨rfl, hearlier⟩ := ih
      exact ⟨rfl, List.forall_mem_append.mpr ⟨hearlier, List.forall_mem_singleton.mpr answer⟩⟩
  obtain ⟨rfl, hearlier⟩ := hsame
  exact hearlier

/-- A fixture with one payload, which sets a slot of the one account that the group has. -/
theorem PayloadGroup.run_explained_slot :
    let launcher : Launcher SampleLauncher SampleClient :=
      { SampleLauncher.launcher with
        start := fun _ => .instantly fun l =>
          (.ok (PayloadRun.clientOf (PayloadRun.oneAccount [(5, 7)])).2, l) }
    let group : Group := ⟨PayloadRun.oneAccount [], .ofHeader Sample.genesis, .cancun, [], 0⟩
    let member : Member := ⟨"a.json", "first",
      PayloadRun.onePayload.ending (some (PayloadRun.oneAccount [(5, 7)])) none⟩
    let ended := (run { mapper := .empty, client := "client" } launcher group [member] ⟨0, {}⟩).1
    launcher.Repeats ∧ ∃ r d, ended = [r] ∧ r.isPass ∧ r.postDiff = some d ∧
      d.Explains (PayloadRun.oneAccount []) (PayloadRun.oneAccount [(5, 7)]) ∧
      d.keys = [.replicate 0xcc] := by
  intro launcher group member ended
  have repeats : launcher.Repeats := fun _ p _ => SampleLauncher.client_repeats p
  have hended : ended.map (fun r => (r.isPass, r.postDiff.map (·.keys))) =
      [(true, some [.replicate 0xcc])] := by decide +kernel
  obtain ⟨r, _, hexplained, hnil, hr⟩ := List.forall₂_cons_left_iff.mp
    (run_explained { mapper := .empty, client := "client" } launcher repeats group [member] ⟨0, {}⟩)
  cases hnil
  have hsingle : ended = [r] := hr
  rw [hsingle] at hended
  obtain ⟨hpass, hkeys⟩ := Prod.mk.inj (List.singleton_inj.mp hended)
  obtain ⟨d, hd, explains⟩ := hexplained hpass (.full (PayloadRun.oneAccount [(5, 7)])) _ rfl rfl
  rw [hd] at hkeys
  exact ⟨repeats, r, d, hsingle, hpass, hd, explains, Option.some.inj hkeys⟩

end ChainConformance
