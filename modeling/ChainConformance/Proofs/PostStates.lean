import ChainConformance.Proofs.PayloadVerdict
import ChainConformance.Proofs.StateForms
import ChainConformance.Sample.Client
import ChainConformance.Sample.Fixtures

/-!
# Post-states in full and as changes

A fixture says what the state at its end must be, in full or as changes to the state of its
group. A client that tells of its accounts what they hold gives both forms the same verdict,
unless a slot that nothing but the full state writes down holds something at the client.
-/

namespace ChainConformance

section Outline

variable {σ α β : Type}

def Attempt.outline (a : Attempt σ (FaultOr α)) : Attempt σ (FaultOr Unit) :=
  ⟨a.answer.map (·.map fun _ => ()), a.elapsed, a.state⟩

lemma outline_bind {c d : Call σ (FaultOr α)} {next next' : FaultOr α → Call σ (FaultOr β)}
    {limit : Option Nat} {s : σ} (h : (c limit s).outline = (d limit s).outline)
    (hnext : ∀ a b, a.map (fun _ => ()) = b.map (fun _ => ()) →
      ∀ limit s, (next a limit s).outline = (next' b limit s).outline) :
    ((c >>= next) limit s).outline = ((d >>= next') limit s).outline := by
  obtain ⟨hanswer, helapsed, hstate⟩ := Attempt.mk.inj h
  cases hc : (c limit s).answer with
  | none =>
    have hd : (d limit s).answer = none := by
      rw [hc] at hanswer
      exact Option.map_eq_none_iff.mp hanswer.symm
    rw [Call.bind_cut hc, Call.bind_cut hd, helapsed, hstate]
  | some a =>
    obtain ⟨b, hd, hab⟩ : ∃ b, (d limit s).answer = some b ∧
        b.map (fun _ => ()) = a.map (fun _ => ()) := by
      rw [hc] at hanswer
      exact Option.map_eq_some_iff.mp hanswer.symm
    obtain ⟨hanswer', helapsed', hstate'⟩ := Attempt.mk.inj
      (hnext a b hab.symm (limit.map (· - (d limit s).elapsed)) (d limit s).state)
    rw [Call.bind_answered hc, Call.bind_answered hd, helapsed, hstate]
    simp only [Attempt.outline, hanswer', helapsed', hstate']

lemma guarded_cases (α : Type) (stop : Option Nat) (timeout : Nat) (m : Moment σ) :
    (∀ c : Call σ α, m.guarded stop timeout c = (.cancelled, m)) ∨
    ∃ limit now cut, (∀ a, cut ≠ .done a) ∧ ∀ c : Call σ α, m.guarded stop timeout c =
      match (c (some limit) m.state).answer with
      | some a => (.done a, m.after (c (some limit) m.state))
      | none => (cut, ⟨now, (c (some limit) m.state).state⟩) := by
  cases stop with
  | none => exact .inr ⟨timeout, m.now + timeout, .timedOut, nofun, fun _ => rfl⟩
  | some stop =>
    by_cases hover : stop ≤ m.now
    · exact .inl fun c => if_pos hover
    · by_cases hshort : timeout < stop - m.now
      · exact .inr ⟨timeout, m.now + timeout, .timedOut, nofun, fun c =>
          (if_neg hover).trans (if_pos hshort)⟩
      · exact .inr ⟨stop - m.now - 1, stop, .cancelled, nofun, fun c =>
          (if_neg hover).trans (if_neg hshort)⟩

lemma guarded_of_outline {c d : Call σ (FaultOr α)}
    (h : ∀ limit s, (c limit s).outline = (d limit s).outline) (stop : Option Nat)
    (timeout : Nat) (m : Moment σ) :
    (∃ limit a b m', m.guarded stop timeout c = (.done (.ok a), m') ∧
      m.guarded stop timeout d = (.done (.ok b), m') ∧
      (c limit m.state).answer = some (.ok a) ∧ (d limit m.state).answer = some (.ok b)) ∨
    m.guarded stop timeout c = m.guarded stop timeout d ∧
      ∀ a, (m.guarded stop timeout c).1 ≠ .done (.ok a) := by
  rcases guarded_cases (FaultOr α) stop timeout m with hover | ⟨limit, now, cut, hcut, hmade⟩
  · refine .inr ⟨by rw [hover, hover], fun a => ?_⟩
    rw [hover]
    nofun
  · obtain ⟨hanswer, helapsed, hstate⟩ := Attempt.mk.inj (h (some limit) m.state)
    rw [hmade, hmade]
    rcases hc : (c (some limit) m.state).answer with _ | e | a <;>
      rcases hd : (d (some limit) m.state).answer with _ | e' | b <;>
      simp only [hc, hd, Option.map_none, Option.map_some, Except.map, reduceCtorEq,
        Option.some.injEq, Except.error.injEq] at hanswer
    · exact .inr ⟨by rw [hstate], fun a => hcut _⟩
    · refine .inr ⟨?_, nofun⟩
      simp only [Moment.after, helapsed, hstate, hanswer]
    · refine .inl ⟨some limit, a, b, m.after (c (some limit) m.state), rfl, ?_, hc, hd⟩
      simp only [Moment.after, helapsed, hstate]

end Outline

/-- What is told of an account: all but the slots that are not asked for. -/
structure Account.Tells (keys : List Word) (whole told : Account) : Prop where
  balance : told.balance = whole.balance
  code : told.code = whole.code
  nonce : told.nonce = whole.nonce
  slot (key : Word) : told.slot key = if key ∈ keys then whole.slot key else 0

/-- A client that has a true state and tells of an account what it is there, if it answers
well. Its state stays the same, and whether and when it answers does not depend on which
slots it is asked for. -/
structure EngineTarget.Faithful {σ : Type} (t : EngineTarget σ) (truth : σ → Alloc) : Prop where
  tells {address : Address} {keys : List Word} {limit : Option Nat} {s : σ}
    {told : Option Account} (h : (t.account address keys limit s).answer = some (.ok told)) :
    Option.Rel (Account.Tells keys) ((truth s).get? address) told
  keeps (address : Address) (keys : List Word) (limit : Option Nat) (s : σ) :
    truth (t.account address keys limit s).state = truth s
  indifferent (address : Address) (keys keys' : List Word) (limit : Option Nat) (s : σ) :
    (t.account address keys limit s).outline = (t.account address keys' limit s).outline

/-- A client that has a true state and tells of an account what it is there. -/
structure EngineTarget.Truthful {σ : Type} (t : EngineTarget σ) (truth : σ → Alloc) : Prop where
  tells {address : Address} {keys : List Word} {limit : Option Nat} {s : σ}
    {told : Option Account} (h : (t.account address keys limit s).answer = some (.ok told)) :
    Option.Rel (Account.Tells keys) ((truth s).get? address) told
  keeps (address : Address) (keys : List Word) (limit : Option Nat) (s : σ) :
    truth (t.account address keys limit s).state = truth s

lemma EngineTarget.Faithful.truthful {σ : Type} {t : EngineTarget σ} {truth : σ → Alloc}
    (h : t.Faithful truth) : t.Truthful truth := ⟨h.tells, h.keeps⟩

/-- A client that tells of an account what it is in the given state, as long as something holds
of the client that stays so while it is asked. -/
structure EngineTarget.Reflects {σ : Type} (t : EngineTarget σ) (I : σ → Prop) (whole : Alloc) :
    Prop where
  tells {address : Address} {keys : List Word} {limit : Option Nat} {s : σ}
    {told : Option Account} (hs : I s)
    (h : (t.account address keys limit s).answer = some (.ok told)) :
    Option.Rel (Account.Tells keys) (whole.get? address) told
  keeps (address : Address) (keys : List Word) (limit : Option Nat) {s : σ} (hs : I s) :
    I (t.account address keys limit s).state

lemma EngineTarget.Truthful.reflects {σ : Type} {t : EngineTarget σ} {truth : σ → Alloc}
    (h : t.Truthful truth) (whole : Alloc) : t.Reflects (truth · = whole) whole where
  tells hs htold := hs ▸ h.tells htold
  keeps address keys limit _ hs := (h.keeps address keys limit _).trans hs

namespace Alloc

/-- What is told of the accounts that a state names, of each of them the slots that are
written down there. -/
def Tells (asked whole told : Alloc) : Prop :=
  ∀ address, match asked.get? address with
    | some a => Option.Rel (Account.Tells a.storage.keys) (whole.get? address)
        (told.get? address)
    | none => told.get? address = none

def slot (s : Alloc) (address : Address) (key : Word) : Word :=
  ((s.get? address).map (·.slot key)).getD 0

variable {asked asked' whole told told' : Alloc}

lemma names_iff_mem_keys {address : Address} {a : Account} (ha : asked.get? address = some a)
    {key : Word} : asked.Names address key ↔ key ∈ a.storage.keys := by
  rw [OrderedMap.mem_keys_iff, ← Option.isSome_iff_exists]
  simp [Names, ha]

lemma Tells.slot_eq (h : Tells asked whole told) {address : Address} {a : Account}
    (ha : told.get? address = some a) (key : Word) :
    (asked.Names address key → a.slot key = whole.slot address key) ∧
      (¬asked.Names address key → a.slot key = 0) := by
  have haddress := h address
  cases hasked : asked.get? address with
  | none => simp [hasked, ha] at haddress
  | some b =>
    rw [hasked, ha] at haddress
    generalize hw : whole.get? address = w at haddress
    cases haddress with
    | @some w _ htells =>
      rw [names_iff_mem_keys hasked, htells.slot, slot, hw]
      exact ⟨fun hkey => if_pos hkey, fun hkey => if_neg hkey⟩

lemma Tells.exists_of_names (h : Tells asked whole told) {address : Address} {key : Word}
    (hname : asked.Names address key) (hslot : whole.slot address key ≠ 0) :
    ∃ a, told.get? address = some a ∧ a.slot key = whole.slot address key := by
  obtain ⟨b, hb, _⟩ := id hname
  have haddress := h address
  rw [hb] at haddress
  generalize hx : told.get? address = x at haddress
  generalize hw : whole.get? address = w at haddress
  cases haddress with
  | none => simp [slot, hw] at hslot
  | @some _ a _ => exact ⟨a, rfl, (h.slot_eq hx key).1 hname⟩

lemma Tells.same (h : Tells asked whole told) (h' : Tells asked' whole told')
    (haddress : ∀ address, (asked.get? address).isSome ↔ (asked'.get? address).isSome)
    (hslot : ∀ address key, whole.slot address key ≠ 0 →
      (asked.Names address key ↔ asked'.Names address key)) : told.Same told' := by
  intro address
  have htold := h address
  have htold' := h' address
  have hboth := haddress address
  cases hasked : asked.get? address with
  | none =>
    have hasked' : asked'.get? address = none := by simpa [hasked] using hboth
    rw [hasked] at htold
    rw [hasked'] at htold'
    rw [show told.get? address = none from htold, show told'.get? address = none from htold']
    exact .none
  | some a =>
    obtain ⟨a', hasked'⟩ : ∃ a', asked'.get? address = some a' :=
      Option.isSome_iff_exists.mp (by simpa [hasked] using hboth)
    rw [hasked] at htold
    rw [hasked'] at htold'
    generalize hx : told.get? address = x at htold
    generalize hy : told'.get? address = y at htold'
    generalize whole.get? address = w at htold htold'
    cases htold with
    | none =>
      cases htold'
      exact .none
    | @some w x htells =>
      cases htold' with
      | @some _ y htells' =>
        refine .some ⟨htells.balance.trans htells'.balance.symm,
          htells.code.trans htells'.code.symm, htells.nonce.trans htells'.nonce.symm,
          fun key => ?_⟩
        obtain ⟨hnamed, hunnamed⟩ := h.slot_eq hx key
        obtain ⟨hnamed', hunnamed'⟩ := h'.slot_eq hy key
        by_cases hname : asked.Names address key <;> by_cases hname' : asked'.Names address key
        · rw [hnamed hname, hnamed' hname']
        · rw [hnamed hname, hunnamed' hname']
          by_contra hzero
          exact hname' ((hslot address key hzero).mp hname)
        · rw [hunnamed hname, hnamed' hname']
          by_contra hzero
          exact hname ((hslot address key (Ne.symm hzero)).mpr hname')
        · rw [hunnamed hname, hunnamed' hname']

end Alloc

def SampleClient.headAlloc (c : SampleClient) : Alloc :=
  ((c.blocks.get? c.head.hash).map (·.alloc)).getD .empty

lemma SampleLauncher.client_faithful :
    SampleLauncher.client.Faithful fun s => s.2.headAlloc where
  tells := by
    rintro address keys limit ⟨l, c⟩ told h
    have hanswer : c.account address keys = .ok told := Option.some.inj h
    unfold SampleClient.account at hanswer
    unfold SampleClient.headAlloc
    cases hblock : c.blocks.get? c.head.hash with
    | none =>
      rw [hblock] at hanswer
      cases hanswer
    | some b =>
      rw [hblock] at hanswer
      cases hanswer
      change Option.Rel _ (b.alloc.get? address) _
      cases b.alloc.get? address with
      | none => exact .none
      | some a =>
        refine .some ⟨rfl, rfl, rfl, fun key => ?_⟩
        rw [Account.slot, OrderedMap.get?_ofList_map]
        split <;> rfl
  keeps _ _ _ _ := rfl
  indifferent := by
    rintro address keys keys' limit ⟨l, c⟩
    have hanswer : (c.account address keys).map (fun _ => ()) =
        (c.account address keys').map fun _ => () := by
      unfold SampleClient.account
      cases c.blocks.get? c.head.hash <;> rfl
    exact congrArg (fun a => Attempt.mk (some a) 0 (l, c)) hanswer

namespace EngineTarget.Faithful

variable {σ : Type} {t : EngineTarget σ} {truth : σ → Alloc}

lemma outline_readAccounts (hf : t.Faithful truth) {asked asked' : List (Address × Account)}
    (h : asked.map (·.1) = asked'.map (·.1)) (read read' : Alloc) (limit : Option Nat) (s : σ) :
    (t.readAccounts asked read limit s).outline =
      (t.readAccounts asked' read' limit s).outline := by
  induction asked generalizing asked' read read' limit s with
  | nil =>
    cases List.map_eq_nil_iff.mp h.symm
    rfl
  | cons e rest ih =>
    obtain ⟨address, account⟩ := e
    cases asked' with
    | nil => cases h
    | cons e' rest' =>
      obtain ⟨address', account'⟩ := e'
      obtain ⟨haddress, hrest⟩ := List.cons.inj h
      cases haddress
      refine outline_bind (hf.indifferent ..) fun a b hab limit s => ?_
      rcases a with e | _ | a <;> rcases b with e' | _ | b <;>
        simp only [Except.map, reduceCtorEq, Except.error.injEq] at hab
      · cases hab
        rfl
      all_goals exact ih hrest ..

lemma outline_readState (hf : t.Faithful truth) {asked asked' : Alloc}
    (h : ∀ address, (asked.get? address).isSome ↔ (asked'.get? address).isSome)
    (limit : Option Nat) (s : σ) :
    (t.readState asked limit s).outline = (t.readState asked' limit s).outline := by
  refine hf.outline_readAccounts (OrderedMap.keys_eq_of_mem_iff fun address => ?_) _ _ limit s
  rw [OrderedMap.mem_keys_iff, OrderedMap.mem_keys_iff, ← Option.isSome_iff_exists,
    ← Option.isSome_iff_exists, h]

end EngineTarget.Faithful

section Readings

variable {σ : Type} {t : EngineTarget σ} {I : σ → Prop}

lemma EngineTarget.readAccounts_gives {R : Address → List Word → Option Account → Prop}
    (tells : ∀ {address keys limit s told}, I s →
      (t.account address keys limit s).answer = some (.ok told) → R address keys told)
    (keeps : ∀ address keys limit {s}, I s → I (t.account address keys limit s).state)
    {asked : List (Address × Account)} (hnodup : (asked.map (·.1)).Nodup) {read : Alloc}
    (hfresh : ∀ address ∈ asked.map (·.1), read.get? address = none) {limit : Option Nat} {s : σ}
    (hs : I s) {told : Alloc} (h : (t.readAccounts asked read limit s).answer = some (.ok told))
    (address : Address) : match OrderedMap.find address asked with
      | some a => R address a.storage.keys (told.get? address)
      | none => told.get? address = read.get? address := by
  induction asked generalizing read limit s with
  | nil =>
    cases h
    rfl
  | cons e rest ih =>
    obtain ⟨address', account⟩ := e
    obtain ⟨hnew, hrest⟩ := List.nodup_cons.mp hnodup
    obtain ⟨hfirst, hfresh⟩ := List.forall_mem_cons.mp hfresh
    let r := t.account address' account.storage.keys limit s
    -- The rest is read into what is there with the answer to the first.
    obtain ⟨answer, hanswer, hothers⟩ : ∃ answer, r.answer = some (.ok answer) ∧
        (t.readAccounts rest (answer.elim read (read.insert address')) (limit.map (· - r.elapsed))
          r.state).answer = some (.ok told) := by
      rw [EngineTarget.readAccounts] at h
      rcases hr : r.answer with _ | e | answer
      · rw [Call.bind_cut hr] at h
        cases h
      · rw [Call.bind_answered hr] at h
        cases h
      · rw [Call.bind_answered hr] at h
        exact ⟨answer, rfl, by cases answer <;> exact h⟩
    have hread : ∀ a ≠ address', (answer.elim read (read.insert address')).get? a =
        read.get? a := by
      intro a ha
      cases answer <;> simp [ha]
    have hrest := ih hrest (fun a ha => by
      rw [hread a (fun heq => hnew (heq ▸ ha)), hfresh a ha]) (keeps _ _ _ hs) hothers
    by_cases haddress : address = address'
    · subst haddress
      rw [OrderedMap.find_eq_none_iff.mpr hnew] at hrest
      rw [OrderedMap.find, if_pos rfl]
      have htold : told.get? address = answer := by
        rw [show told.get? address = _ from hrest]
        cases answer with
        | none => exact hfirst
        | some a => simp
      simp only [htold]
      exact tells hs hanswer
    · rw [OrderedMap.find, if_neg haddress]
      rwa [hread address haddress] at hrest

lemma EngineTarget.readAccounts_answers
    (answers : ∀ address keys {s}, I s →
      ∃ told, (t.account address keys none s).answer = some (.ok told))
    (keeps : ∀ address keys limit {s}, I s → I (t.account address keys limit s).state)
    (asked : List (Address × Account)) (read : Alloc) {s : σ} (hs : I s) :
    ∃ told, (t.readAccounts asked read none s).answer = some (.ok told) := by
  induction asked generalizing read s with
  | nil => exact ⟨read, rfl⟩
  | cons e rest ih =>
    obtain ⟨address, account⟩ := e
    obtain ⟨answer, hanswer⟩ := answers address account.storage.keys hs
    have hkept := keeps address account.storage.keys none hs
    rw [EngineTarget.readAccounts, Call.bind_answered hanswer]
    cases answer with
    | none => exact ih read hkept
    | some a => exact ih (read.insert address a) hkept

end Readings

namespace EngineTarget.Reflects

variable {σ : Type} {t : EngineTarget σ} {I : σ → Prop} {whole : Alloc}

lemma readState_tells (hf : t.Reflects I whole) {asked told : Alloc} {limit : Option Nat} {s : σ}
    (hs : I s) (h : (t.readState asked limit s).answer = some (.ok told)) :
    Alloc.Tells asked whole told := by
  intro address
  exact EngineTarget.readAccounts_gives hf.tells hf.keeps asked.keys_nodup (fun _ _ => rfl) hs h
    address

end EngineTarget.Reflects

lemma EngineTarget.Truthful.readState_tells {σ : Type} {t : EngineTarget σ}
    {truth : σ → Alloc} (hf : t.Truthful truth) {asked told : Alloc} {limit : Option Nat} {s : σ}
    (h : (t.readState asked limit s).answer = some (.ok told)) :
    Alloc.Tells asked (truth s) told := (hf.reflects _).readState_tells rfl h

lemma EngineTarget.Faithful.readState_tells {σ : Type} {t : EngineTarget σ}
    {truth : σ → Alloc} (hf : t.Faithful truth) {asked told : Alloc} {limit : Option Nat} {s : σ}
    (h : (t.readState asked limit s).answer = some (.ok told)) :
    Alloc.Tells asked (truth s) told := hf.truthful.readState_tells h

/-! ### Verdicts -/

namespace Alloc

variable {pre post whole told told' : Alloc}

/-- The two forms of a state are judged alike if and only if the client holds nothing in the
slots that only the full form asks for. -/
lemma judgeState_forms_iff (h : Tells (pre.readingHint post) whole told)
    (h' : Tells (pre.readingHint ((AllocDiff.between pre post).apply pre)) whole told') :
    judgeState post told = judgeState ((AllocDiff.between pre post).apply pre) told' ↔
      ∀ address key, Unasked pre post address key → whole.slot address key = 0 := by
  have hsame : ((AllocDiff.between pre post).apply pre).Same post :=
    AllocDiff.apply_between_same pre post
  rw [judgeState_eq_iff, Mismatch.ofStates_congr hsame (.refl told')]
  have hnames := readingHint_apply_between_names_iff pre post
  constructor
  · intro heq address key hunasked
    obtain ⟨after, hafter, hzero⟩ := hunasked.slot_eq_zero
    by_contra hslot
    have hnamed : (pre.readingHint post).Names address key := by
      rw [readingHint_names_iff]
      obtain ⟨_, after, _, hafter, _, hpresent, _⟩ := hunasked
      exact .inr ⟨after, hafter, hpresent⟩
    -- In full the slot is told, and is not zero as it should be.
    obtain ⟨a, ha, hvalue⟩ := h.exists_of_names hnamed hslot
    have hmem : .slot address key 0 (whole.slot address key) ∈ Mismatch.ofStates post told :=
      Mismatch.slot_mem_ofStates_iff.mpr ⟨Ne.symm hslot, ⟨after, hafter, hzero⟩, a, ha, hvalue⟩
    rw [heq, Mismatch.slot_mem_ofStates_iff] at hmem
    obtain ⟨_, _, b, hb, hvalue'⟩ := hmem
    rw [(h'.slot_eq hb key).2 fun hname => (hnames address key |>.mp hname).2 hunasked] at hvalue'
    exact hslot hvalue'.symm
  · intro hzero
    have htold : told.Same told' := by
      refine h.same h' (fun address => ?_) fun address key hslot => ?_
      · rw [isSome_get?_readingHint, isSome_get?_readingHint, hsame.isSome_iff]
      · rw [hnames]
        exact ⟨fun hname => ⟨hname, fun hunasked => hslot (hzero address key hunasked)⟩, And.left⟩
    exact Mismatch.ofStates_congr (.refl post) htold

end Alloc

/-- The fixture with another end: a state in full, or changes. -/
def Fixture.ending (f : Fixture) (post : Option Alloc) (changes : Option AllocDiff) : Fixture :=
  { f with postState := post, postStateDiff := changes }

namespace PayloadRun

variable {σ : Type} (terms : Terms) (f : Fixture) (target : EngineTarget σ)

/-- The steps of a run up to the end of the chain. -/
def arrive : PayloadStep σ Unit := do
  checkGenesis terms f target
  extend terms f target 0 f.payloads
  judgeHead f.expectedHead (← ask terms none target.head)

lemma steps_eq (pre : Alloc) :
    steps terms f pre target = arrive terms f target >>= fun _ => checkPost terms f pre target := by
  simp only [steps, arrive, bind_assoc]

lemma extend_ending {target : Nat → EngineTarget σ} (post : Option Alloc)
    (changes : Option AllocDiff) (index : Nat) (es : List PayloadEntry) :
    extend terms (f.ending post changes) target index es = extend terms f target index es := by
  induction es generalizing index with
  | nil => rfl
  | cons e rest ih =>
    simp only [extend, ih]
    rfl

lemma arrive_ending (post : Option Alloc) (changes : Option AllocDiff) :
    arrive terms (f.ending post changes) target = arrive terms f target := by
  simp only [arrive, extend_ending]
  rfl

/-- The run comes to the end of its chain at the second moment, and the state can then be read
back. -/
def ReadsBack (pre post : Alloc) (m m₁ : Moment σ) : Prop :=
  (arrive terms f target).run.run m = (.ok (), m₁) ∧
    ∃ told m₂, m₁.guarded terms.cancelAt terms.callTimeout
      (target.readState (pre.readingHint post)) = (.done (.ok told), m₂)

variable {terms f target}

lemma checkState_error {pre expected expected' : Alloc} {m : Moment σ}
    (h : m.guarded terms.cancelAt terms.callTimeout
        (target.readState (pre.readingHint expected)) =
      m.guarded terms.cancelAt terms.callTimeout
        (target.readState (pre.readingHint expected')))
    (hnone : ∀ a, (m.guarded terms.cancelAt terms.callTimeout
      (target.readState (pre.readingHint expected))).1 ≠ .done (.ok a)) :
    (checkState terms target pre expected).run.run m =
      (checkState terms target pre expected').run.run m := by
  rw [checkState, checkState, run_bind, run_bind, run_ask_guarded, run_ask_guarded, ← h]
  rcases hguarded : m.guarded terms.cancelAt terms.callTimeout
      (target.readState (pre.readingHint expected)) with ⟨(e | a) | _ | _, m'⟩
  · rfl
  · rw [hguarded] at hnone
    exact absurd rfl (hnone a)
  · rfl
  · rfl

lemma run_checkState {pre expected told : Alloc} {m m' : Moment σ}
    (h : m.guarded terms.cancelAt terms.callTimeout
      (target.readState (pre.readingHint expected)) = (.done (.ok told), m')) :
    (checkState terms target pre expected).run.run m = (judgeState expected told, m') := by
  rw [checkState, run_bind, run_ask_guarded, h]
  rfl

lemma ofRun_injective {x y : Except Failure Unit} (h : Verdict.ofRun x = Verdict.ofRun y) :
    x = y := by
  rcases x with _ | ⟨⟩ <;> rcases y with _ | ⟨⟩ <;> simp_all [Verdict.ofRun]

/-- A client that tells the truth gives a fixture the same verdict whether the state at its end
is in full or as changes, if and only if, where the state is read back, the client holds nothing
in slots that the full state writes down, as zero, in accounts that do not change. -/
theorem run_forms_iff {truth : σ → Alloc} (hf : target.Faithful truth) (terms : Terms)
    (f : Fixture) (pre post : Alloc) (m : Moment σ) :
    (run terms (f.ending (some post) none) pre target m).1 =
        (run terms (f.ending none (some (AllocDiff.between pre post))) pre target m).1 ↔
      ∀ m₁, ReadsBack terms f target pre post m m₁ → ∀ address key,
        Alloc.Unasked pre post address key → (truth m₁.state).slot address key = 0 := by
  unfold run
  rw [steps_eq, steps_eq, arrive_ending, arrive_ending, run_bind, run_bind]
  rcases harrive : (arrive terms f target).run.run m with ⟨failure | ⟨⟩, m₁⟩
  · refine iff_of_true rfl fun m₁ hreads => ?_
    rw [ReadsBack, harrive] at hreads
    cases hreads.1
  · change Verdict.ofRun ((checkState terms target pre post).run.run m₁).1 =
      Verdict.ofRun ((checkState terms target pre
        ((AllocDiff.between pre post).apply pre)).run.run m₁).1 ↔ _
    have hasked : ∀ address, ((pre.readingHint post).get? address).isSome ↔
        ((pre.readingHint ((AllocDiff.between pre post).apply pre)).get? address).isSome := by
      intro address
      rw [Alloc.isSome_get?_readingHint, Alloc.isSome_get?_readingHint,
        (AllocDiff.apply_between_same pre post).isSome_iff]
    have houtline := hf.outline_readState hasked
    rcases guarded_of_outline houtline terms.cancelAt terms.callTimeout m₁ with
      ⟨limit, told, told', m₂, hdone, hdone', htold, htold'⟩ | ⟨hsame, hnone⟩
    · rw [run_checkState hdone, run_checkState hdone']
      have hjudge := Alloc.judgeState_forms_iff (hf.readState_tells htold)
        (hf.readState_tells htold')
      refine ⟨fun h m' hreads => ?_, fun h => ?_⟩
      · obtain ⟨rfl⟩ : m₁ = m' := congrArg Prod.snd (harrive.symm.trans hreads.1)
        exact hjudge.mp (ofRun_injective h)
      · exact congrArg Verdict.ofRun (hjudge.mpr (h m₁ ⟨harrive, told, m₂, hdone⟩))
    · refine iff_of_true (by rw [checkState_error hsame hnone]) fun m' hreads => ?_
      obtain ⟨rfl⟩ : m₁ = m' := congrArg Prod.snd (harrive.symm.trans hreads.1)
      obtain ⟨_, told, m₂, hdone⟩ := hreads
      rw [hdone] at hnone
      exact absurd rfl (hnone told)

def onePayload : Fixture :=
  { Sample.bare with
    genesis := { Sample.genesis with statedHash := some (.replicate 0x11) }
    pre := none
    preHash := some (.replicate 0x99)
    payloads := [Sample.payload (.replicate 0x11) (.replicate 0x22) 1 none]
    lastBlockHash := .replicate 0x22 }

def oneAccount (slots : List (Word × Word)) : Alloc :=
  OrderedMap.ofList [(.replicate 0xcc, {
    balance := 1, code := [], nonce := 1, storage := OrderedMap.ofList slots })]

def clientOf (changed : Alloc) : SampleLauncher × SampleClient :=
  ({}, {
    head := ⟨.replicate 0x11, 0⟩
    genesis := .replicate 0x11
    blocks := OrderedMap.ofList
      [(.replicate 0x11, ⟨⟨.replicate 0x11, 0, sampleStateRoot⟩, .zero, oneAccount []⟩)]
    changes := OrderedMap.ofList [(.replicate 0x22, changed)] })

theorem run_forms_unset :
    SampleLauncher.client.Faithful (fun s => s.2.headAlloc) ∧
    (∃ m₁, ReadsBack { mapper := .empty, client := "client" } onePayload SampleLauncher.client
      (oneAccount []) (oneAccount [(5, 0)]) ⟨0, clientOf (oneAccount [])⟩ m₁) ∧
    (run { mapper := .empty, client := "client" }
        (onePayload.ending (some (oneAccount [(5, 0)])) none) (oneAccount [])
        SampleLauncher.client ⟨0, clientOf (oneAccount [])⟩).1 =
      (run { mapper := .empty, client := "client" }
        (onePayload.ending none (some (AllocDiff.between (oneAccount []) (oneAccount [(5, 0)]))))
        (oneAccount []) SampleLauncher.client ⟨0, clientOf (oneAccount [])⟩).1 := by
  let m₁ := ((arrive { mapper := .empty, client := "client" } onePayload
    SampleLauncher.client).run.run ⟨0, clientOf (oneAccount [])⟩).2
  have harrive : (arrive { mapper := .empty, client := "client" } onePayload
      SampleLauncher.client).run.run ⟨0, clientOf (oneAccount [])⟩ = (.ok (), m₁) := rfl
  refine ⟨SampleLauncher.client_faithful, ⟨m₁, harrive, _, _, rfl⟩,
    (run_forms_iff SampleLauncher.client_faithful ..).mpr fun m' hreads address key hunasked => ?_⟩
  obtain ⟨rfl⟩ : m₁ = m' := congrArg Prod.snd (harrive.symm.trans hreads.1)
  obtain ⟨before, _, hbefore, _, _, _, habsent⟩ := hunasked
  have htruth : m₁.state.2.headAlloc = oneAccount [] := rfl
  rw [htruth, Alloc.slot, hbefore]
  exact Account.slot_of_absent habsent

/-- A client that tells the truth passes with the changes and fails with the full state: the
slot that should hold zero is read back with the full state alone. -/
theorem run_forms_differ :
    SampleLauncher.client.Faithful (fun s => s.2.headAlloc) ∧
    (onePayload.ending (some (oneAccount [(5, 0)])) none).malformation? = none ∧
    (onePayload.ending none
      (some (AllocDiff.between (oneAccount []) (oneAccount [(5, 0)])))).malformation? = none ∧
    (run { mapper := .empty, client := "client" }
        (onePayload.ending (some (oneAccount [(5, 0)])) none) (oneAccount [])
        SampleLauncher.client ⟨0, clientOf (oneAccount [(5, 7)])⟩).1 ≠ .pass ∧
    (run { mapper := .empty, client := "client" }
        (onePayload.ending none (some (AllocDiff.between (oneAccount []) (oneAccount [(5, 0)]))))
        (oneAccount []) SampleLauncher.client ⟨0, clientOf (oneAccount [(5, 7)])⟩).1 = .pass :=
  ⟨SampleLauncher.client_faithful, rfl, rfl, by decide, rfl⟩

end PayloadRun

end ChainConformance
