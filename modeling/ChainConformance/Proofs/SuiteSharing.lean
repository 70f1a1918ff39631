import ChainConformance.Proofs.InlineGroups
import ChainConformance.Proofs.SharedClient

/-!
# Suites on shared clients

A fixture with a state of its own has the result that it has as the only one of a suite, if
clients can be relied on and the first fixture of its group is one of the same origin. The key of
a group does not tell all that a client is started from: a fixture that differs from the first
in what the key leaves out is run on a client that is not its own.
-/

namespace ChainConformance

open scoped List

def Member.origin? (m : Member) : Option Origin :=
  m.fixture.pre.map fun pre => ⟨m.fixture.network, m.fixture.genesis, pre, m.chainId⟩

lemma PayloadGroup.akin_opened {ω σ : Type} (terms : Terms) (launcher : Launcher ω σ)
    {group : Group} {first member : Member} (hnetwork : group.network = member.fixture.network)
    (hgenesis : member.fixture.genesis = first.fixture.genesis)
    (hchain : member.chainId = first.chainId) (size size' : Nat) :
    (ofGroup terms launcher group first size).Akin
      (ofGroup terms launcher (.opened member.fixture group.pre) member size') := by
  refine ⟨rfl, rfl, rfl, ?_, ?_⟩
  · simp only [ofGroup, Fixture.genesisHash, hgenesis]
  · simp only [ofGroup, Group.opened, ClientSpec.origin, hnetwork, hgenesis, hchain]

namespace EngineSuite

def founder? (fixtures : List Member) (m : Member) : Option Member :=
  fixtures.find? fun other => other.fixture.groupKey? = m.fixture.groupKey?

lemma founder?_of_mem {fixtures : List Member} {k : Hash} {first m : Member}
    {rest : List Member} (hkeyed : keyed fixtures k = first :: rest) (hm : m ∈ first :: rest) :
    founder? fixtures m = some first := by
  have hkey : m.fixture.groupKey? = some k :=
    of_decide_eq_true (List.mem_filter.mp (hkeyed ▸ hm : m ∈ keyed fixtures k)).2
  have hhead : (keyed fixtures k).head? = some first := by rw [hkeyed, List.head?_cons]
  rw [founder?, hkey, ← List.head?_filter]
  exact hhead

section Runs

variable {ω σ : Type} (terms : Terms) (launcher : Launcher ω σ) (files : Files) (root : String)

lemma run_of_key {first : Member} {rest : List Member} {pre : Alloc}
    (hinline : ∀ m ∈ first :: rest, isInline m) (hids : ((first :: rest).map testId).Nodup)
    (hpre : first.fixture.pre = some pre)
    (hkey : ∀ m ∈ rest, m.fixture.groupKey? = first.fixture.groupKey?) (m : Moment ω) :
    (run terms launcher files root { members := first :: rest } m).1 ~
      (PayloadGroup.run terms launcher (.opened first.fixture pre) (first :: rest) m).1 := by
  have hfound := groupKey?_of_pre hpre
  have hkeys : ∀ m ∈ first :: rest, m.fixture.groupKey? = some _ :=
    List.forall_mem_cons.mpr ⟨hfound, fun m hm => (hkey m hm).trans hfound⟩
  have hpres : ∀ m ∈ first :: rest, m.fixture.pre.isSome := fun m hm =>
    pre_of_groupKey? (hkeys m hm)
  obtain ⟨group, hgroups⟩ := inlineGroups_of_key hids hkeys (List.cons_ne_nil _ _)
  have hmem : (group, first :: rest) ∈ inlineGroups (first :: rest) := by
    rw [hgroups]
    exact List.mem_singleton_self _
  obtain ⟨_, _, _, hms, -, hfirst, hnetwork⟩ := mem_inlineGroups hpres hids hmem
  obtain ⟨rfl, rfl⟩ := List.cons.inj hms
  have hsame : PayloadGroup.ofGroup terms launcher group first (rest.length + 1) =
      .ofGroup terms launcher (.opened first.fixture pre) first (rest.length + 1) := by
    rw [hpre] at hfirst
    simp only [PayloadGroup.ofGroup, Group.opened, hnetwork, Option.some.inj hfirst]
  have hrun := run_of_group terms launcher files root { members := first :: rest } hinline
    hgroups m
  simp only [PayloadGroup.run, hsame] at hrun ⊢
  exact hrun

variable {terms launcher}

lemma run_alone_of_gives {group : Group} {first member : Member} {size : Nat} {r : CaseResult}
    (hfirst : first.fixture.pre = some group.pre) (hnetwork : group.network = first.fixture.network)
    (hinline : isInline member) (horigin : member.origin? = first.origin?)
    (h : (PayloadGroup.ofGroup terms launcher group first size).Gives member r) (n : Moment ω) :
    (run terms launcher files root { members := [member] } n).1 = [r] := by
  obtain ⟨hnetworks, hgenesis, hpre, hchain⟩ : member.fixture.network = first.fixture.network ∧
      member.fixture.genesis = first.fixture.genesis ∧
      member.fixture.pre = some group.pre ∧ member.chainId = first.chainId := by
    rw [Member.origin?, Member.origin?, hfirst, Option.map_some] at horigin
    obtain ⟨pre, hpre, heq⟩ := Option.map_eq_some_iff.mp horigin
    obtain ⟨hnetworks, hgenesis, rfl, hchain⟩ := Origin.mk.inj heq
    exact ⟨hnetworks, hgenesis, hpre, hchain⟩
  have akin := PayloadGroup.akin_opened terms launcher (hnetwork.trans hnetworks.symm) hgenesis
    hchain size 1
  have hinlines : ∀ m ∈ [member], isInline m := List.forall_mem_singleton.mpr hinline
  have hperm := run_of_key terms launcher files root hinlines (List.nodup_singleton _) hpre
    (List.forall_mem_nil _) n
  have hgives := h _ akin n
  change (PayloadGroup.run terms launcher _ [member] n).1 = [r] at hgives
  rw [hgives] at hperm
  exact List.perm_singleton.mp hperm

variable {R : ω × σ → ω × σ → Prop}

lemma run_second_of_gives (determined : launcher.Determined R) (hc : terms.cancelAt = none)
    {group : Group} {first member : Member} {size : Nat} {r : CaseResult}
    (hfirst : first.fixture.pre = some group.pre) (hnetwork : group.network = first.fixture.network)
    (hinline : ∀ m ∈ [first, member], isInline m) (hids : ([first, member].map testId).Nodup)
    (hkey : member.fixture.groupKey? = first.fixture.groupKey?)
    (h : (PayloadGroup.ofGroup terms launcher group first size).Gives member r) (n : Moment ω) :
    ∃ r₁, (run terms launcher files root { members := [first, member] } n).1 ~ [r₁, r] := by
  have akin : (PayloadGroup.ofGroup terms launcher group first size).Akin
      (.ofGroup terms launcher (.opened first.fixture group.pre) first 2) :=
    PayloadGroup.akin_opened terms launcher hnetwork rfl rfl size 2
  have hperm := run_of_key terms launcher files root hinline hids hfirst
    (List.forall_mem_singleton.mpr hkey) n
  have hgives := PayloadGroup.run_gives terms launcher determined hc
    (.opened first.fixture group.pre) first [member] n
  obtain ⟨r₁, _, -, hsecond, hresults⟩ := List.forall₂_cons_left_iff.mp hgives
  obtain ⟨r₂, _, hgive, hnil, rfl⟩ := List.forall₂_cons_left_iff.mp hsecond
  cases List.forall₂_nil_left_iff.mp hnil
  rw [hresults, ← h.unique hgive akin n.state] at hperm
  exact ⟨r₁, hperm⟩

variable (terms launcher)

/-- The result of a fixture whose group is founded by another one: it depends on these two. -/
structure DependsOn (founder member : Member) (result : CaseResult) : Prop where
  title : result.title = member.title
  alone : member.origin? = founder.origin? → ∀ n,
    (run terms launcher files root { members := [member] } n).1 = [result]
  second : member ≠ founder → ∀ n, ∃ other,
    (run terms launcher files root { members := [founder, member] } n).1 ~ [other, result]
  foreign : member.fixture.genesisHash ≠ founder.fixture.genesisHash →
    result = member.failed PayloadGroup.foreignGenesis ∨
      result = member.failed PayloadGroup.unavailable

/-- The result of one of the given fixtures depends on no other than the first of its group. -/
def Unswayed (fixtures : List Member) (member : Member) (result : CaseResult) : Prop :=
  ∃ founder, founder? fixtures member = some founder ∧
    DependsOn terms launcher files root founder member result

variable {terms launcher}

/-- In a group, whenever it is run, each fixture has a result that depends on no other than the
first one. -/
lemma unswayed_of_group (determined : launcher.Determined R) (hc : terms.cancelAt = none)
    {fixtures : List Member} (hinline : ∀ m ∈ fixtures, isInline m)
    (hvalid : ∀ m ∈ fixtures, m.fixture.malformation? = none) (hids : (fixtures.map testId).Nodup)
    {group : Group} {members : List Member} (hmem : (group, members) ∈ inlineGroups fixtures)
    (start : Moment ω) :
    List.Forall₂ (Unswayed terms launcher files root fixtures) members
      (PayloadGroup.run terms launcher group members start).1 := by
  have hpres : ∀ m ∈ fixtures, m.fixture.pre.isSome := fun m hm =>
    pre_isSome_of_isInline (hvalid m hm) (hinline m hm)
  obtain ⟨k, first, rest, rfl, hkeyed, hfirst, hnetwork⟩ := mem_inlineGroups hpres hids hmem
  have hgives := PayloadGroup.run_gives terms launcher determined hc group first rest start
  have hin : ∀ m ∈ first :: rest, m ∈ first :: rest := fun _ hm => hm
  refine ((List.forall₂_and_left _ _).mpr ⟨hin, hgives⟩).imp ?_
  rintro member result ⟨hmember, hgive⟩
  have hkept (m : Member) (hm : m ∈ first :: rest) : isInline m ∧ m.fixture.groupKey? = some k := by
    have hmem : m ∈ keyed fixtures k := hkeyed ▸ hm
    exact ⟨hinline m (List.mem_filter.mp hmem).1, of_decide_eq_true (List.mem_filter.mp hmem).2⟩
  -- The group has all fixtures with its key, in their order.
  have hsub : first :: rest <+ fixtures := hkeyed ▸ List.filter_sublist
  obtain ⟨hfounder, hfounderKey⟩ := hkept first List.mem_cons_self
  obtain ⟨hinlineMember, hkey⟩ := hkept member hmember
  refine ⟨first, founder?_of_mem hkeyed hmember, hgive.title start.state, fun horigin n => ?_,
    fun hne n => ?_, fun hforeign => hgive.of_foreign start.state hforeign⟩
  · exact run_alone_of_gives files root hfirst hnetwork hinlineMember horigin hgive n
  · have hrest : [first, member] <+ first :: rest :=
      (List.singleton_sublist.mpr ((List.mem_cons.mp hmember).resolve_left hne)).cons_cons first
    exact run_second_of_gives files root determined hc hfirst hnetwork
      (List.forall_mem_cons.mpr ⟨hfounder, List.forall_mem_singleton.mpr hinlineMember⟩)
      (hids.sublist ((hrest.trans hsub).map testId)) (hkey.trans hfounderKey.symm) hgive n

/-- If clients are determined by what they are started from and are like new ones once they are
set back, and if nothing cancels the run, each fixture has one result, which depends on it and on
the first fixture of its group. It is the result that the fixture has alone, if this first one is
of the same origin; and a fixture with another genesis has failed. -/
theorem run_as_alone (determined : launcher.Determined R) (hc : terms.cancelAt = none)
    (cases : Cases) (hinline : ∀ m ∈ cases.members, isInline m)
    (hvalid : ∀ m ∈ cases.members, m.fixture.malformation? = none)
    (hids : (cases.members.map testId).Nodup) (m : Moment ω) :
    ∃ results, (run terms launcher files root cases m).1 ~ cases.settled ++ results ∧
      List.Forall₂ (Unswayed terms launcher files root cases.members) cases.members results := by
  have hpres : ∀ m ∈ cases.members, m.fixture.pre.isSome := fun m hm =>
    pre_isSome_of_isInline (hvalid m hm) (hinline m hm)
  obtain ⟨batches, hbatches, hreport⟩ := run_inline terms launcher files root cases hinline m
  have hin : ∀ g ∈ inlineGroups cases.members, g ∈ inlineGroups cases.members := fun _ hg => hg
  have hall : List.Forall₂ (List.Forall₂ (Unswayed terms launcher files root cases.members))
      ((inlineGroups cases.members).map (·.2)) batches := by
    refine List.forall₂_map_left_iff.mpr (((List.forall₂_and_left _ _).mpr ⟨hin, hbatches⟩).imp ?_)
    rintro ⟨group, members⟩ _ ⟨hmem, start, rfl⟩
    exact unswayed_of_group files root determined hc hinline hvalid hids hmem start
  have hmembers : cases.members ~ ((inlineGroups cases.members).map (·.2)).flatten := by
    rw [← List.flatMap_def]
    exact (inlineGroups_members_perm hpres hids).symm
  obtain ⟨results, hresults, hperm⟩ := List.perm_comp_forall₂ hmembers (List.rel_flatten hall)
  exact ⟨results, hreport.trans (hperm.symm.append_left _), hresults⟩

end Runs

/-- A launcher of clients that stay at their genesis block. They refuse all payloads or accept
all of them, as their origin has it. -/
def steadfast (refuses : Origin → Bool) : Launcher Unit Origin where
  start spec := .instantly fun w => (.ok spec.origin, w)
  stop _ := .instantly fun w => (.ok (), w)
  client := {
    newPayload _ _ := .instantly fun p =>
      (.ok { verdict := if refuses p.2 then .invalid else .valid }, p)
    chooseHead _ _ := .instantly fun p => (.ok { verdict := .valid }, p)
    block _ := .instantly fun p =>
      (.ok (some ⟨p.2.genesisHash, p.2.genesis.number64, p.2.genesis.stateRoot⟩), p)
    account address _ := .instantly fun p => (.ok (p.2.pre.get? address), p) }

section Steadfast

variable {refuses : Origin → Bool}

lemma steadfast_reads (entries : List (Address × Account)) (read : Alloc) (limit : Option Nat)
    (p : Unit × Origin) :
    ((steadfast refuses).client.readAccounts entries read limit p).state = p := by
  induction entries generalizing read limit with
  | nil => rfl
  | cons entry rest ih =>
    have hanswer :
        ((steadfast refuses).client.account entry.1 entry.2.storage.keys limit p).answer =
          some (.ok (p.2.pre.get? entry.1)) := rfl
    rw [EngineTarget.readAccounts, Call.bind_answered hanswer]
    cases p.2.pre.get? entry.1 with
    | none => exact ih _ _
    | some a => exact ih _ _

lemma steadfast_request (k : EngineRequest) (limit : Option Nat) (p : Unit × Origin) :
    ((steadfast refuses).client.request k limit p).state = p := by
  cases k with
  | readState hint => exact steadfast_reads hint.entries .empty limit p
  | _ => rfl

lemma steadfast_serves {spec : ClientSpec} {p : Unit × Origin}
    (h : (steadfast refuses).Serves spec p) : p.2 = spec.origin := by
  induction h with
  | started answer =>
    cases answer
    rfl
  | called _ k limit ih => rw [steadfast_request, ih]

variable (refuses) in
lemma steadfast_determined : (steadfast refuses).Determined Eq := by
  have hnew (spec : ClientSpec) : (steadfast refuses).LikeNew Eq spec.origin ((), spec.origin) := by
    intro spec' w s horigin answer
    cases answer
    rw [← horigin]
  refine ⟨⟨fun _ _ => .refl _, fun _ _ => .refl _, fun _ => .refl _, fun _ _ => .refl _⟩,
    fun _ spec' _ _ _ _ => ⟨spec'.origin, rfl⟩, fun spec w s answer => ?_,
    fun spec p version limit status serves _ _ => ?_⟩
  · cases answer
    exact hnew spec
  · have hp : p = ((), spec.origin) := Prod.ext rfl (steadfast_serves serves)
    rw [hp]
    exact hnew spec

end Steadfast

def lenient : Terms := { mapper := .empty, client := "client", policy := .relaxed false }

/-- A fixture that ends at its genesis block, with a payload that must be refused. -/
def refused (stamp : Hash) (pre : Alloc) (chainId : Word) : Fixture :=
  { Sample.bare with
    genesis := { Sample.genesis with stateRoot := stamp, statedHash := some stamp }
    pre := some pre
    payloads := [Sample.payload .zero .zero 1 (some ⟨[.block .invalidGasUsed]⟩)]
    lastBlockHash := stamp
    postState := none
    postStateHash := some stamp
    config := some ⟨none, chainId⟩ }

def holding (slots : List (Word × Word)) : Alloc :=
  OrderedMap.ofList [(.zero, ⟨1, [], 1, OrderedMap.ofList slots⟩)]

def refusedMember (name : String) (stamp : Hash) (slots : List (Word × Word)) (chainId : Word) :
    Member := ⟨name, name, refused stamp (holding slots) chainId⟩

/-- Clients that refuse only payloads of a chain with the id 2 whose state has a single account
without storage. -/
def picky : Launcher Unit Origin :=
  steadfast fun o => decide (o.chainId = 2 ∧ o.pre = holding [])

def late : Member := refusedMember "late" (.replicate 2) [] 2

def pair (stamp : Hash) (slots : List (Word × Word)) (chainId : Word) : List Member :=
  [refusedMember "early" stamp slots chainId, late]

lemma pair_suits (stamp : Hash) (slots : List (Word × Word)) (chainId : Word) :
    (∀ m ∈ pair stamp slots chainId, isInline m) ∧
    (∀ m ∈ pair stamp slots chainId, m.fixture.malformation? = none) ∧
    ((pair stamp slots chainId).map testId).Nodup := by
  have hids : ["early::early", "late::late"].Nodup := by decide
  exact ⟨List.forall_mem_cons.mpr ⟨rfl, List.forall_mem_singleton.mpr rfl⟩,
    List.forall_mem_cons.mpr ⟨rfl, List.forall_mem_singleton.mpr rfl⟩, hids⟩

lemma run_late : (run lenient picky .empty "" { members := [late] } ⟨0, ()⟩).1 =
    [late.result (.ok .pass)] := by
  have hinline : ∀ m ∈ [late], isInline m := List.forall_mem_singleton.mpr rfl
  have hrun := run_of_key lenient picky .empty "" hinline (List.nodup_singleton _) rfl
    (List.forall_mem_nil _) ⟨0, ()⟩
  exact List.perm_singleton.mp hrun

theorem run_as_alone_picky :
    picky.Determined Eq ∧ lenient.cancelAt = none ∧
    (∀ m ∈ pair (.replicate 2) [] 2, isInline m) ∧
    (∀ m ∈ pair (.replicate 2) [] 2, m.fixture.malformation? = none) ∧
    ((pair (.replicate 2) [] 2).map testId).Nodup ∧
    (run lenient picky .empty "" { members := [late] } ⟨0, ()⟩).1 =
      [late.result (.ok .pass)] ∧
    late.result (.ok .pass) ∈
      (run lenient picky .empty "" { members := pair (.replicate 2) [] 2 } ⟨0, ()⟩).1 := by
  have hdetermined : picky.Determined Eq := steadfast_determined _
  obtain ⟨hinline, hvalid, hids⟩ := pair_suits (.replicate 2) [] 2
  refine ⟨hdetermined, rfl, hinline, hvalid, hids, run_late, ?_⟩
  obtain ⟨results, hreport, hresults⟩ := run_as_alone .empty "" hdetermined
    (rfl : lenient.cancelAt = none) { members := pair (.replicate 2) [] 2 } hinline hvalid hids
    ⟨0, ()⟩
  rcases hresults with _ | ⟨_, _ | ⟨⟨founder, hfounder, hdepends⟩, _⟩⟩
  have hfirst : founder? (pair (.replicate 2) [] 2) late =
      some (refusedMember "early" (.replicate 2) [] 2) :=
    List.find?_cons_of_pos (decide_eq_true rfl)
  cases Option.some.inj (hfirst.symm.trans hfounder)
  have halone := hdepends.alone rfl ⟨0, ()⟩
  rw [run_late] at halone
  rw [List.singleton_inj.mp halone]
  exact hreport.mem_iff.mpr (List.mem_cons_of_mem _ List.mem_cons_self)

def acceptance : Failure :=
  { kind := .unexpectedAcceptance, block := some 0, expected := some ⟨[.block .invalidGasUsed]⟩ }

lemma run_pair (stamp : Hash) {slots : List (Word × Word)} (chainId : Word)
    (hslots : (holding slots).normalized = (holding []).normalized) :
    (run lenient picky .empty "" { members := pair stamp slots chainId } ⟨0, ()⟩).1 ~
      (PayloadGroup.run lenient picky (.opened (refused stamp (holding slots) chainId)
        (holding slots)) (pair stamp slots chainId) ⟨0, ()⟩).1 := by
  obtain ⟨hinline, _, hids⟩ := pair_suits stamp slots chainId
  have hkey : late.fixture.groupKey? =
      (refusedMember "early" stamp slots chainId).fixture.groupKey? :=
    congrArg some (groupKey_congr _ _ hslots.symm)
  exact run_of_key lenient picky .empty "" hinline hids rfl (List.forall_mem_singleton.mpr hkey) _

/-- A fixture that passes alone fails after one whose key is the same, although its genesis
header, its chain id or its state, which has a slot that holds zero, is another one. -/
theorem run_unlike_alone :
    picky.Determined Eq ∧ lenient.cancelAt = none ∧
    (run lenient picky .empty "" { members := [late] } ⟨0, ()⟩).1 =
      [late.result (.ok .pass)] ∧
    ∀ both ∈ [pair (.replicate 1) [] 2, pair (.replicate 2) [] 1, pair (.replicate 2) [(1, 0)] 2],
      (∀ m ∈ both, isInline m) ∧ (∀ m ∈ both, m.fixture.malformation? = none) ∧
      (both.map testId).Nodup ∧
      ∃ r failure, (run lenient picky .empty "" { members := both } ⟨0, ()⟩).1 ~
        [r, late.failed failure] := by
  refine ⟨steadfast_determined _, rfl, run_late, fun both hboth => ?_⟩
  rcases List.mem_cons.mp hboth with rfl | hboth
  · obtain ⟨hinline, hvalid, hids⟩ := pair_suits (.replicate 1) [] 2
    exact ⟨hinline, hvalid, hids, _, PayloadGroup.foreignGenesis, run_pair _ _ rfl⟩
  · rcases List.mem_pair.mp hboth with rfl | rfl
    · obtain ⟨hinline, hvalid, hids⟩ := pair_suits (.replicate 2) [] 1
      exact ⟨hinline, hvalid, hids, _, acceptance, run_pair _ _ rfl⟩
    · obtain ⟨hinline, hvalid, hids⟩ := pair_suits (.replicate 2) [(1, 0)] 2
      exact ⟨hinline, hvalid, hids, _, acceptance, run_pair _ _ (by decide)⟩

end EngineSuite

end ChainConformance
