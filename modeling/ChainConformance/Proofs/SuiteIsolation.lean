import ChainConformance.Proofs.GroupFiles
import ChainConformance.Proofs.GroupIsolation
import ChainConformance.Suite.Transition
import Mathlib.Data.List.Forall2
import Mathlib.Data.List.Perm.Basic

/-!
# Suites of fixtures that share chains

The report of a suite has one result for each fixture. That of a fixture that is detached from
those before it in its group is the one that a suite of this fixture alone has.
-/

namespace ChainConformance

open scoped List

section ByKey

variable {α κ : Type} [DecidableEq κ] (key : α → Option κ)

lemma perm_flatMap_filter {keys : List κ} (hkeys : keys.Nodup) (l : List α) :
    (keys.flatMap fun k => l.filter (key · = some k)).Perm
      (l.filter fun a => (key a).any (· ∈ keys)) := by
  induction keys with
  | nil =>
    have hnone : (l.filter fun a => (key a).any (· ∈ ([] : List κ))) = [] := by
      refine List.filter_eq_nil_iff.mpr fun a _ => ?_
      cases key a <;> simp
    rw [hnone]
    exact .refl _
  | cons k keys ih =>
    obtain ⟨hk, hnodup⟩ := List.nodup_cons.mp hkeys
    have hsplit := List.filter_append_perm (key · = some k)
      (l.filter fun a => (key a).any (· ∈ k :: keys))
    have hfirst : (l.filter fun a => (key a).any (· ∈ k :: keys)).filter (key · = some k) =
        l.filter (key · = some k) := by
      rw [List.filter_filter]
      refine List.filter_congr fun a _ => ?_
      by_cases ha : key a = some k <;> simp [ha]
    have hrest : ((l.filter fun a => (key a).any (· ∈ k :: keys)).filter
        fun a => !decide (key a = some k)) = l.filter fun a => (key a).any (· ∈ keys) := by
      rw [List.filter_filter]
      refine List.filter_congr fun a _ => ?_
      cases ha : key a with
      | none => simp
      | some k' =>
        by_cases hk' : k' = k
        · simp [hk', hk]
        · simp [hk']
    rw [hfirst, hrest] at hsplit
    rw [List.flatMap_cons]
    exact ((ih hnodup).append_left _).trans hsplit

lemma perm_byKey {keys : List κ} (hkeys : keys.Nodup) {l : List α}
    (hcover : ∀ a ∈ l, ∀ k, key a = some k → k ∈ keys) :
    (l.filter (key · = none) ++ keys.flatMap fun k => l.filter (key · = some k)).Perm l := by
  have hsplit := List.filter_append_perm (key · = none) l
  have hrest : (l.filter fun a => !decide (key a = none)) =
      l.filter fun a => (key a).any (· ∈ keys) := by
    refine List.filter_congr fun a ha => ?_
    cases hkey : key a with
    | none => simp
    | some k => simp [hcover a ha k hkey]
  rw [hrest] at hsplit
  exact ((perm_flatMap_filter key hkeys l).append_left _).trans hsplit

end ByKey

namespace TransitionSuite

variable {ω : Type} {terms : Terms} {tool : TransitionTool ω} {files : Files} {root : String}
  {execute : TransitionInput → TransitionOptions → FaultOr TransitionOutput}

/-- A suite of this fixture alone has this result. -/
def Alone (terms : Terms) (tool : TransitionTool ω) (files : Files) (root : String)
    (member : Member) (r : CaseResult) : Prop :=
  ∀ m, (run terms tool files root { members := [member] } m).1 = [r]

lemma runBatch_single (hc : terms.cancelAt = none) (pre : Alloc) (chainId : Word)
    (member : Member) (m : Moment ω) :
    (runBatch terms tool ⟨pre, chainId, [member]⟩ m).1 = [member.result (.ok
      (BlockRun.run terms member.fixture pre (fun _ => TransitionChain.target tool chainId) none
        ⟨m.now, ({}, m.state)⟩).1)] :=
  BlockGroup.runFrom_cons hc member [] none rfl

lemma run_settled {cases : Cases} {r : CaseResult}
    (h : batches files root cases = ([r], [])) (m : Moment ω) :
    (run terms tool files root cases m).1 = [r] := by
  unfold run
  rw [h]
  exact List.mergeSort_singleton r

lemma run_perm_batch (terms : Terms) (tool : TransitionTool ω) {cases : Cases} {b : Batch}
    (h : batches files root cases = ([], [b])) (m : Moment ω) :
    (run terms tool files root cases m).1 ~ (runBatch terms tool b m).1 := by
  unfold run
  rw [h]
  have hperm := List.mergeSort_perm ([] ++ [(runBatch terms tool b m).1].flatten) CaseResult.atMost
  rw [List.nil_append, List.flatten_singleton] at hperm
  change CaseResult.collect [] [(runBatch terms tool b m).1] ~ _
  rw [CaseResult.collect, List.flatten_singleton, List.nil_append]
  exact hperm

lemma run_batch {cases : Cases} {b : Batch} {r : CaseResult}
    (h : batches files root cases = ([], [b])) {m : Moment ω}
    (hb : (runBatch terms tool b m).1 = [r]) :
    (run terms tool files root cases m).1 = [r] := by
  have hperm := run_perm_batch terms tool h m
  rw [hb] at hperm
  exact List.perm_singleton.mp hperm

/-- What becomes of a fixture in a plan. -/
inductive Placed (member : Member) : Prop
  | settled (r : CaseResult) (group : member.groupHash? = none)
      (named : r.path = member.path ∧ r.name = member.name)
      (add : ∀ p : Plan, p.add member = { p with settled := p.settled ++ [r] })
  | inline (pre : Alloc) (group : member.groupHash? = none)
      (add : ∀ p : Plan, p.add member =
        { p with inline := p.inline ++ [⟨pre, member.chainId, [member]⟩] })
  | grouped (hash : Hash) (group : member.groupHash? = some hash)
      (add : ∀ p : Plan, p.add member =
        { p with grouped := p.grouped.insert hash ((p.grouped.get? hash).getD [] ++ [member]) })

lemma placed (member : Member) : Placed member := by
  by_cases hengine : member.fixture.isEngine
  · have hgroup : member.groupHash? = none := by
      rw [Member.groupHash?, if_pos (Or.inl hengine)]
    refine .settled (member.failed {
      kind := .fixtureConstruction
      message := some "engine fixtures need an Engine-API client" }) hgroup ⟨rfl, rfl⟩
      fun p => ?_
    rw [Plan.add, if_pos hengine]
  · cases hpre : member.fixture.pre with
    | some pre =>
      have hgroup : member.groupHash? = none := by
        rw [Member.groupHash?, if_pos (Or.inr (by rw [hpre]; rfl))]
      refine .inline pre hgroup fun p => ?_
      rw [Plan.add, if_neg hengine, hpre]
    | none =>
      have hgroup : member.groupHash? = member.fixture.preHash := by
        rw [Member.groupHash?, if_neg (by rw [hpre]; simpa using hengine)]
      cases hhash : member.fixture.preHash with
      | none =>
        refine .settled (member.result (.error (.other "fixture has no pre-state")))
          (hgroup.trans hhash) ⟨rfl, rfl⟩ fun p => ?_
        rw [Plan.add, if_neg hengine, hpre, hhash]
      | some hash =>
        refine .grouped hash (hgroup.trans hhash) fun p => ?_
        rw [Plan.add, if_neg hengine, hpre, hhash]

lemma grouped_foldl (members : List Member) (p : Plan) (hash : Hash) :
    ((members.foldl Plan.add p).grouped.get? hash).getD [] =
      (p.grouped.get? hash).getD [] ++ members.filter (·.groupHash? = some hash) := by
  induction members generalizing p with
  | nil => exact (List.append_nil _).symm
  | cons member rest ih =>
    rw [List.foldl_cons, ih]
    rcases placed member with ⟨r, hgroup, _, hadd⟩ | ⟨pre, hgroup, hadd⟩ | ⟨hash', hgroup, hadd⟩
    · simp only [hadd, List.filter_cons, hgroup, reduceCtorEq, decide_false, Bool.false_eq_true,
        if_false]
    · simp only [hadd, List.filter_cons, hgroup, reduceCtorEq, decide_false, Bool.false_eq_true,
        if_false]
    · simp only [hadd, OrderedMap.get?_insert, List.filter_cons, hgroup, Option.some.injEq]
      by_cases hh : hash' = hash
      · simp [hh]
      · simp [hh, Ne.symm hh]

/-! ### What a plan comes to -/

/-- The results that stand already and those of the batches are the given ones and, beside
them, one for each of the members. -/
def Meets (terms : Terms) (tool : TransitionTool ω) (files : Files) (root : String)
    (base settled : List CaseResult) (todo : List Batch)
    (ps : List (List Member × Member)) : Prop :=
  ∀ results, List.Forall₂ (fun b rs => ∃ m, (runBatch terms tool b m).1 = rs) todo results →
    ∃ rs, List.Forall₂ (Member.Gets (Alone terms tool files root)) ps rs ∧
      (settled ++ results.flatten).Perm (base ++ rs)

lemma meets_nil (base : List CaseResult) : Meets terms tool files root base base [] [] := by
  intro results hresults
  cases hresults
  exact ⟨[], .nil, .refl _⟩

lemma Meets.append {base settled settled' settled'' : List CaseResult}
    {todo todo' todo'' : List Batch} {ps qs : List (List Member × Member)}
    (h : Meets terms tool files root base settled todo ps)
    (h' : Meets terms tool files root [] settled' todo' qs)
    (hsettled : settled''.Perm (settled ++ settled')) (htodo : todo''.Perm (todo ++ todo')) :
    Meets terms tool files root base settled'' todo'' (ps ++ qs) := by
  intro results'' hresults''
  -- The results are first put in the order of the two lists of batches, then cut in two.
  obtain ⟨both, hboth, hperm⟩ := List.perm_comp_forall₂ htodo.symm hresults''
  have hleft := List.forall₂_take todo.length hboth
  have hright := List.forall₂_drop todo.length hboth
  rw [List.take_left] at hleft
  rw [List.drop_left] at hright
  obtain ⟨rs, hrs, hrsPerm⟩ := h _ hleft
  obtain ⟨rs', hrs', hrsPerm'⟩ := h' _ hright
  rw [List.nil_append] at hrsPerm'
  refine ⟨rs ++ rs', List.rel_append hrs hrs', ?_⟩
  have hflatten : results''.flatten.Perm
      ((both.take todo.length).flatten ++ (both.drop todo.length).flatten) := by
    rw [← List.flatten_append, List.take_append_drop]
    exact hperm.symm.flatten
  have hswap := List.perm_append_comm_assoc settled' (both.take todo.length).flatten
    (both.drop todo.length).flatten
  calc settled'' ++ results''.flatten
    _ ~ (settled ++ settled') ++
          ((both.take todo.length).flatten ++ (both.drop todo.length).flatten) :=
        hsettled.append hflatten
    _ ~ (settled ++ (both.take todo.length).flatten) ++
          (settled' ++ (both.drop todo.length).flatten) := by
        rw [List.append_assoc, List.append_assoc]
        exact hswap.append_left settled
    _ ~ (base ++ rs) ++ rs' := hrsPerm.append hrsPerm'
    _ = base ++ (rs ++ rs') := List.append_assoc _ _ _

lemma meets_settled {before : List Member} {member : Member} {r : CaseResult}
    (hbatches : batches files root { members := [member] } = ([r], []))
    (hnamed : r.path = member.path ∧ r.name = member.name) :
    Meets terms tool files root [] [r] [] [(before, member)] := by
  intro results hresults
  cases hresults
  exact ⟨[r], .cons ⟨hnamed.1, hnamed.2, fun _ m => run_settled hbatches m⟩ .nil, .refl _⟩

lemma meets_inline (h : tool.Answers execute) (hc : terms.cancelAt = none)
    {before : List Member} {member : Member} {pre : Alloc}
    (hbatches : batches files root { members := [member] } =
      ([], [⟨pre, member.chainId, [member]⟩])) :
    Meets terms tool files root [] [] [⟨pre, member.chainId, [member]⟩] [(before, member)] := by
  rintro results (_ | ⟨⟨m, rfl⟩, _ | _⟩)
  rw [runBatch_single hc]
  refine ⟨_, .cons ⟨rfl, rfl, fun _ n => ?_⟩ .nil, .refl _⟩
  refine run_batch hbatches ?_
  rw [runBatch_single hc, (BlockRun.run_started h hc member.fixture pre member.chainId _ _).1]

lemma meets_foldl (h : tool.Answers execute) (hc : terms.cancelAt = none)
    {base : List CaseResult} (before members : List Member) {p : Plan}
    {ps : List (List Member × Member)}
    (hp : Meets terms tool files root base p.settled p.inline ps) :
    Meets terms tool files root base (members.foldl Plan.add p).settled
      (members.foldl Plan.add p).inline
      (ps ++ (Member.eachAfter before members).filter (·.2.groupHash? = none)) := by
  induction members generalizing before p ps with
  | nil =>
    rw [Member.eachAfter, List.filter_nil, List.append_nil]
    exact hp
  | cons member rest ih =>
    rw [List.foldl_cons, Member.eachAfter]
    rcases placed member with ⟨r, hgroup, hnamed, hadd⟩ | ⟨pre, hgroup, hadd⟩ | ⟨hash, hgroup, hadd⟩
    · have hbatches : batches files root { members := [member] } = ([r], []) := by
        simp only [batches, List.foldl_cons, List.foldl_nil, hadd]
        rfl
      rw [List.filter_cons, if_pos (decide_eq_true hgroup), List.append_cons]
      refine ih _ ?_
      rw [hadd]
      exact hp.append (meets_settled hbatches hnamed) (.refl _) (by rw [List.append_nil])
    · have hbatches : batches files root { members := [member] } =
          ([], [⟨pre, member.chainId, [member]⟩]) := by
        simp only [batches, List.foldl_cons, List.foldl_nil, hadd]
        rfl
      rw [List.filter_cons, if_pos (decide_eq_true hgroup), List.append_cons]
      refine ih _ ?_
      rw [hadd]
      exact hp.append (meets_inline h hc hbatches) (by rw [List.append_nil]) (.refl _)
    · rw [List.filter_cons, if_neg (by simp [hgroup])]
      refine ih _ ?_
      rw [hadd]
      exact hp

lemma map_eachAfter (before members : List Member) (hash : Hash) :
    ((Member.eachAfter before members).filter (·.2.groupHash? = some hash)).map (·.2) =
      members.filter (·.groupHash? = some hash) := by
  induction members generalizing before with
  | nil => rfl
  | cons member rest ih =>
    rw [Member.eachAfter, List.filter_cons, List.filter_cons]
    split
    · rw [List.map_cons, ih]
    · exact ih _

lemma batches_grouped {member : Member} {hash : Hash} (hgroup : member.groupHash? = some hash) :
    batches files root { members := [member] } = groupBatch files root hash [member] := by
  rcases placed member with ⟨r, hnone, _, _⟩ | ⟨pre, hnone, _⟩ | ⟨hash', hsome, hadd⟩
  · rw [hnone] at hgroup
    cases hgroup
  · rw [hnone] at hgroup
    cases hgroup
  · rw [hsome] at hgroup
    cases hgroup
    simp only [batches, List.foldl_cons, List.foldl_nil, hadd]
    change ([] ++ ((groupBatch files root hash [member]).1 ++ []),
      ((groupBatch files root hash [member]).2 ++ []) ++ []) = _
    simp only [List.append_nil, List.nil_append]

lemma batches_loaded {member : Member} {hash : Hash} {group : Group}
    (hgroup : member.groupHash? = some hash) (hload : Group.load files root hash = .ok group) :
    batches files root { members := [member] } =
      ([], [⟨group.pre, member.chainId, [member]⟩]) := by
  rw [batches_grouped hgroup, groupBatch, hload]

lemma meets_group (h : tool.Answers execute) (hc : terms.cancelAt = none) (files : Files)
    (root : String) (hash : Hash) (members : List Member) :
    Meets terms tool files root []
      (groupBatch files root hash (members.filter (·.groupHash? = some hash))).1
      (groupBatch files root hash (members.filter (·.groupHash? = some hash))).2
      ((Member.eachAfter [] members).filter (·.2.groupHash? = some hash)) := by
  have hmember : ∀ p ∈ (Member.eachAfter [] members).filter (·.2.groupHash? = some hash),
      p.2.groupHash? = some hash := fun p hp => of_decide_eq_true (List.mem_filter.mp hp).2
  have hall := map_eachAfter [] members hash
  cases hload : Group.load files root hash with
  | error e =>
    intro results hresults
    simp only [groupBatch, hload] at hresults ⊢
    cases hresults
    refine ⟨(members.filter (·.groupHash? = some hash)).map
      fun m => m.result (.error (.other e.message)), ?_, by rw [List.flatten_nil, List.append_nil,
        List.nil_append]⟩
    rw [← hall, List.map_map, List.forall₂_map_right_iff, List.forall₂_same]
    intro p hp
    refine ⟨rfl, rfl, fun _ m => run_settled ?_ m⟩
    simp only [batches_grouped (hmember p hp), groupBatch, hload]
    rfl
  | ok group =>
    cases hfirst : members.filter (·.groupHash? = some hash) with
    | nil =>
      rw [hfirst, List.map_eq_nil_iff] at hall
      simp only [groupBatch, hload, hall]
      exact meets_nil []
    | cons first rest =>
      simp only [groupBatch, hload]
      rintro results (_ | ⟨⟨m, rfl⟩, _ | _⟩)
      refine ⟨_, ?_, .refl _⟩
      have hchain : ∀ s ∈ (members.filter (·.groupHash? = some hash)).head?,
          s.chainId = first.chainId := by
        rw [hfirst]
        rintro s ⟨⟩
        rfl
      -- In the batch as in the suite of one fixture, the members start from the same empty chain.
      have hruns := BlockGroup.run_detached h hc group.pre hash hchain ⟨m.now, ({}, m.state)⟩
      rw [hfirst] at hruns
      rw [List.flatten_singleton]
      refine ((List.forall₂_and_left _ _).mpr ⟨hmember, hruns⟩).imp ?_
      rintro p r ⟨hp, hpath, hname, halone⟩
      refine ⟨hpath, hname, fun hdetached n => ?_⟩
      refine run_batch (batches_loaded hp hload) ?_
      rw [runBatch_single hc, ← halone hdetached]

lemma meets_groups (h : tool.Answers execute) (hc : terms.cancelAt = none)
    (members : List Member) {entries : List (Hash × List Member)}
    (hentries : ∀ e ∈ entries, e.2 = members.filter (·.groupHash? = some e.1)) :
    Meets terms tool files root []
      ((entries.map fun e => groupBatch files root e.1 e.2).flatMap (·.1))
      ((entries.map fun e => groupBatch files root e.1 e.2).flatMap (·.2))
      ((entries.map (·.1)).flatMap fun hash =>
        (Member.eachAfter [] members).filter (·.2.groupHash? = some hash)) := by
  induction entries with
  | nil => exact meets_nil []
  | cons e entries ih =>
    obtain ⟨he, hrest⟩ := List.forall_mem_cons.mp hentries
    have hfirst := meets_group h hc files root e.1 members
    rw [← he] at hfirst
    exact hfirst.append (ih hrest) (.refl _) (.refl _)

lemma mem_eachAfter {p : List Member × Member} {before members : List Member}
    (hp : p ∈ Member.eachAfter before members) : p.2 ∈ members := by
  induction members generalizing before with
  | nil => cases hp
  | cons member rest ih =>
    rcases List.mem_cons.mp hp with rfl | hp
    · exact List.mem_cons_self
    · exact List.mem_cons_of_mem _ (ih hp)

/-- What all batches come to: each member has one result. -/
lemma meets_batches (h : tool.Answers execute) (hc : terms.cancelAt = none) (files : Files)
    (root : String) (cases : Cases) :
    ∃ ps, ps ~ Member.eachAfter [] cases.members ∧
      Meets terms tool files root cases.settled (batches files root cases).1
        (batches files root cases).2 ps := by
  let initial : Plan := { settled := cases.settled }
  let plan := cases.members.foldl Plan.add initial
  have hgrouped (hash : Hash) : (plan.grouped.get? hash).getD [] =
      cases.members.filter (·.groupHash? = some hash) :=
    grouped_foldl cases.members initial hash
  have hentries : ∀ e ∈ plan.grouped.entries,
      e.2 = cases.members.filter (·.groupHash? = some e.1) := by
    intro e he
    rw [← hgrouped, OrderedMap.mem_entries_iff.mp he]
    rfl
  have hcover : ∀ p ∈ Member.eachAfter [] cases.members, ∀ hash,
      p.2.groupHash? = some hash → hash ∈ plan.grouped.keys := by
    intro p hp hash hhash
    have hmem : p.2 ∈ cases.members.filter (·.groupHash? = some hash) :=
      List.mem_filter.mpr ⟨mem_eachAfter hp, decide_eq_true hhash⟩
    rw [← hgrouped] at hmem
    cases hget : plan.grouped.get? hash with
    | none =>
      rw [hget] at hmem
      cases hmem
    | some members =>
      exact List.mem_map.mpr ⟨_, OrderedMap.mem_entries_iff.mpr hget, rfl⟩
  have hinitial : Meets terms tool files root cases.settled initial.settled initial.inline [] :=
    meets_nil cases.settled
  have hsolo := meets_foldl h hc [] cases.members hinitial
  refine ⟨_, perm_byKey (fun p : List Member × Member => p.2.groupHash?)
    plan.grouped.keys_nodup hcover, ?_⟩
  exact hsolo.append (meets_groups h hc cases.members hentries) (.refl _) List.perm_append_comm

lemma length_eachAfter (before members : List Member) :
    (Member.eachAfter before members).length = members.length := by
  induction members generalizing before with
  | nil => rfl
  | cons member rest ih => rw [Member.eachAfter, List.length_cons, List.length_cons, ih]

lemma getElem_eachAfter (before members : List Member) {i : Nat} (hi : i < members.length)
    (hi' : i < (Member.eachAfter before members).length) :
    (Member.eachAfter before members)[i] = (before ++ members.take i, members[i]) := by
  induction members generalizing before i with
  | nil => cases hi
  | cons member rest ih =>
    cases i with
    | zero => simp [Member.eachAfter]
    | succ i =>
      simp only [Member.eachAfter, List.getElem_cons_succ, List.take_succ_cons]
      rw [ih _ (Nat.lt_of_succ_lt_succ hi), List.append_assoc]
      rfl

/-! ### Fixtures that differ in their chain ids -/

def idleGenesis : Header := { (default : Header) with stateRoot := .replicate 2 }

/-- A fixture of a group that brings no block. Its chain ends where it starts. -/
def idle (chainId : Word) : Fixture where
  network := .cancun
  genesis := idleGenesis
  genesisRlp := none
  pre := none
  preHash := some .zero
  blocks := []
  payloads := []
  forkchoiceVersion := none
  lastBlockHash := idleGenesis.hash
  postState := none
  postStateHash := some (.replicate 2)
  postStateDiff := none
  config := some ⟨none, chainId⟩
  sealEngine := none

/-- Every state has a root of twos on the second chain and one of ones on all others. -/
def chainwise (input : TransitionInput) (options : TransitionOptions) :
    FaultOr TransitionOutput :=
  .ok ⟨input.alloc,
    { stateRoot := if options.chainId = 2 then .replicate 2 else .replicate 1 }⟩

def chainwiseTool : TransitionTool Unit := fun input options =>
  .instantly (chainwise input options, ·)

def idleDocument : String :=
  "\x7b\"pre\":\x7b\x7d,\"network\":\"Cancun\",\"environment\":\x7b" ++
  "\"currentCoinbase\":\"0x0000000000000000000000000000000000000000\"," ++
  "\"currentGasLimit\":\"0x0\",\"currentNumber\":\"0x0\",\"currentTimestamp\":\"0x0\"\x7d\x7d"

def idleGroup : Files :=
  OrderedMap.empty.insert (Group.path "" .zero) idleDocument.toUTF8.data.toList

def plain : Terms := { mapper := .empty, client := "client" }

lemma readText_single (path s : String) :
    Files.readText (OrderedMap.empty.insert path s.toUTF8.data.toList) path = .ok s := by
  rw [Files.readText, Files.content?_single]
  simp only [textOfBytes?_toList]

lemma idleGroup_loads : ∃ group, Group.load idleGroup "" .zero = .ok group := by
  have hreads : (Json.readDocument Group.ofJson idleDocument).toBool = true := by
    decide +kernel
  cases hgroup : Json.readDocument Group.ofJson idleDocument with
  | ok group => exact ⟨group, Group.load_of_text (readText_single _ _) hgroup⟩
  | error e =>
    rw [hgroup] at hreads
    cases hreads

lemma run_idle_pass (pre : Alloc) (m : Moment (TransitionChain × Unit)) :
    (BlockRun.run plain (idle 2) pre (TransitionChain.target chainwiseTool 2) none m).1 =
      .pass := by
  refine BlockRun.pass_of_conforms rfl ⟨⟨.replicate 2, idleGenesis.hash⟩,
    ⟨m.now + 0, (TransitionChain.ofGenesis .cancun pre idleGenesis, ())⟩, 0, [], _,
    ⟨rfl, rfl, rfl⟩, ⟨_, .nil _, Or.inl ⟨rfl, rfl⟩⟩, ?_, .root rfl rfl⟩
  rw [Fixture.expectedHead, if_pos (by rfl)]
  rfl

lemma run_idle_fail (chainId : Word) (pre : Alloc) (m : Moment (TransitionChain × Unit)) :
    ∃ failure final, BlockRun.run plain (idle chainId) pre
      (TransitionChain.target chainwiseTool 1) none m = (.fail failure, final) ∧
      final.genesis = none := by
  have hestablish := BlockRun.run_establish (idle chainId) pre
    (TransitionChain.target chainwiseTool 1) none (rfl : plain.cancelAt = none) (BlockRun.initial m)
  have hanswer : (BlockRun.initial m).moment.within plain.callTimeout (BlockRun.begin
      (idle chainId) pre (TransitionChain.target chainwiseTool 1) none) =
      (.done (.ok ⟨.replicate 1, idleGenesis.hash⟩),
        ⟨m.now + 0, (TransitionChain.ofGenesis .cancun pre idleGenesis, ())⟩) := rfl
  have hroot : (.replicate 1 : Hash) ≠ .replicate 2 := by decide +kernel
  have hdiffers : (.replicate 1 : Hash) ≠ (idle chainId).genesis.stateRoot := hroot
  obtain ⟨text, htext⟩ := BlockRun.judgeGenesis_error (f := idle chainId)
    (g := ⟨.replicate 1, idleGenesis.hash⟩) (Or.inl hdiffers)
  rw [hanswer] at hestablish
  simp only [htext] at hestablish
  unfold BlockRun.run
  rw [BlockRun.steps_error hestablish]
  exact ⟨_, _, rfl, rfl⟩

def idleMember (name : String) (chainId : Word) : Member := ⟨name, name, idle chainId⟩

lemma batches_idle (a b : Word) : ∃ pre,
    batches idleGroup "" { members := [idleMember "a" a, idleMember "b" b] } =
      ([], [⟨pre, a, [idleMember "a" a, idleMember "b" b]⟩]) := by
  obtain ⟨group, hgroup⟩ := idleGroup_loads
  let both := groupBatch idleGroup "" .zero [idleMember "a" a, idleMember "b" b]
  have hboth : both = ([], [⟨group.pre, a, [idleMember "a" a, idleMember "b" b]⟩]) := by
    simp only [both, groupBatch, hgroup]
    rfl
  refine ⟨group.pre, ?_⟩
  change ([] ++ (both.1 ++ []), (both.2 ++ []) ++ []) = _
  rw [hboth]
  rfl

/-- With a tool that always answers, and always alike, the report of a suite has one result for
each fixture beside those that stand already. Whatever comes before a fixture, its result is the
one that the suite of this fixture alone has, as long as it is detached from those before it that
are run in its group. -/
theorem run_isolated (h : tool.Answers execute) (hc : terms.cancelAt = none) (files : Files)
    (root : String) (cases : Cases) (m : Moment ω) :
    ∃ rs : List CaseResult, (run terms tool files root cases m).1 ~ cases.settled ++ rs ∧
      rs.length = cases.members.length ∧
      ∀ i (hi : i < cases.members.length) (hi' : i < rs.length),
        rs[i].path = cases.members[i].path ∧ rs[i].name = cases.members[i].name ∧
        (cases.members[i].Detached (cases.members[i].siblings (cases.members.take i)) →
          ∀ n, (run terms tool files root { members := [cases.members[i]] } n).1 = [rs[i]]) := by
  obtain ⟨ps, hps, hmeets⟩ := meets_batches h hc files root cases
  obtain ⟨rs', hrs', hperm'⟩ :=
    hmeets _ (mapM_runs (runBatch terms tool) (batches files root cases).2 m)
  obtain ⟨rs, hrs, hperm⟩ := List.perm_comp_forall₂ hps.symm hrs'
  obtain ⟨hlength, hget⟩ := List.forall₂_iff_get.mp hrs
  rw [length_eachAfter] at hlength
  refine ⟨rs, ?_, hlength.symm, fun i hi hi' => ?_⟩
  · calc (run terms tool files root cases m).1
      _ ~ (batches files root cases).1 ++
          ((batches files root cases).2.mapM (runBatch terms tool) m).1.flatten :=
        List.mergeSort_perm _ _
      _ ~ cases.settled ++ rs' := hperm'
      _ ~ cases.settled ++ rs := hperm.symm.append_left _
  · have hgets := hget i (by rw [length_eachAfter]; exact hi) hi'
    rw [List.get_eq_getElem, List.get_eq_getElem, getElem_eachAfter [] _ hi] at hgets
    exact hgets

theorem run_isolated_idle :
    chainwiseTool.Answers chainwise ∧ plain.cancelAt = none ∧
    ∃ r, (run plain chainwiseTool idleGroup "" { members := [idleMember "b" 2] } ⟨0, ()⟩).1 =
        [r] ∧
      r ∈ (run plain chainwiseTool idleGroup ""
        { members := [idleMember "a" 2, idleMember "b" 2] } ⟨0, ()⟩).1 := by
  have hanswers : chainwiseTool.Answers chainwise := fun _ _ _ _ => rfl
  have hnone : plain.cancelAt = none := rfl
  refine ⟨hanswers, hnone, ?_⟩
  obtain ⟨rs, hperm, hlength, hrs⟩ := run_isolated hanswers hnone idleGroup ""
    { members := [idleMember "a" 2, idleMember "b" 2] } ⟨0, ()⟩
  have hi' : 1 < rs.length := by
    rw [hlength]
    exact Nat.one_lt_two
  have hkin (hash hash' : Hash) : hash ∉ Member.kinHashes [idleMember "a" 2] hash' := by
    intro hmem
    obtain ⟨s, hs, hmem⟩ := List.mem_flatMap.mp hmem
    rw [List.mem_singleton.mp (List.mem_filter.mp hs).1] at hmem
    cases hmem
  have hdetached : (idleMember "b" 2).Detached [idleMember "a" 2] := by
    refine ⟨?_, ?_, hkin _ _, hkin _ _, ?_⟩
    · rintro s ⟨⟩
      rfl
    · intro s hs _
      rw [List.mem_singleton.mp hs]
      exact ⟨rfl, rfl⟩
    · intro before b rest _ _ hblocks
      cases before <;> cases hblocks
  exact ⟨rs[1], (hrs 1 Nat.one_lt_two hi').2.2 hdetached ⟨0, ()⟩,
    hperm.mem_iff.mpr (List.mem_append_right _ (List.getElem_mem hi'))⟩

/-- A fixture that passes alone fails after another one of its group that is made for another
chain: both are run with the chain id of the first. -/
theorem run_chainId_shared :
    chainwiseTool.Answers chainwise ∧ plain.cancelAt = none ∧
    (∀ s ∈ [idleMember "a" 1, idleMember "b" 2],
      s.fixture.isEngine = false ∧ s.fixture.malformation? = none) ∧
    (run plain chainwiseTool idleGroup "" { members := [idleMember "b" 2] } ⟨0, ()⟩).1 =
      [(idleMember "b" 2).result (.ok .pass)] ∧
    ∃ failure failure', (run plain chainwiseTool idleGroup ""
        { members := [idleMember "a" 1, idleMember "b" 2] } ⟨0, ()⟩).1 ~
      [(idleMember "a" 1).result (.ok (.fail failure)),
        (idleMember "b" 2).result (.ok (.fail failure'))] := by
  refine ⟨fun _ _ _ _ => rfl, rfl, ?_, ?_, ?_⟩
  · intro s hs
    rcases List.mem_pair.mp hs with rfl | rfl <;> exact ⟨rfl, rfl⟩
  · obtain ⟨group, hgroup⟩ := idleGroup_loads
    have hmember : (idleMember "b" 2).groupHash? = some .zero := rfl
    refine run_batch (batches_loaded hmember hgroup) ?_
    rw [runBatch_single rfl]
    exact congrArg (fun v => [(idleMember "b" 2).result (.ok v)]) (run_idle_pass _ _)
  · obtain ⟨pre, hbatches⟩ := batches_idle 1 2
    obtain ⟨failure, final, hrun, hheld⟩ := run_idle_fail 1 pre ⟨0, ({}, ())⟩
    obtain ⟨failure', final', hrun', _⟩ := run_idle_fail 2 pre final.moment
    have hresults : (runBatch plain chainwiseTool ⟨pre, 1, [idleMember "a" 1, idleMember "b" 2]⟩
        ⟨0, ()⟩).1 = [(idleMember "a" 1).result (.ok (.fail failure)),
          (idleMember "b" 2).result (.ok (.fail failure'))] := by
      change (BlockGroup.runFrom plain pre (fun _ => TransitionChain.target chainwiseTool 1)
        [idleMember "a" 1, idleMember "b" 2] none ⟨0, ({}, ())⟩).1 = _
      rw [BlockGroup.runFrom_cons rfl (idleMember "a" 1) _ none hrun, hheld, ite_self,
        BlockGroup.runFrom_cons rfl (idleMember "b" 2) _ none hrun']
      rfl
    have hperm := run_perm_batch plain chainwiseTool hbatches ⟨0, ()⟩
    rw [hresults] at hperm
    exact ⟨failure, failure', hperm⟩

end TransitionSuite

end ChainConformance
