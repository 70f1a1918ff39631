import ChainConformance.Proofs.EngineReport

/-!
# Groups of fixtures with states of their own

Such fixtures are in one group if and only if they have the same key. A group has the state
and the network of the first of its fixtures, and all of its fixtures are run in it.
-/

namespace ChainConformance

open scoped List

def Fixture.groupKey? (f : Fixture) : Option Hash :=
  f.pre.map fun pre => groupKey f.network (.ofHeader f.genesis) pre

lemma groupKey_congr (network : Fork) (environment : Environment) {pre pre' : Alloc}
    (h : pre.normalized = pre'.normalized) :
    groupKey network environment pre = groupKey network environment pre' := by
  simp only [groupKey, groupDocument, h]

lemma groupKey?_of_pre {f : Fixture} {pre : Alloc} (h : f.pre = some pre) :
    f.groupKey? = some (groupKey f.network (.ofHeader f.genesis) pre) := by
  rw [Fixture.groupKey?, h, Option.map_some]

lemma pre_of_groupKey? {f : Fixture} {k : Hash} (h : f.groupKey? = some k) :
    f.pre.isSome := by
  rw [← Option.isSome_map, ← Fixture.groupKey?, h]
  rfl

namespace Group

def opened (f : Fixture) (pre : Alloc) : Group := ⟨pre, .ofHeader f.genesis, f.network, [], 0⟩

def founded? : List (String × Fixture) → Option Group
  | [] => none
  | first :: rest => first.2.pre.map fun pre =>
    { opened first.2 pre with
      testIds := (first :: rest).map (·.1), testCount := rest.length + 1 }

lemma founded?_concat {first : String × Fixture} (h : first.2.pre.isSome)
    (rest : List (String × Fixture)) (f : String × Fixture) :
    founded? (first :: rest ++ [f]) =
      (founded? (first :: rest)).map fun g => g.addMember f.1 := by
  obtain ⟨pre, hpre⟩ := Option.isSome_iff_exists.mp h
  simp [founded?, opened, hpre, addMember]

lemma get?_join (groups : OrderedMap Hash Group) (id : String) (f : Fixture) (k : Hash) :
    (join groups id f).get? k =
      if f.groupKey? = some k then
        match groups.get? k with
        | some g => some (g.addMember id)
        | none => founded? [(id, f)]
      else groups.get? k := by
  unfold join Fixture.groupKey?
  cases hpre : f.pre with
  | none => simp
  | some pre =>
    simp only [Option.map_some, Option.some.injEq, OrderedMap.get?_insert]
    by_cases hk : groupKey f.network (.ofHeader f.genesis) pre = k
    · subst hk
      simp only [if_true]
      cases groups.get? _ with
      | none => simp [founded?, opened, hpre, addMember]
      | some g => simp
    · rw [if_neg hk, if_neg fun h => hk h.symm]

lemma get?_ofFixtures (fixtures : List (String × Fixture)) (k : Hash) :
    (ofFixtures fixtures).get? k =
      founded? (fixtures.filter fun f => f.2.groupKey? = some k) := by
  induction fixtures using List.reverseRecOn with
  | nil => rfl
  | append_singleton before f ih =>
    have hfold : ofFixtures (before ++ [f]) = join (ofFixtures before) f.1 f.2 := by
      rw [ofFixtures, List.foldl_append]
      rfl
    rw [hfold, get?_join, ih, List.filter_append]
    by_cases hk : f.2.groupKey? = some k
    · have hself : [f].filter (fun f => f.2.groupKey? = some k) = [f] := by simp [hk]
      rw [if_pos hk, hself]
      rcases hgroup : before.filter fun f => f.2.groupKey? = some k with _ | ⟨first, rest⟩
      · rw [hgroup]
        rfl
      · have hfirst : first ∈ before.filter fun f => f.2.groupKey? = some k :=
          hgroup ▸ List.mem_cons_self
        have hpre : first.2.pre.isSome :=
          pre_of_groupKey? (of_decide_eq_true (List.mem_filter.mp hfirst).2)
        obtain ⟨pre, hpre'⟩ := Option.isSome_iff_exists.mp hpre
        rw [hgroup, founded?_concat hpre]
        simp [founded?, hpre']
    · have hother : [f].filter (fun f => f.2.groupKey? = some k) = [] := by simp [hk]
      rw [if_neg hk, hother, List.append_nil]

end Group

namespace EngineSuite

lemma take_eq {ids : List String} (h : ids.Nodup) (left : OrderedMap String Member) :
    (take ids left).1 = ids.filterMap left.get? := by
  induction ids generalizing left with
  | nil => rfl
  | cons id rest ih =>
    obtain ⟨hnew, hrest⟩ := List.nodup_cons.mp h
    unfold take
    cases hid : left.get? id with
    | none => rw [List.filterMap_cons_none hid, ← ih hrest]
    | some m =>
      rw [List.filterMap_cons_some hid]
      refine congrArg (m :: ·) ((ih hrest _).trans (List.filterMap_congr fun id' hid' => ?_))
      have hdiffers : id' ≠ id := fun heq => hnew (heq ▸ hid')
      rw [OrderedMap.get?_erase, if_neg hdiffers]

lemma members_eq {gs : List Group} (h : (gs.flatMap (·.testIds)).Nodup)
    (left : OrderedMap String Member) :
    members gs left = gs.map fun g => (g, g.testIds.filterMap left.get?) := by
  induction gs generalizing left with
  | nil => rfl
  | cons g rest ih =>
    rw [List.flatMap_cons, List.nodup_append] at h
    obtain ⟨hfirst, hrest, hapart⟩ := h
    unfold members
    rw [List.map_cons]
    refine congrArg₂ _ (congrArg (g, ·) (take_eq hfirst left)) ?_
    rw [ih hrest]
    refine List.map_congr_left fun g' hg' =>
      congrArg (g', ·) (List.filterMap_congr fun id hid => ?_)
    rw [get?_take, if_neg fun hmem => hapart id hmem id (List.mem_flatMap.mpr ⟨g', hg', hid⟩) rfl]

def keyed (fixtures : List Member) (k : Hash) : List Member :=
  fixtures.filter fun m => m.fixture.groupKey? = some k

def founded (fixtures : List Member) : OrderedMap Hash Group :=
  Group.ofFixtures (fixtures.map fun m => (testId m, m.fixture))

lemma get?_founded (fixtures : List Member) (k : Hash) :
    (founded fixtures).get? k =
      Group.founded? ((keyed fixtures k).map fun m => (testId m, m.fixture)) := by
  rw [founded, Group.get?_ofFixtures, List.filter_map]
  rfl

lemma get?_founded_eq_some {fixtures : List Member} {k : Hash} {g : Group}
    (h : (founded fixtures).get? k = some g) :
    g.testIds = (keyed fixtures k).map testId ∧ ∃ first rest, keyed fixtures k = first :: rest ∧
      first.fixture.pre = some g.pre ∧ g.network = first.fixture.network := by
  rw [get?_founded] at h
  cases hkeyed : keyed fixtures k with
  | nil =>
    rw [hkeyed] at h
    cases h
  | cons first rest =>
    rw [hkeyed] at h
    obtain ⟨pre, hpre, rfl⟩ := Option.map_eq_some_iff.mp h
    refine ⟨?_, first, rest, rfl, hpre, rfl⟩
    exact congrArg (testId first :: ·) (List.map_map (l := rest))

section Inline

variable {fixtures : List Member} (hpre : ∀ m ∈ fixtures, m.fixture.pre.isSome)
  (hids : (fixtures.map testId).Nodup)

include hids in
lemma filterMap_testId {ms : List Member} (h : ms ⊆ fixtures) :
    (ms.map testId).filterMap (OrderedMap.ofList (fixtures.map fun m => (testId m, m))).get? =
      ms := by
  rw [List.filterMap_map]
  refine (List.filterMap_congr fun m hm => ?_).trans List.filterMap_some
  have hkeys : ((fixtures.map fun m => (testId m, m)).map (·.1)).Nodup := by
    rw [List.map_map]
    exact hids
  rw [Function.comp_apply, OrderedMap.get?_ofList hkeys,
    OrderedMap.find_eq_some_iff_of_nodup hkeys]
  exact List.mem_map_of_mem (h hm)

include hpre hids

/-- Each group is run with the fixtures that have its key, in their order. -/
lemma inlineGroups_eq : inlineGroups fixtures =
    (founded fixtures).entries.map fun e => (e.2, keyed fixtures e.1) := by
  have hapart : ((founded fixtures).values.flatMap (·.testIds)).Nodup := by
    refine (Group.ofFixtures_testIds _ fun f hf => ?_).nodup_iff.mpr ?_
    · obtain ⟨m, hm, rfl⟩ := List.mem_map.mp hf
      exact hpre m hm
    · rw [List.map_map]
      exact hids
  change members (founded fixtures).values _ = _
  rw [members_eq hapart, OrderedMap.values, List.map_map]
  refine List.map_congr_left fun e he => congrArg (e.2, ·) ?_
  obtain ⟨hids', -⟩ := get?_founded_eq_some (OrderedMap.mem_entries_iff.mp he)
  have hkept : keyed fixtures e.1 ⊆ fixtures := List.filter_subset_self _
  rw [hids', filterMap_testId hids hkept]

lemma inlineGroups_members_perm : (inlineGroups fixtures).flatMap (·.2) ~ fixtures :=
  (inlineGroups_perm hpre).trans (values_testIds_perm hids)

lemma mem_inlineGroups {group : Group} {ms : List Member}
    (h : (group, ms) ∈ inlineGroups fixtures) : ∃ k first rest, ms = first :: rest ∧
      keyed fixtures k = ms ∧ first.fixture.pre = some group.pre ∧
      group.network = first.fixture.network := by
  rw [inlineGroups_eq hpre hids] at h
  obtain ⟨⟨k, g⟩, he, heq⟩ := List.mem_map.mp h
  obtain ⟨rfl, rfl⟩ := Prod.mk.inj heq
  obtain ⟨-, first, rest, hkeyed, hfirst, hnetwork⟩ :=
    get?_founded_eq_some (OrderedMap.mem_entries_iff.mp he)
  exact ⟨k, first, rest, hkeyed, rfl, hfirst, hnetwork⟩

end Inline

lemma inlineGroups_of_key {fixtures : List Member} {k : Hash} (hids : (fixtures.map testId).Nodup)
    (h : ∀ m ∈ fixtures, m.fixture.groupKey? = some k) (hne : fixtures ≠ []) :
    ∃ group, inlineGroups fixtures = [(group, fixtures)] := by
  have hpre : ∀ m ∈ fixtures, m.fixture.pre.isSome := fun m hm => pre_of_groupKey? (h m hm)
  have hkeyed (k' : Hash) : keyed fixtures k' = if k' = k then fixtures else [] := by
    by_cases hk : k' = k
    · rw [if_pos hk, hk]
      exact List.filter_eq_self.mpr fun m hm => decide_eq_true (h m hm)
    · rw [if_neg hk]
      refine List.filter_eq_nil_iff.mpr fun m hm hm' => hk ?_
      exact Option.some.inj ((of_decide_eq_true hm').symm.trans (h m hm))
  obtain ⟨first, rest, rfl⟩ := List.exists_cons_of_ne_nil hne
  obtain ⟨pre, hpre'⟩ := Option.isSome_iff_exists.mp (hpre first List.mem_cons_self)
  obtain ⟨group, hgroup⟩ : ∃ group,
      Group.founded? ((first :: rest).map fun m => (testId m, m.fixture)) = some group :=
    ⟨_, by rw [List.map_cons, Group.founded?, hpre', Option.map_some]⟩
  have hentries : (founded (first :: rest)).entries = [(k, group)] := by
    refine List.perm_singleton.mp (OrderedMap.entries_perm (List.nodup_singleton _) ?_)
    intro k' g
    rw [get?_founded, hkeyed, List.mem_singleton, Prod.mk.injEq]
    by_cases hk : k' = k
    · rw [if_pos hk, hgroup, Option.some.injEq, and_iff_right hk, eq_comm]
    · rw [if_neg hk]
      exact ⟨fun h => absurd h.1 hk, nofun⟩
  rw [inlineGroups_eq hpre hids, hentries]
  exact ⟨group, by rw [List.map_singleton, hkeyed, if_pos rfl]⟩

lemma foldl_add_inline {ms : List Member} (h : ∀ m ∈ ms, isInline m) (p : Plan) :
    ms.foldl Plan.add p = { p with inline := p.inline ++ ms } := by
  induction ms generalizing p with
  | nil => rw [List.foldl_nil, List.append_nil]
  | cons m rest ih =>
    obtain ⟨hm, hrest⟩ := List.forall_mem_cons.mp h
    obtain ⟨hengine, hhash⟩ := Bool.and_eq_true_iff.mp hm
    have hadd : p.add m = { p with inline := p.inline ++ [m] } := by
      simp [Plan.add, hengine, Option.isNone_iff_eq_none.mp hhash]
    rw [List.foldl_cons, hadd, ih hrest, List.append_assoc]
    rfl

variable {ω σ : Type} (terms : Terms) (launcher : Launcher ω σ) (files : Files) (root : String)

lemma groups_inline {cases : Cases} (h : ∀ m ∈ cases.members, isInline m) :
    groups files root cases = (cases.settled, inlineGroups cases.members) := by
  unfold groups
  rw [foldl_add_inline h]
  exact congrArg (·, _) (List.append_nil _)

/-- The report has the results that stand already and those of each of the groups. -/
lemma run_inline (cases : Cases) (h : ∀ m ∈ cases.members, isInline m) (m : Moment ω) :
    ∃ batches, List.Forall₂ (fun g batch => ∃ start,
        (PayloadGroup.run terms launcher g.1 g.2 start).1 = batch)
      (inlineGroups cases.members) batches ∧
      (run terms launcher files root cases m).1 ~ cases.settled ++ batches.flatten := by
  let runGroup (g : Group × List Member) : StateM (Moment ω) (List CaseResult) :=
    modifyGet (PayloadGroup.run terms launcher g.1 g.2)
  refine ⟨_, mapM_runs runGroup (inlineGroups cases.members) m, ?_⟩
  unfold run
  rw [groups_inline files root h]
  exact List.mergeSort_perm _ _

lemma run_of_group (cases : Cases) (h : ∀ m ∈ cases.members, isInline m) {group : Group}
    {ms : List Member} (hgroups : inlineGroups cases.members = [(group, ms)]) (m : Moment ω) :
    (run terms launcher files root cases m).1 ~
      cases.settled ++ (PayloadGroup.run terms launcher group ms m).1 := by
  unfold run
  rw [groups_inline files root h, hgroups]
  refine (List.mergeSort_perm _ _).trans (.of_eq ?_)
  exact congrArg (cases.settled ++ ·) (List.append_nil _)

end EngineSuite

end ChainConformance
