import ChainConformance.Proofs.InlineGroups

/-!
# Groups divide the fixtures

Fixtures are taken into groups one after another. One with a state of its own joins the group
under its key and no other, one without joins none. In the end each group has the ids of those
that joined it, in their order, and the key that it is kept under.
-/

namespace ChainConformance

namespace Group

variable {fixtures : List (String × Fixture)} {f : String × Fixture} {i : Nat} {k : Hash}
  {g : Group}

def idsUnder (groups : OrderedMap Hash Group) (k : Hash) : List String :=
  ((groups.get? k).map (·.testIds)).getD []

/-- The fixture at a place joins the group under a key: as it is taken in, its id comes to stand
behind those that the group has from the fixtures before it. -/
def Joins (fixtures : List (String × Fixture)) (i : Nat) (k : Hash) : Prop :=
  ∃ f, fixtures[i]? = some f ∧ idsUnder (ofFixtures (fixtures.take (i + 1))) k =
    idsUnder (ofFixtures (fixtures.take i)) k ++ [f.1]

lemma ofFixtures_take_succ (h : fixtures[i]? = some f) :
    ofFixtures (fixtures.take (i + 1)) = join (ofFixtures (fixtures.take i)) f.1 f.2 := by
  rw [List.take_add_one, h, ofFixtures, List.foldl_append]
  rfl

lemma idsUnder_join (groups : OrderedMap Hash Group) (id : String) (f : Fixture) (k : Hash) :
    idsUnder (join groups id f) k =
      idsUnder groups k ++ if f.groupKey? = some k then [id] else [] := by
  rw [idsUnder, get?_join]
  by_cases hk : f.groupKey? = some k
  · obtain ⟨pre, hpre⟩ := Option.isSome_iff_exists.mp (pre_of_groupKey? hk)
    rw [if_pos hk, if_pos hk]
    cases hget : groups.get? k with
    | none => simp [idsUnder, hget, founded?, hpre]
    | some g => simp [idsUnder, hget, addMember]
  · rw [if_neg hk, if_neg hk, List.append_nil, idsUnder]

lemma joins_iff (h : fixtures[i]? = some f) : Joins fixtures i k ↔ f.2.groupKey? = some k := by
  rw [Joins, ofFixtures_take_succ h, idsUnder_join, h]
  by_cases hk : f.2.groupKey? = some k <;> simp [hk]

def placesUnder (fixtures : List (String × Fixture)) (k : Hash) : List Nat :=
  (List.range fixtures.length).filter fun i =>
    (fixtures[i]?.bind fun f => f.2.groupKey?) = some k

lemma mem_placesUnder : i ∈ placesUnder fixtures k ↔ Joins fixtures i k := by
  rw [placesUnder, List.mem_filter, List.mem_range, decide_eq_true_iff]
  constructor
  · rintro ⟨hi, hk⟩
    obtain ⟨f, hf, hk⟩ := Option.bind_eq_some_iff.mp hk
    exact (joins_iff hf).mpr hk
  · intro h
    obtain ⟨f, hf, -⟩ := id h
    refine ⟨(List.getElem?_eq_some_iff.mp hf).1, ?_⟩
    rw [hf]
    exact (joins_iff hf).mp h

lemma map_placesUnder (fixtures : List (String × Fixture)) (k : Hash) :
    (placesUnder fixtures k).map (fixtures[·]?) =
      (fixtures.filter fun f => f.2.groupKey? = some k).map some := by
  have hall : (List.range fixtures.length).map (fixtures[·]?) = fixtures.map some := by
    apply List.ext_getElem?
    intro i
    by_cases hi : i < fixtures.length
    · simp [hi]
    · simp [hi]
  have hfilter := congrArg
    (List.filter fun o => decide ((o.bind fun f => f.2.groupKey?) = some k)) hall
  rw [List.filter_map, List.filter_map] at hfilter
  exact hfilter

lemma get?_ofFixtures_eq_some (h : (ofFixtures fixtures).get? k = some g) :
    g.key = k ∧ g.testCount = g.testIds.length ∧
      ∃ first rest, (fixtures.filter fun f => f.2.groupKey? = some k) = first :: rest ∧
        g.testIds = (first :: rest).map (·.1) := by
  rw [get?_ofFixtures] at h
  cases hkeyed : fixtures.filter fun f => f.2.groupKey? = some k with
  | nil =>
    rw [hkeyed] at h
    cases h
  | cons first rest =>
    have hmem : first ∈ fixtures.filter fun f => f.2.groupKey? = some k :=
      hkeyed ▸ List.mem_cons_self
    have hfirst : first.2.groupKey? = some k := of_decide_eq_true (List.mem_filter.mp hmem).2
    rw [hkeyed] at h
    obtain ⟨pre, hpre, rfl⟩ := Option.map_eq_some_iff.mp h
    rw [groupKey?_of_pre hpre] at hfirst
    refine ⟨Option.some.inj hfirst, ?_, first, rest, rfl, rfl⟩
    simp

lemma get?_ofFixtures_isSome (hmem : f ∈ fixtures) (hk : f.2.groupKey? = some k) :
    ((ofFixtures fixtures).get? k).isSome := by
  have hfilter : f ∈ fixtures.filter fun f => f.2.groupKey? = some k :=
    List.mem_filter.mpr ⟨hmem, decide_eq_true hk⟩
  rw [get?_ofFixtures]
  cases hkeyed : fixtures.filter fun f => f.2.groupKey? = some k with
  | nil =>
    rw [hkeyed] at hfilter
    cases hfilter
  | cons first rest =>
    have hfirst : first ∈ fixtures.filter fun f => f.2.groupKey? = some k :=
      hkeyed ▸ List.mem_cons_self
    have hpre := pre_of_groupKey? (of_decide_eq_true (List.mem_filter.mp hfirst).2)
    rwa [founded?, Option.isSome_map]

/-- How fixtures are divided into groups. -/
structure Divided (fixtures : List (String × Fixture)) : Prop where
  joins_one : ∀ i f, fixtures[i]? = some f → f.2.pre.isSome → ∃! k, Joins fixtures i k
  joins_none : ∀ i f, fixtures[i]? = some f → f.2.pre = none → ∀ k, ¬Joins fixtures i k
  held : ∀ i k, Joins fixtures i k → ((ofFixtures fixtures).get? k).isSome
  members : ∀ k g, (ofFixtures fixtures).get? k = some g → ∃ places : List Nat, places ≠ [] ∧
    places.Pairwise (· < ·) ∧ (∀ i, i ∈ places ↔ Joins fixtures i k) ∧
    g.testIds.map some = places.map fun i => fixtures[i]?.map (·.1)
  count : ∀ k g, (ofFixtures fixtures).get? k = some g → g.testCount = g.testIds.length
  key : ∀ k g, (ofFixtures fixtures).get? k = some g → g.key = k
  together_iff : ∀ i j f f' pre pre', fixtures[i]? = some f → fixtures[j]? = some f' →
    f.2.pre = some pre → f'.2.pre = some pre' →
    ((∃ k, Joins fixtures i k ∧ Joins fixtures j k) ↔
      groupKey f.2.network (.ofHeader f.2.genesis) pre =
        groupKey f'.2.network (.ofHeader f'.2.genesis) pre')

theorem ofFixtures_divided (fixtures : List (String × Fixture)) : Divided fixtures where
  joins_one := by
    intro i f hf hpre
    obtain ⟨pre, hpre⟩ := Option.isSome_iff_exists.mp hpre
    refine ⟨_, (joins_iff hf).mpr (groupKey?_of_pre hpre), fun k hk => ?_⟩
    have hkey := (joins_iff hf).mp hk
    rw [groupKey?_of_pre hpre] at hkey
    exact (Option.some.inj hkey).symm
  joins_none := by
    intro i f hf hpre k hk
    have hkey := (joins_iff hf).mp hk
    rw [Fixture.groupKey?, hpre] at hkey
    cases hkey
  held := by
    intro i k h
    obtain ⟨f, hf, -⟩ := id h
    exact get?_ofFixtures_isSome (List.mem_of_getElem? hf) ((joins_iff hf).mp h)
  members := by
    intro k g hg
    obtain ⟨-, -, first, rest, hkeyed, hids⟩ := get?_ofFixtures_eq_some hg
    have hplaces := map_placesUnder fixtures k
    rw [hkeyed] at hplaces
    refine ⟨placesUnder fixtures k, ?_, List.pairwise_lt_range.filter _, fun i => mem_placesUnder,
      ?_⟩
    · intro hnil
      rw [hnil] at hplaces
      cases hplaces
    · have hnames := congrArg (List.map (Option.map (·.1))) hplaces
      rw [List.map_map, List.map_map] at hnames
      rw [hids, List.map_map]
      exact hnames.symm
  count := fun k g hg => (get?_ofFixtures_eq_some hg).2.1
  key := fun k g hg => (get?_ofFixtures_eq_some hg).1
  together_iff := by
    intro i j f f' pre pre' hf hf' hpre hpre'
    simp only [joins_iff hf, joins_iff hf', groupKey?_of_pre hpre, groupKey?_of_pre hpre']
    simp [eq_comm]

end Group

end ChainConformance
