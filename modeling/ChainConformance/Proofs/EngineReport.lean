import ChainConformance.Proofs.ClientLifecycle
import ChainConformance.Proofs.OrderedMaps
import ChainConformance.Proofs.Steps
import ChainConformance.Sample.Client
import ChainConformance.Sample.Fixtures
import ChainConformance.Suite.Engine
import Mathlib.Data.List.Forall2

/-!
# Reports of suites over the engine interface

The fixtures of a suite are sorted into groups, and those with states of their own are found
again in their groups by their test ids. The report has one result for each fixture if and
only if these ids differ.
-/

namespace ChainConformance

open scoped List

/-- What a fixture is known by in a report. -/
def Member.title (m : Member) : String × String := (m.path, m.name)

def CaseResult.title (r : CaseResult) : String × String := (r.path, r.name)

@[simp] lemma Member.title_result (m : Member) (r : FaultOr Verdict) :
    (m.result r).title = m.title := rfl

@[simp] lemma Member.title_failed (m : Member) (failure : Failure) :
    (m.failed failure).title = m.title := rfl

lemma flatten_titles {α : Type} {members : α → List Member} {todo : List α}
    {batches : List (List CaseResult)} (h : List.Forall₂
      (fun a batch => batch.map CaseResult.title = (members a).map Member.title) todo batches) :
    batches.flatten.map CaseResult.title = (todo.flatMap members).map Member.title := by
  induction h with
  | nil => rfl
  | cons hbatch _ ih =>
    rw [List.flatten_cons, List.map_append, hbatch, ih, List.flatMap_cons, List.map_append]

namespace PayloadGroup

variable {ω σ : Type}

lemma run_titles (terms : Terms) (launcher : Launcher ω σ) (group : Group)
    (members : List Member) (m : Moment ω) :
    (run terms launcher group members m).1.map CaseResult.title =
      members.map Member.title := by
  cases members with
  | nil => rfl
  | cons first rest =>
    obtain ⟨_, _, history, _, _, reported⟩ := session_orderly
      (g := ofGroup terms launcher group first (rest.length + 1)) (first :: rest) m
    exact reported.named history.named

end PayloadGroup

namespace EngineSuite

lemma take_perm (ids : List String) (left : OrderedMap String Member) :
    ((take ids left).1 ++ (take ids left).2.values).Perm left.values := by
  induction ids generalizing left with
  | nil => exact .refl _
  | cons id rest ih =>
    unfold take
    cases hid : left.get? id with
    | none => exact ih left
    | some m =>
      have hperm := (OrderedMap.entries_erase_perm hid).map (·.2)
      exact ((ih (left.erase id)).cons m).trans hperm.symm

lemma get?_take (ids : List String) (left : OrderedMap String Member) (id : String) :
    (take ids left).2.get? id = if id ∈ ids then none else left.get? id := by
  induction ids generalizing left with
  | nil => rfl
  | cons first rest ih =>
    unfold take
    cases hfirst : left.get? first with
    | none =>
      rw [ih]
      by_cases hid : id = first
      · simp [hid, hfirst]
      · simp [hid]
    | some m =>
      simp only [ih, OrderedMap.get?_erase, List.mem_cons]
      by_cases hid : id = first <;> simp [hid]

lemma members_perm {gs : List Group} {left : OrderedMap String Member}
    (h : ∀ id m, left.get? id = some m → ∃ g ∈ gs, id ∈ g.testIds) :
    ((members gs left).flatMap (·.2)).Perm left.values := by
  induction gs generalizing left with
  | nil =>
    have hempty : left.entries = [] := by
      refine List.eq_nil_iff_forall_not_mem.mpr fun e he => ?_
      obtain ⟨g, hg, _⟩ := h _ _ (OrderedMap.mem_entries_iff.mp he)
      cases hg
    simp [members, OrderedMap.values, hempty]
  | cons g rest ih =>
    have hrest : ∀ id m, (take g.testIds left).2.get? id = some m →
        ∃ g ∈ rest, id ∈ g.testIds := by
      intro id m hid
      rw [get?_take] at hid
      split at hid
      · cases hid
      next hnot =>
        obtain ⟨g', hg', hmem⟩ := h id m hid
        rcases List.mem_cons.mp hg' with rfl | hg'
        · exact absurd hmem hnot
        · exact ⟨g', hg', hmem⟩
    exact ((ih hrest).append_left _).trans (take_perm g.testIds left)

end EngineSuite

lemma Group.ofFixtures_testIds (fixtures : List (String × Fixture))
    (h : ∀ f ∈ fixtures, f.2.pre.isSome) :
    ((Group.ofFixtures fixtures).values.flatMap (·.testIds)).Perm (fixtures.map (·.1)) := by
  have hfold : ∀ groups : OrderedMap Hash Group,
      ((fixtures.foldl (fun groups f => Group.join groups f.1 f.2) groups).values.flatMap
        (·.testIds)).Perm (groups.values.flatMap (·.testIds) ++ fixtures.map (·.1)) := by
    induction fixtures with
    | nil => intro groups; simp
    | cons f rest ih =>
      intro groups
      obtain ⟨hf, hrest⟩ := List.forall_mem_cons.mp h
      obtain ⟨pre, hpre⟩ := Option.isSome_iff_exists.mp hf
      have hjoin : ((Group.join groups f.1 f.2).values.flatMap (·.testIds)).Perm
          (groups.values.flatMap (·.testIds) ++ [f.1]) := by
        rw [Group.join, hpre]
        refine OrderedMap.flatMap_values_insert _ ?_
        cases groups.get? _ <;> rfl
      refine (ih hrest _).trans ((hjoin.append_right _).trans ?_)
      rw [List.append_assoc]
      exact .refl _
  exact hfold .empty

namespace EngineSuite

lemma inlineGroups_perm {fixtures : List Member} (h : ∀ m ∈ fixtures, m.fixture.pre.isSome) :
    ((inlineGroups fixtures).flatMap (·.2)).Perm
      (OrderedMap.ofList (fixtures.map fun m => (testId m, m))).values := by
  refine members_perm fun id m hid => ?_
  have hkey : id ∈ (OrderedMap.ofList (fixtures.map fun m => (testId m, m))).keys :=
    OrderedMap.mem_keys_iff.mpr ⟨m, hid⟩
  rw [(OrderedMap.keys_ofList_perm _).mem_iff, List.mem_dedup, List.map_map] at hkey
  have hids := Group.ofFixtures_testIds (fixtures.map fun m => (testId m, m.fixture)) ?_
  · rw [List.map_map] at hids
    have hmem := hids.mem_iff.mpr hkey
    exact List.mem_flatMap.mp hmem
  · intro f hf
    obtain ⟨m, hm, rfl⟩ := List.mem_map.mp hf
    exact h m hm

lemma values_testIds_perm {fixtures : List Member} (h : (fixtures.map testId).Nodup) :
    (OrderedMap.ofList (fixtures.map fun m => (testId m, m))).values ~ fixtures := by
  have hkeys := List.map_map (f := fun m => (testId m, m)) (g := Prod.fst) (l := fixtures)
  have hentries := (OrderedMap.entries_ofList_perm (by rwa [hkeys])).map (·.2)
  rwa [List.map_map, show Prod.snd ∘ (fun m => (testId m, m)) = id from rfl,
    List.map_id] at hentries

/-- Whether a fixture of payloads is grouped by a state of its own. -/
def isInline (m : Member) : Bool := m.fixture.isEngine && m.fixture.preHash.isNone

/-- What becomes of the fixtures of a plan: those with states of their own are kept for later,
and any other has a result or a place in its group. -/
lemma foldl_add (cases : List Member) (p : Plan) : ∃ missing : List CaseResult,
    (cases.foldl Plan.add p).settled = p.settled ++ missing ∧
    (cases.foldl Plan.add p).inline = p.inline ++ cases.filter isInline ∧
    (missing.map CaseResult.title ++
        ((cases.foldl Plan.add p).grouped.values.flatMap id).map Member.title).Perm
      ((p.grouped.values.flatMap id).map Member.title ++
        (cases.filter (!isInline ·)).map Member.title) := by
  induction cases generalizing p with
  | nil => exact ⟨[], by simp⟩
  | cons m rest ih =>
    obtain ⟨missing, hsettled, hinline, hperm⟩ := ih (p.add m)
    rw [List.foldl_cons, hsettled, hinline]
    by_cases hengine : m.fixture.isEngine
    · cases hhash : m.fixture.preHash with
      | none =>
        have hadd : p.add m = { p with inline := p.inline ++ [m] } := by
          simp [Plan.add, hengine, hhash]
        rw [hadd] at hperm ⊢
        exact ⟨missing, rfl, by simp [isInline, hengine, hhash],
          by simpa [isInline, hengine, hhash] using hperm⟩
      | some hash =>
        have hadd : p.add m =
            { p with grouped := p.grouped.insert hash ((p.grouped.get? hash).getD [] ++ [m]) } := by
          simp [Plan.add, hengine, hhash]
        rw [hadd] at hperm ⊢
        refine ⟨missing, rfl, by simp [isInline, hengine, hhash], hperm.trans ?_⟩
        have hinsert : ((p.grouped.insert hash
            ((p.grouped.get? hash).getD [] ++ [m])).values.flatMap id).Perm
              (p.grouped.values.flatMap id ++ [m]) := by
          refine OrderedMap.flatMap_values_insert _ ?_
          cases p.grouped.get? hash <;> rfl
        refine ((hinsert.map Member.title).append_right _).trans ?_
        simp [isInline, hengine, hhash]
    · let failure : Failure :=
        { kind := .fixtureConstruction, message := some "fixture has no engine payloads" }
      have hadd : p.add m = { p with settled := p.settled ++ [m.failed failure] } := by
        simp [Plan.add, hengine, failure]
      rw [hadd] at hperm ⊢
      refine ⟨m.failed failure :: missing, List.append_assoc .., by simp [isInline, hengine], ?_⟩
      have htitle := (hperm.cons m.title).trans List.perm_middle.symm
      simpa [isInline, hengine] using htitle

lemma loadGroup_titles (files : Files) (root : String) (hash : Hash) (ms : List Member) :
    (loadGroup files root hash ms).1.map CaseResult.title ++
      ((loadGroup files root hash ms).2.flatMap (·.2)).map Member.title =
        ms.map Member.title := by
  unfold loadGroup
  cases Group.load files root hash with
  | error e => simp [Function.comp_def]
  | ok group => simp

lemma loadGroups_titles (files : Files) (root : String)
    (grouped : OrderedMap Hash (List Member)) :
    let loaded := grouped.entries.map fun e => loadGroup files root e.1 e.2
    ((loaded.flatMap (·.1)).map CaseResult.title ++
      ((loaded.flatMap (·.2)).flatMap (·.2)).map Member.title).Perm
        ((grouped.values.flatMap id).map Member.title) := by
  simp only [List.flatMap_map, List.map_flatMap, List.flatMap_assoc, OrderedMap.values]
  refine (List.flatMap_append_perm _ _ _).trans (.of_eq (List.flatMap_congr fun e _ => ?_))
  have htitles := loadGroup_titles files root e.1 e.2
  rwa [List.map_flatMap] at htitles

variable {ω σ : Type}

lemma batches_titles (terms : Terms) (launcher : Launcher ω σ)
    (todo : List (Group × List Member)) (m : Moment ω) :
    ((todo.mapM fun g => modifyGet (PayloadGroup.run terms launcher g.1 g.2) :
        StateM (Moment ω) (List (List CaseResult))).run m).1.flatten.map CaseResult.title =
      (todo.flatMap (·.2)).map Member.title := by
  refine flatten_titles ((mapM_runs _ todo m).imp ?_)
  rintro g _ ⟨start, rfl⟩
  exact PayloadGroup.run_titles terms launcher g.1 g.2 start

/-- The report of a suite has the results that stand already and, beside them, one result for
each fixture that is not grouped by its state and for each that is found by its test id. -/
lemma run_perm (terms : Terms) (launcher : Launcher ω σ) (files : Files) (root : String)
    (cases : Cases) (h : ∀ m ∈ cases.members.filter isInline, m.fixture.pre.isSome)
    (m : Moment ω) : ∃ results, (run terms launcher files root cases m).1 ~
        cases.settled ++ results ∧
      results.map CaseResult.title ~
        (cases.members.filter (!isInline ·) ++ (OrderedMap.ofList
          ((cases.members.filter isInline).map fun m => (testId m, m))).values).map
            Member.title := by
  obtain ⟨missing, hsettled, hinline, hperm⟩ :=
    foldl_add cases.members { settled := cases.settled }
  let plan := cases.members.foldl Plan.add { settled := cases.settled }
  let loaded := plan.grouped.entries.map fun e => loadGroup files root e.1 e.2
  let todo := loaded.flatMap (·.2) ++ inlineGroups plan.inline
  let batches := ((todo.mapM fun g => modifyGet (PayloadGroup.run terms launcher g.1 g.2) :
    StateM (Moment ω) (List (List CaseResult))).run m).1
  have hrun : (run terms launcher files root cases m).1 =
      CaseResult.collect (plan.settled ++ loaded.flatMap (·.1)) batches := rfl
  refine ⟨missing ++ loaded.flatMap (·.1) ++ batches.flatten, ?_, ?_⟩
  · rw [hrun, CaseResult.collect]
    refine (List.mergeSort_perm _ _).trans (.of_eq ?_)
    rw [show plan.settled = _ from hsettled]
    simp only [List.append_assoc]
  · have hloaded := loadGroups_titles files root plan.grouped
    have hinlined := (inlineGroups_perm h).map Member.title
    have hbatches : batches.flatten.map CaseResult.title =
        (todo.flatMap (·.2)).map Member.title := batches_titles terms launcher todo m
    rw [List.map_append, List.map_append, hbatches, List.flatMap_append, List.map_append,
      List.map_append, List.append_assoc, ← List.append_assoc (List.map _ (loaded.flatMap (·.1)))]
    rw [show plan.inline = cases.members.filter isInline from hinline, ← List.append_assoc]
    exact ((hloaded.append_left _).trans hperm).append hinlined

/-- Of the fixtures that are found by their test ids, the report has as many as there are
ids. -/
lemma run_length (terms : Terms) (launcher : Launcher ω σ) (files : Files) (root : String)
    (cases : Cases) (h : ∀ m ∈ cases.members.filter isInline, m.fixture.pre.isSome)
    (m : Moment ω) : (run terms launcher files root cases m).1.length =
      cases.settled.length + ((cases.members.filter (!isInline ·)).length +
        ((cases.members.filter isInline).map testId).dedup.length) := by
  obtain ⟨results, hrun, htitles⟩ := run_perm terms launcher files root cases h m
  have hkeys := (OrderedMap.keys_ofList_perm
    ((cases.members.filter isInline).map fun m => (testId m, m))).length_eq
  have hlength := htitles.length_eq
  simp only [List.length_map, List.length_append, OrderedMap.values] at hlength
  simp only [OrderedMap.keys, List.length_map, List.map_map] at hkeys
  rw [hrun.length_eq, List.length_append, hlength, hkeys]
  rfl

lemma pre_isSome_of_isInline {m : Member} (h : m.fixture.malformation? = none)
    (hinline : isInline m) : m.fixture.pre.isSome := by
  have hhash : m.fixture.preHash.isNone := (Bool.and_eq_true_iff.mp hinline).2
  by_contra hpre
  simp [Fixture.malformation?, hhash, Option.not_isSome_iff_eq_none.mp hpre] at h

/-- The report of a suite has, beside the results that stand already, one result for each of
its fixtures, and nothing else, if and only if no two of the fixtures that have states of
their own have the same test id. -/
theorem run_reports_each_iff (terms : Terms) (launcher : Launcher ω σ) (files : Files)
    (root : String) (cases : Cases) (h : ∀ m ∈ cases.members, m.fixture.malformation? = none)
    (m : Moment ω) :
    (∃ results, (run terms launcher files root cases m).1 ~ cases.settled ++ results ∧
      results.map CaseResult.title = cases.members.map Member.title) ↔
        ((cases.members.filter isInline).map testId).Nodup := by
  have hpre : ∀ m ∈ cases.members.filter isInline, m.fixture.pre.isSome := by
    intro m hm
    obtain ⟨hmem, hinline⟩ := List.mem_filter.mp hm
    exact pre_isSome_of_isInline (h m hmem) hinline
  constructor
  · rintro ⟨results, hrun, htitles⟩
    have hlength := hrun.length_eq
    have hall := congrArg List.length htitles
    have hparts := List.length_eq_length_filter_add (l := cases.members) isInline
    rw [run_length terms launcher files root cases hpre, List.length_append] at hlength
    rw [List.length_map, List.length_map] at hall
    rw [← List.dedup_eq_self]
    refine (List.dedup_sublist _).eq_of_length ?_
    rw [List.length_map]
    omega
  · intro hnodup
    obtain ⟨results, hrun, htitles⟩ := run_perm terms launcher files root cases hpre m
    have hfound := values_testIds_perm hnodup
    have hmembers : cases.members.map Member.title ~ results.map CaseResult.title :=
      ((((hfound.append_left _).trans List.perm_append_comm).trans
        (List.filter_append_perm isInline cases.members)).map Member.title).symm.trans
          htitles.symm
    -- The results can be put in the order of their fixtures.
    obtain ⟨ordered, hordered, hperm⟩ :=
      (congrFun₂ (List.eq_map_comp_perm CaseResult.title) _ _).mpr hmembers
    exact ⟨ordered, hrun.trans (hperm.symm.append_left _), hordered.symm⟩

def payloadMember (path name : String) : Member := ⟨path, name, Sample.payloadFixture 1 none⟩

theorem run_reports_each_apart :
    (∀ m ∈ [payloadMember "a.json" "b", payloadMember "a.json" "c"],
      m.fixture.malformation? = none) ∧
    ∃ results, (run { mapper := .empty, client := "client" } SampleLauncher.launcher .empty ""
        { members := [payloadMember "a.json" "b", payloadMember "a.json" "c"] } ⟨0, {}⟩).1 ~
          results ∧
      results.map CaseResult.title = [("a.json", "b"), ("a.json", "c")] := by
  have hvalid : ∀ m ∈ [payloadMember "a.json" "b", payloadMember "a.json" "c"],
      m.fixture.malformation? = none := by
    intro m hm
    rcases List.mem_pair.mp hm with rfl | rfl <;> rfl
  refine ⟨hvalid, (run_reports_each_iff _ _ _ _ _ hvalid _).mpr ?_⟩
  decide

/-- Two fixtures have the same test id if what stands before the separator is the path of the
one and what stands after the next separator is the name of the other: the report then has
no result for the first of them. -/
theorem run_loses_member :
    (∀ m ∈ [payloadMember "a.json" "b.json::c", payloadMember "a.json::b.json" "c"],
      m.fixture.malformation? = none) ∧
    (run { mapper := .empty, client := "client" } SampleLauncher.launcher .empty ""
      { members := [payloadMember "a.json" "b.json::c", payloadMember "a.json::b.json" "c"] }
      ⟨0, {}⟩).1.map CaseResult.title = [("a.json::b.json", "c")] := by
  have hvalid : ∀ m ∈ [payloadMember "a.json" "b.json::c", payloadMember "a.json::b.json" "c"],
      m.fixture.malformation? = none := by
    intro m hm
    rcases List.mem_pair.mp hm with rfl | rfl <;> rfl
  refine ⟨hvalid, ?_⟩
  obtain ⟨results, hrun, htitles⟩ := run_perm { mapper := .empty, client := "client" }
    SampleLauncher.launcher .empty ""
    { members := [payloadMember "a.json" "b.json::c", payloadMember "a.json::b.json" "c"] }
    (fun m hm => pre_isSome_of_isInline (hvalid m (List.mem_filter.mp hm).1)
      (List.mem_filter.mp hm).2) ⟨0, {}⟩
  exact List.perm_singleton.mp ((hrun.map _).trans htitles)

end EngineSuite

end ChainConformance
