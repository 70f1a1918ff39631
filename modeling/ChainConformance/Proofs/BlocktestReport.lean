import ChainConformance.Proofs.OrderedMaps
import ChainConformance.Proofs.ReportOrder
import ChainConformance.Proofs.Steps
import ChainConformance.Sample.Fixtures
import ChainConformance.Suite.Blocktest

/-!
# Reports of a client's own command

The command of a client reports on a file of fixtures by a list of entries, and nothing keeps
two entries from having one name. The entries go through a map by names, in which the last one
with a name counts, and each fixture of the file takes what is under its name out of the map. So a
fixture passes if and only if it is the first of its name in the file and the last entry with this
name passed. An entry that failed is masked by a later one of the same name that passed, and there
is no other way for a fixture to pass against the report.
-/

namespace ChainConformance

namespace BlocktestOutcome

lemma isPass_verdict (o : BlocktestOutcome) : o.verdict.isPass = o.pass := by
  unfold verdict
  cases o.pass <;> rfl

end BlocktestOutcome

namespace Blocktest

def named (name : String) (outcomes : List BlocktestOutcome) : List BlocktestOutcome :=
  outcomes.filter (name = ·.name)

lemma get?_verdicts (outcomes : List BlocktestOutcome) (name : String) :
    (verdicts outcomes).get? name =
      (named name outcomes).getLast?.map BlocktestOutcome.verdict := by
  rw [verdicts, OrderedMap.get?_ofList_eq_getLast?, List.filter_map, List.getLast?_map,
    Option.map_map]
  rfl

variable {ω : Type}

/-- What the command reports of a file. There is nothing if it cannot be run, does not end in
time or prints no report. -/
def Command.outcomesOf? (c : Command) (shell : Shell ω) (file : String) (m : Moment ω) :
    Option (List BlocktestOutcome) :=
  match (m.within c.timeout (shell { program := c.path, arguments := ["blocktest", file] })).1 with
  | .done (.ok output) => outcomes? output.stdout
  | _ => none

lemma Command.toOption_runFile (c : Command) (shell : Shell ω) (file : String) (m : Moment ω) :
    (c.runFile shell file m).1.toOption = (c.outcomesOf? shell file m).map verdicts := by
  unfold runFile outcomesOf?
  rcases m.within c.timeout _ with ⟨(why | output) | _ | _, after⟩
  · rfl
  · change (c.report output).toOption = (outcomes? output.stdout).map verdicts
    unfold report
    cases outcomes? output.stdout <;> rfl
  · rfl
  · rfl

end Blocktest

namespace BlocktestSuite

/-- A fixture when it is judged: the file that the command was given, the fixtures that were
judged by its report before, and the entries that the command reported of the file, if it did. -/
structure Trial where
  file : String
  report : Option (List BlocktestOutcome)
  earlier : List Member
  member : Member

namespace Trial

def entries (t : Trial) : List BlocktestOutcome :=
  Blocktest.named t.member.name (t.report.getD [])

/-- The fixture is the first with its name in the file, and the last entry with this name
passed. -/
def Passes (t : Trial) : Prop :=
  (∀ m ∈ t.earlier, m.name ≠ t.member.name) ∧
    ∃ o, t.entries.getLast? = some o ∧ o.pass = true

/-- The report has an entry with the name of the fixture, and all entries with this name
passed. -/
def Upheld (t : Trial) : Prop := t.entries ≠ [] ∧ ∀ o ∈ t.entries, o.pass = true

/-- The fixture passes, although some entry with its name failed. -/
def Masked (t : Trial) : Prop := t.Passes ∧ ∃ o ∈ t.entries, o.pass = false

variable {t : Trial}

lemma Passes.entries_ne_nil (h : t.Passes) : t.entries ≠ [] := by
  obtain ⟨-, o, hlast, -⟩ := h
  intro hnil
  rw [hnil] at hlast
  cases hlast

lemma upheld_iff : (t.Passes → t.Upheld) ↔ ¬t.Masked := by
  constructor
  · rintro h ⟨hpasses, o, ho, hfailed⟩
    rw [(h hpasses).2 o ho] at hfailed
    cases hfailed
  · intro h hpasses
    refine ⟨hpasses.entries_ne_nil, fun o ho => ?_⟩
    rw [← Bool.not_eq_false]
    exact fun hfailed => h ⟨hpasses, o, ho, hfailed⟩

/-- The result that a fixture has after its trial. -/
def Gives (t : Trial) (r : CaseResult) : Prop :=
  ∃ v, r = t.member.result (.ok v) ∧ (v.isPass = true ↔ t.Passes)

end Trial

def trialsAfter (file : String) (report : Option (List BlocktestOutcome)) (earlier : List Member) :
    List Member → List Trial
  | [] => []
  | m :: rest => ⟨file, report, earlier, m⟩ :: trialsAfter file report (earlier ++ [m]) rest

lemma members_trialsAfter (file : String) (report : Option (List BlocktestOutcome))
    (earlier members : List Member) :
    (trialsAfter file report earlier members).map (·.member) = members := by
  induction members generalizing earlier with
  | nil => rfl
  | cons m rest ih => rw [trialsAfter, List.map_cons, ih]

lemma mem_trialsAfter {file : String} {report : Option (List BlocktestOutcome)}
    {earlier members : List Member} {t : Trial} (h : t ∈ trialsAfter file report earlier members) :
    t.file = file ∧ t.report = report ∧ t.member ∈ members := by
  induction members generalizing earlier with
  | nil => cases h
  | cons m rest ih =>
    rcases List.mem_cons.mp h with rfl | h
    · exact ⟨rfl, rfl, List.mem_cons_self⟩
    · obtain ⟨hfile, hreport, hmem⟩ := ih h
      exact ⟨hfile, hreport, List.mem_cons_of_mem _ hmem⟩

/-- What is left in the map of a report once the verdicts of the earlier fixtures are taken
out. -/
def Left (outcomes : List BlocktestOutcome) (earlier : List Member)
    (report : OrderedMap String Verdict) : Prop :=
  ∀ name, report.get? name =
    if ∃ m ∈ earlier, m.name = name then none
    else (Blocktest.named name outcomes).getLast?.map BlocktestOutcome.verdict

lemma Left.erase {outcomes : List BlocktestOutcome} {earlier : List Member}
    {report : OrderedMap String Verdict} (h : Left outcomes earlier report) (m : Member) :
    Left outcomes (earlier ++ [m]) (report.erase m.name) := by
  intro name
  rw [OrderedMap.get?_erase, h]
  by_cases hname : name = m.name
  · rw [if_pos hname, if_pos ⟨m, by simp, hname.symm⟩]
  · rw [if_neg hname]
    refine if_congr ?_ rfl rfl
    simp [Ne.symm hname]

lemma Left.isPass_iff {outcomes : List BlocktestOutcome} {earlier : List Member}
    {report : OrderedMap String Verdict} (h : Left outcomes earlier report) (file : String)
    (m : Member) : ((report.get? m.name).getD (.fail missing)).isPass = true ↔
      Trial.Passes ⟨file, some outcomes, earlier, m⟩ := by
  rw [h, Trial.Passes]
  by_cases htaken : ∃ m' ∈ earlier, m'.name = m.name
  · rw [if_pos htaken]
    obtain ⟨m', hm', hname⟩ := htaken
    exact iff_of_false nofun fun hpasses => hpasses.1 m' hm' hname
  · rw [if_neg htaken]
    have hfirst : ∀ m' ∈ earlier, m'.name ≠ m.name := fun m' hm' hname => htaken ⟨m', hm', hname⟩
    rw [and_iff_right hfirst]
    change _ ↔ ∃ o, (Blocktest.named m.name outcomes).getLast? = some o ∧ o.pass = true
    cases (Blocktest.named m.name outcomes).getLast? with
    | none => exact iff_of_false nofun nofun
    | some o => simp [BlocktestOutcome.isPass_verdict]

lemma results_give {outcomes : List BlocktestOutcome} {earlier : List Member}
    {report : OrderedMap String Verdict} (h : Left outcomes earlier report) (file : String)
    (members : List Member) :
    List.Forall₂ Trial.Gives (trialsAfter file (some outcomes) earlier members)
      (results members report) := by
  induction members generalizing earlier report with
  | nil => exact .nil
  | cons m rest ih => exact .cons ⟨_, rfl, h.isPass_iff file m⟩ (ih (h.erase m))

lemma failed_give (file : String) (earlier members : List Member) (failure : Failure) :
    List.Forall₂ Trial.Gives (trialsAfter file none earlier members)
      (members.map (·.failed failure)) := by
  induction members generalizing earlier with
  | nil => exact .nil
  | cons m rest ih =>
    refine .cons ⟨_, rfl, iff_of_false nofun fun hpasses => ?_⟩ (ih _)
    exact hpasses.entries_ne_nil rfl

/-! ### Fixtures file by file -/

/-- Fixtures are in one group if and only if their paths have the same steps. -/
structure ByPath (groups : List (List Member)) : Prop where
  nonempty : [] ∉ groups
  within : ∀ g ∈ groups, ∀ a ∈ g, ∀ b ∈ g, Path.steps a.path = Path.steps b.path
  across : groups.Pairwise fun g h => ∀ a ∈ g, ∀ b ∈ h, Path.steps a.path ≠ Path.steps b.path

lemma pathAtMost_trans (a b c : Member) (h : Cases.pathAtMost a.path b.path = true)
    (h' : Cases.pathAtMost b.path c.path = true) : Cases.pathAtMost a.path c.path = true := by
  simp only [Cases.pathAtMost, Bool.not_eq_true', Bool.eq_false_iff, ne_eq] at h h' ⊢
  intro hback
  by_cases hab : Path.steps a.path = Path.steps b.path
  · exact h' (hab ▸ hback)
  · exact h' (Path.stepsBefore_trans hback ((Path.stepsBefore_total hab).resolve_right h))

lemma pathAtMost_total (a b : Member) :
    (Cases.pathAtMost a.path b.path || Cases.pathAtMost b.path a.path) = true := by
  simp only [Cases.pathAtMost, Bool.or_eq_true, Bool.not_eq_true']
  by_cases h : Path.stepsBefore (Path.steps b.path) (Path.steps a.path) = true
  · exact Or.inr (Path.stepsBefore_asymm h)
  · exact Or.inl (Bool.eq_false_iff.mpr h)

lemma steps_eq_of_between {a b c : String} (h : Cases.pathAtMost a b = true)
    (h' : Cases.pathAtMost b c = true) (hac : Path.steps a = Path.steps c) :
    Path.steps a = Path.steps b := by
  simp only [Cases.pathAtMost, Bool.not_eq_true', Bool.eq_false_iff, ne_eq] at h h'
  by_contra hab
  rcases Path.stepsBefore_total hab with hbefore | hbefore
  · exact h' (hac ▸ hbefore)
  · exact h hbefore

lemma ByPath.nil : ByPath [] := ⟨List.not_mem_nil, by simp, .nil⟩

lemma ByPath.cons {first : Member} {members : List Member} {groups : List (List Member)}
    (h : ByPath groups) (hwithin : ∀ b ∈ members, Path.steps first.path = Path.steps b.path)
    (hacross : ∀ b ∈ groups.flatten, Path.steps first.path ≠ Path.steps b.path) :
    ByPath ((first :: members) :: groups) := by
  have hsame : ∀ a ∈ first :: members, Path.steps a.path = Path.steps first.path := by
    intro a ha
    rcases List.mem_cons.mp ha with rfl | ha
    · rfl
    · exact (hwithin a ha).symm
  refine ⟨?_, ?_, List.pairwise_cons.mpr ⟨fun g hg a ha b hb => ?_, h.across⟩⟩
  · rw [List.mem_cons, not_or]
    exact ⟨nofun, h.nonempty⟩
  · intro g hg
    rcases List.mem_cons.mp hg with rfl | hg
    · exact fun a ha b hb => (hsame a ha).trans (hsame b hb).symm
    · exact h.within g hg
  · rw [hsame a ha]
    exact hacross b (List.mem_flatten.mpr ⟨g, hg, hb⟩)

lemma ByPath.tail {g : List Member} {groups : List (List Member)} (h : ByPath (g :: groups)) :
    ByPath groups :=
  ⟨fun hnil => h.nonempty (List.mem_cons_of_mem _ hnil),
    fun g hg => h.within g (List.mem_cons_of_mem _ hg), (List.pairwise_cons.mp h.across).2⟩

lemma ByPath.place {m : Member} {groups : List (List Member)} (h : ByPath groups)
    (hsorted : (m :: groups.flatten).Pairwise fun a b => Cases.pathAtMost a.path b.path = true) :
    (BlocktestSuite.place m groups).flatten = m :: groups.flatten ∧
      ByPath (BlocktestSuite.place m groups) := by
  obtain ⟨hle, hrest⟩ := List.pairwise_cons.mp hsorted
  rcases groups with _ | ⟨_ | ⟨first, members⟩, groups⟩
  · exact ⟨rfl, ByPath.nil.cons (by simp) (by simp)⟩
  · exact absurd List.mem_cons_self h.nonempty
  -- Only the first group may have the file of `m`: the fixtures of the others are further on.
  have hwithin := h.within _ List.mem_cons_self first List.mem_cons_self
  rw [BlocktestSuite.place]
  split
  next heq =>
    refine ⟨rfl, h.tail.cons (fun b hb => heq ▸ hwithin b hb) fun b hb => ?_⟩
    obtain ⟨g, hg, hb⟩ := List.mem_flatten.mp hb
    rw [← heq]
    exact (List.pairwise_cons.mp h.across).1 g hg first List.mem_cons_self b hb
  next hne =>
    -- A later fixture with the path of `m` would have the first of the groups between them.
    have hnext := (List.pairwise_cons.mp hrest).1
    refine ⟨rfl, h.cons (by simp) fun b hb heq => hne ?_⟩
    rcases List.mem_cons.mp hb with rfl | hb
    · exact heq.symm
    · exact (steps_eq_of_between (hle first (by simp)) (hnext b hb) heq).symm

/-- Each fixture is in one group, with those of its file. -/
lemma byFile_byPath (members : List Member) :
    (byFile members).flatten.Perm members ∧ ByPath (byFile members) := by
  have hgroups : ∀ l : List Member, l.Pairwise (fun a b => Cases.pathAtMost a.path b.path = true) →
      (l.foldr place []).flatten = l ∧ ByPath (l.foldr place []) := by
    intro l hl
    induction l with
    | nil => exact ⟨rfl, .nil⟩
    | cons m rest ih =>
      obtain ⟨hflatten, hpath⟩ := ih (List.pairwise_cons.mp hl).2
      have hplace := hpath.place (m := m) (by rwa [hflatten])
      rwa [hflatten] at hplace
  have hsorted := List.pairwise_mergeSort pathAtMost_trans pathAtMost_total members
  obtain ⟨hflatten, hpath⟩ := hgroups _ hsorted
  rw [byFile, hflatten]
  exact ⟨List.mergeSort_perm _ _, hpath⟩

variable {ω : Type} (terms : Terms) (command : Blocktest.Command) (shell : Shell ω)

def reportNow? (file : String) (m : Moment ω) : Option (List BlocktestOutcome) :=
  if isCancelled terms.cancelAt m.now then none else command.outcomesOf? shell file m

def fileTrials : List Member → StateM (Moment ω) (List Trial)
  | [] => return []
  | first :: rest => fun m =>
    (trialsAfter first.path (reportNow? terms command shell first.path m) [] (first :: rest),
      (runFile terms command shell (first :: rest) m).2)

def trials (members : List Member) : StateM (Moment ω) (List Trial) := do
  return (← (byFile members).mapM (fileTrials terms command shell)).flatten

variable {terms command shell}

lemma fileTrials_cons (first : Member) (rest : List Member) (m : Moment ω) :
    (fileTrials terms command shell (first :: rest) m).1 =
      trialsAfter first.path (reportNow? terms command shell first.path m) [] (first :: rest) := rfl

lemma runFile_cons (first : Member) (rest : List Member) (m : Moment ω) :
    (runFile terms command shell (first :: rest) m).1 =
      if isCancelled terms.cancelAt m.now then (first :: rest).map Member.cancelled
      else match (command.runFile shell first.path m).1 with
        | .ok report => results (first :: rest) report
        | .error e =>
          (first :: rest).map (·.failed { kind := .clientFault, message := some e.message }) := by
  rw [runFile]
  change (StateT.run (if isCancelled terms.cancelAt m.now then pure _ else _ :
    StateM (Moment ω) (List CaseResult)) m).1 = _
  split
  · rfl
  · change (StateT.run (match (command.runFile shell first.path m).1 with
      | .ok report => pure _
      | .error e => pure _ : StateM (Moment ω) (List CaseResult)) _).1 = _
    cases (command.runFile shell first.path m).1 <;> rfl

lemma runFile_gives (terms : Terms) (command : Blocktest.Command) (shell : Shell ω)
    (members : List Member) (m : Moment ω) :
    List.Forall₂ Trial.Gives (fileTrials terms command shell members m).1
      (runFile terms command shell members m).1 ∧
    (fileTrials terms command shell members m).2 = (runFile terms command shell members m).2 := by
  cases members with
  | nil => exact ⟨.nil, rfl⟩
  | cons first rest =>
    refine ⟨?_, rfl⟩
    rw [runFile_cons, fileTrials_cons, reportNow?]
    split
    · exact failed_give _ _ _ _
    · have hreport := command.toOption_runFile shell first.path m
      cases hran : (command.runFile shell first.path m).1 with
      | ok report =>
        rw [hran] at hreport
        obtain ⟨outcomes, houtcomes, rfl⟩ := Option.map_eq_some_iff.mp hreport.symm
        rw [houtcomes]
        exact results_give (fun name => by simp [Blocktest.get?_verdicts]) _ _
      | error e =>
        rw [hran] at hreport
        rw [Option.map_eq_none_iff.mp hreport.symm]
        exact failed_give _ _ _ _

def OfFile (members : List Member) (ts : List Trial) : Prop :=
  ts.map (·.member) = members ∧ ∃ file report, ∀ t ∈ ts,
    t.file = file ∧ t.report = report ∧ ∃ a ∈ members, a.path = file

lemma fileTrials_ofFile (members : List Member) (m : Moment ω) :
    OfFile members (fileTrials terms command shell members m).1 := by
  cases members with
  | nil => exact ⟨rfl, "", none, fun t ht => absurd ht List.not_mem_nil⟩
  | cons first rest =>
    rw [fileTrials_cons]
    refine ⟨members_trialsAfter _ _ _ _, first.path,
      reportNow? terms command shell first.path m, fun t ht => ?_⟩
    obtain ⟨hfile, hreport, -⟩ := mem_trialsAfter ht
    exact ⟨hfile, hreport, first, List.mem_cons_self, rfl⟩

/-- Fixtures of one file are judged by one report, on a path with the steps of their own. -/
def OneReport (ts : List Trial) : Prop :=
  (∀ t ∈ ts, Path.steps t.file = Path.steps t.member.path) ∧
    ∀ t ∈ ts, ∀ u ∈ ts, Path.steps t.member.path = Path.steps u.member.path →
      t.file = u.file ∧ t.report = u.report

lemma OneReport.append {ts us : List Trial} (h : OneReport ts) (h' : OneReport us)
    (apart : ∀ t ∈ ts, ∀ u ∈ us, Path.steps t.member.path ≠ Path.steps u.member.path) :
    OneReport (ts ++ us) := by
  refine ⟨fun t ht => (List.mem_append.mp ht).elim (h.1 t) (h'.1 t), fun t ht u hu heq => ?_⟩
  rcases List.mem_append.mp ht with ht | ht <;> rcases List.mem_append.mp hu with hu | hu
  · exact h.2 t ht u hu heq
  · exact absurd heq (apart t ht u hu)
  · exact absurd heq.symm (apart u hu t ht)
  · exact h'.2 t ht u hu heq

lemma ByPath.oneReport {groups : List (List Member)} {lists : List (List Trial)}
    (h : ByPath groups) (hlists : List.Forall₂ OfFile groups lists) :
    lists.flatten.map (·.member) = groups.flatten ∧ OneReport lists.flatten := by
  induction hlists with
  | nil => exact ⟨rfl, by simp [OneReport]⟩
  | @cons g ts groups lists hfile _ ih =>
    obtain ⟨hmembers, file, report, hread⟩ := hfile
    obtain ⟨hrest, hone⟩ := ih h.tail
    have hmem : ∀ t ∈ ts, t.member ∈ g := fun t ht => hmembers ▸ List.mem_map_of_mem ht
    rw [List.flatten_cons, List.flatten_cons, List.map_append, hmembers, hrest]
    refine ⟨rfl, OneReport.append ⟨fun t ht => ?_, fun t ht u hu _ => ?_⟩ hone
      fun t ht u hu => ?_⟩
    · obtain ⟨rfl, -, a, ha, hpath⟩ := hread t ht
      rw [← hpath]
      exact h.within g List.mem_cons_self a ha _ (hmem t ht)
    · rw [(hread t ht).1, (hread t ht).2.1, (hread u hu).1, (hread u hu).2.1]
      exact ⟨rfl, rfl⟩
    · have hu : u.member ∈ groups.flatten := hrest ▸ List.mem_map_of_mem hu
      obtain ⟨g', hg', hu⟩ := List.mem_flatten.mp hu
      exact (List.pairwise_cons.mp h.across).1 g' hg' _ (hmem t ht) _ hu

/-- A fixture passes if and only if it is the first of its name in its file and the last entry
with this name in the report on the file passed. There is a report on each file, by which all its
fixtures are judged, and one result for each fixture. A fixture that passes has an entry in the
report, and all entries with its name passed, unless one that failed is masked by the last. -/
theorem run_passes_iff (terms : Terms) (command : Blocktest.Command) (shell : Shell ω)
    (cases : Cases) (m : Moment ω) :
    let ts := (trials terms command shell cases.members m).1
    (ts.map (·.member)).Perm cases.members ∧
    OneReport ts ∧
    ∃ made, (run terms command shell cases m).1.Perm (cases.settled ++ made) ∧
      List.Forall₂ (fun t r => ∃ v, r = t.member.result (.ok v) ∧
        (v.isPass = true ↔ t.Passes) ∧ ((v.isPass = true → t.Upheld) ↔ ¬t.Masked)) ts made := by
  obtain ⟨hperm, hpath⟩ := byFile_byPath cases.members
  have hfiles := mapM_runs (fileTrials terms command shell) (byFile cases.members) m
  obtain ⟨hmembers, hone⟩ := hpath.oneReport (hfiles.imp fun g ts ⟨s, hs⟩ =>
    hs ▸ fileTrials_ofFile g s)
  have hgives := List.rel_flatten
    (mapM_related (runFile_gives terms command shell) (byFile cases.members) m)
  refine ⟨?_, hone, _, List.mergeSort_perm _ _, hgives.imp ?_⟩
  · exact (List.Perm.of_eq hmembers).trans hperm
  · rintro t r ⟨v, hr, hpasses⟩
    exact ⟨v, hr, hpasses, by rw [hpasses, Trial.upheld_iff]⟩

def printing (text : String) : Shell Unit := fun _ => .instantly fun s => (.ok ⟨1, text, ""⟩, s)

/-- A report with two entries of one name, of which the first failed. -/
def twice : String :=
  "[\x7b\"name\": \"x\", \"pass\": false, \"error\": \"post state mismatch\"\x7d, " ++
    "\x7b\"name\": \"x\", \"pass\": true\x7d]"

theorem run_masks_failure :
    Blocktest.outcomes? twice =
      some [⟨"x", false, none, some "post state mismatch"⟩, ⟨"x", true, none, none⟩] ∧
    (run { mapper := .empty, client := "client" } ⟨"client", 60000⟩ (printing twice)
      { members := [⟨"a.json", "x", Sample.bare⟩] } ⟨0, ()⟩).1.map (·.isPass) = [true] := by
  have houtcomes : Blocktest.outcomes? twice =
      some [⟨"x", false, none, some "post state mismatch"⟩, ⟨"x", true, none, none⟩] := by
    decide +kernel
  refine ⟨houtcomes, ?_⟩
  decide +kernel

end BlocktestSuite

end ChainConformance
