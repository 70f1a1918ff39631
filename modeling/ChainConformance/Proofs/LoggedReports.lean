import ChainConformance.Blocktest
import ChainConformance.Proofs.ArrayBounds
import ChainConformance.Proofs.RecordForms
import Mathlib.Data.List.DropRight

/-!
# Reports among the lines of a log

The report of a client's own command is looked for in all that the command printed. A candidate
begins at an opening bracket and ends at the last closing bracket of all. Nothing in front of a
report keeps it from being found, since no array is read from a bracket before it. A closing
bracket behind a report does: the report is then no candidate any more. So log lines with brackets
may precede a report but not follow it.
-/

namespace ChainConformance

namespace Json

lemma head?_print_array (items : List Json) : (print (.array items)).head? = some '[' := by
  cases items <;> rfl

lemma getLast?_printItems (items : List Json) : (printItems items).getLast? = some ']' := by
  induction items with
  | nil => rfl
  | cons j rest ih =>
    rw [printItems, ← List.cons_append, List.getLast?_append, ih]
    rfl

lemma getLast?_print_array (items : List Json) :
    (print (.array items)).getLast? = some ']' := by
  cases items with
  | nil => rfl
  | cons j rest =>
    rw [print, ← List.cons_append, List.getLast?_append, getLast?_printItems]
    rfl

end Json

open Json FieldReader

namespace BlocktestOutcome

def entries (o : BlocktestOutcome) : List (String × Option Json) := [
  ("name", some (.text o.name)),
  ("pass", some (.bool o.pass)),
  ("fork", o.fork.map .text),
  ("error", o.error.map .text)]

def toJson (o : BlocktestOutcome) : Json := objectOf o.entries

lemma names_entries (o : BlocktestOutcome) : (o.entries.map (·.1)).Nodup := by
  change ["name", "pass", "fork", "error"].Nodup
  decide

lemma ofJson_toJson (o : BlocktestOutcome) : ofJson o.toJson = .ok o := by
  have hname : (required "name" readText).Gives (present o.entries) o.name :=
    gives_present (j := .text o.name) o.names_entries (by simp [entries]) rfl
  have hpass : (required "pass" readBool).Gives (present o.entries) o.pass :=
    gives_present (j := .bool o.pass) o.names_entries (by simp [entries]) rfl
  have hoptional (name : String) (s : Option String) (h : (name, s.map Json.text) ∈ o.entries) :
      (optional name readText).Gives (present o.entries) s :=
    gives_optional o.names_entries h fun _ => rfl
  have hfork := hoptional "fork" o.fork (by simp [entries])
  have herror := hoptional "error" o.error (by simp [entries])
  exact ((((hname.map mk).seq hpass).seq hfork).seq herror).readRecord

lemma reread_toJson (o : BlocktestOutcome) : o.toJson.reread = o.toJson := by
  apply reread_objectOf
  simp only [entries, List.forall_mem_cons, Option.mem_def, Option.map_eq_some_iff]
  refine ⟨?_, ?_, ?_, ?_, List.forall_mem_nil _⟩
  · rintro j ⟨⟩
    rfl
  · rintro j ⟨⟩
    rfl
  · rintro j ⟨s, -, rfl⟩
    rfl
  · rintro j ⟨s, -, rfl⟩
    rfl

end BlocktestOutcome

namespace Blocktest

/-- A report of outcomes, from its opening bracket to its closing bracket. -/
structure IsReport (report : List Char) (outcomes : List BlocktestOutcome) : Prop where
  opens : report.head? = some '['
  closes : report.getLast? = some ']'
  reads : reportAt? report = some outcomes

def written (outcomes : List BlocktestOutcome) : List Char :=
  Json.print (Json.ofList BlocktestOutcome.toJson outcomes)

variable {report : List Char} {outcomes found : List BlocktestOutcome}

lemma reportAt?_eq_some_iff : reportAt? report = some outcomes ↔
    readDocument (readList BlocktestOutcome.ofJson) (String.ofList report) = .ok outcomes := by
  unfold reportAt?
  cases readDocument (readList BlocktestOutcome.ofJson) (String.ofList report) <;>
    simp [Except.toOption]

lemma parse_of_reportAt? (h : reportAt? report = some outcomes) :
    ∃ j, parse (String.ofList report) = .ok j := by
  obtain ⟨j, hparse, -⟩ := readDocument_eq_ok_iff.mp (reportAt?_eq_some_iff.mp h)
  exact ⟨j, hparse⟩

lemma isReport_written (outcomes : List BlocktestOutcome) :
    IsReport (written outcomes) outcomes where
  opens := head?_print_array _
  closes := getLast?_print_array _
  reads := by
    have hreread : (Json.ofList BlocktestOutcome.toJson outcomes).reread =
        Json.ofList BlocktestOutcome.toJson outcomes := by
      apply reread_array
      intro j hj
      obtain ⟨o, -, rfl⟩ := List.mem_map.mp hj
      exact o.reread_toJson
    apply reportAt?_eq_some_iff.mpr
    rw [← readList_ofList BlocktestOutcome.ofJson_toJson outcomes]
    exact readDocument_toCompact hreread

lemma upToLastBracket_eq_rdropWhile (cs : List Char) :
    upToLastBracket cs = cs.rdropWhile (· ≠ ']') := rfl

lemma exists_upToLastBracket_append (cs : List Char) :
    ∃ after, cs = upToLastBracket cs ++ after ∧ ']' ∉ after := by
  refine ⟨cs.rtakeWhile (· ≠ ']'), List.rdropWhile_append_rtakeWhile.symm, fun hmem => ?_⟩
  have hne := List.mem_rtakeWhile_imp hmem
  simp at hne

lemma upToLastBracket_append {cs after : List Char} (hlast : cs.getLast? = some ']')
    (hafter : ']' ∉ after) : upToLastBracket (cs ++ after) = cs := by
  induction after using List.reverseRecOn with
  | nil =>
    obtain ⟨cs, rfl⟩ := List.getLast?_eq_some_iff.mp hlast
    rw [List.append_nil, upToLastBracket_eq_rdropWhile]
    exact List.rdropWhile_concat_neg _ _ _ (by decide)
  | append_singleton after c ih =>
    rw [List.mem_append, List.mem_singleton, not_or] at hafter
    rw [← List.append_assoc, upToLastBracket_eq_rdropWhile,
      List.rdropWhile_concat_pos _ _ _ (by simpa using Ne.symm hafter.2)]
    exact ih hafter.1

lemma getLast?_upToLastBracket {cs : List Char} {c : Char}
    (h : (upToLastBracket cs).getLast? = some c) : c = ']' := by
  obtain ⟨before, hbefore⟩ := List.getLast?_eq_some_iff.mp h
  rw [upToLastBracket_eq_rdropWhile] at hbefore
  have hne : cs.rdropWhile (· ≠ ']') ≠ [] := by
    rw [hbefore]
    simp
  have hlast := List.rdropWhile_last_not _ _ hne
  simp only [hbefore, List.getLast_append_singleton] at hlast
  simpa using hlast

lemma firstReport?_append (opens : report.head? = some '[')
    (reads : reportAt? report = some outcomes) (before : List Char) :
    firstReport? (before ++ report) = some outcomes := by
  induction before with
  | nil =>
    obtain ⟨rest, rfl⟩ := List.head?_eq_some_iff.mp opens
    rw [List.nil_append, firstReport?, if_pos rfl, reads]
    rfl
  | cons c before ih =>
    rw [List.cons_append, firstReport?]
    split
    · next hc =>
      subst hc
      obtain ⟨j, hparse⟩ := parse_of_reportAt? reads
      have hnone : reportAt? ('[' :: (before ++ report)) = none := by
        by_contra hsome
        obtain ⟨found, hfound⟩ := Option.ne_none_iff_exists'.mp hsome
        obtain ⟨j', hparse'⟩ := parse_of_reportAt? hfound
        have hfront : ('[' :: before).head? = some '[' := rfl
        exact parse_behind_open hfront opens hparse j' hparse'
      rw [hnone]
      exact ih
    · exact ih

lemma exists_of_firstReport? {cs : List Char} (h : firstReport? cs = some found) :
    ∃ before report, cs = before ++ report ∧ report.head? = some '[' ∧
      reportAt? report = some found := by
  induction cs with
  | nil => cases h
  | cons c rest ih =>
    have hlater (h : firstReport? rest = some found) : ∃ before report, c :: rest =
        before ++ report ∧ report.head? = some '[' ∧ reportAt? report = some found := by
      obtain ⟨before, report, rfl, hreport⟩ := ih h
      exact ⟨c :: before, report, rfl, hreport⟩
    rw [firstReport?] at h
    split at h
    · next hc =>
      subst hc
      cases hread : reportAt? ('[' :: rest) with
      | none =>
        rw [hread] at h
        exact hlater h
      | some outcomes =>
        rw [hread] at h
        cases h
        exact ⟨[], '[' :: rest, rfl, rfl, hread⟩
    · exact hlater h

/-- What is found is what a report says that has no closing bracket behind it. -/
lemma outcomes?_eq_some_iff {cs : List Char} : outcomes? (String.ofList cs) = some found ↔
    ∃ before report after, cs = before ++ report ++ after ∧ IsReport report found ∧
      ']' ∉ after := by
  rw [outcomes?, String.toList_ofList]
  constructor
  · intro h
    obtain ⟨before, report, hcs, opens, reads⟩ := exists_of_firstReport? h
    obtain ⟨after, happend, hafter⟩ := exists_upToLastBracket_append cs
    rw [hcs] at happend
    obtain ⟨rest, rfl⟩ := List.head?_eq_some_iff.mp opens
    have hlast : (upToLastBracket cs).getLast? = some (('[' :: rest).getLast (by simp)) := by
      rw [hcs, List.getLast?_append, List.getLast?_eq_some_getLast (by simp)]
      rfl
    have closes : ('[' :: rest).getLast? = some ']' := by
      rw [List.getLast?_eq_some_getLast (by simp), getLast?_upToLastBracket hlast]
    exact ⟨before, '[' :: rest, after, happend, ⟨opens, closes, reads⟩, hafter⟩
  · rintro ⟨before, report, after, rfl, hreport, hafter⟩
    have hlast : (before ++ report).getLast? = some ']' := by
      rw [List.getLast?_append, hreport.closes]
      rfl
    rw [upToLastBracket_append hlast hafter]
    exact firstReport?_append hreport.opens hreport.reads before

/-- Two reports that begin at the same place end at the same place, so if there is no closing
bracket behind the one, there is none behind the other. -/
lemma IsReport.not_mem_of_append_eq {report' after after' : List Char}
    (h : IsReport report outcomes) (h' : IsReport report' found)
    (heq : report ++ after = report' ++ after') (hafter' : ']' ∉ after') : ']' ∉ after := by
  rcases List.append_eq_append_iff.mp heq with ⟨behind, rfl, rfl⟩ | ⟨behind, -, rfl⟩
  · rw [List.mem_append, not_or]
    refine ⟨fun hmem => ?_, hafter'⟩
    have hclose : behind.getLast? = some ']' := by
      have hcloses := h'.closes
      rw [List.getLast?_append_of_ne_nil _ (List.ne_nil_of_mem hmem)] at hcloses
      exact hcloses
    obtain ⟨j, hparse⟩ := parse_of_reportAt? h.reads
    obtain ⟨j', hparse'⟩ := parse_of_reportAt? h'.reads
    exact parse_before_close h.closes hclose hparse j' hparse'
  · exact fun hmem => hafter' (List.mem_append_right _ hmem)

/-- All outcomes have a report. Whatever stands in front of a report, its outcomes are found if
there is no closing bracket behind it. If there is one, only a report that begins elsewhere is
found, if there is one that has no closing bracket behind it. -/
theorem outcomes?_among_lines (outcomes : List BlocktestOutcome) :
    IsReport (written outcomes) outcomes ∧
    ∀ report, IsReport report outcomes → ∀ before after,
      (']' ∉ after → outcomes? (String.ofList (before ++ report ++ after)) = some outcomes) ∧
      (']' ∈ after → ∀ found,
        outcomes? (String.ofList (before ++ report ++ after)) = some found ↔
        ∃ before' report' after', before ++ report ++ after = before' ++ report' ++ after' ∧
          before'.length ≠ before.length ∧ IsReport report' found ∧ ']' ∉ after') := by
  refine ⟨isReport_written outcomes, fun report hreport before after =>
    ⟨fun hafter => outcomes?_eq_some_iff.mpr ⟨before, report, after, rfl, hreport, hafter⟩,
      fun hafter found => ?_⟩⟩
  rw [outcomes?_eq_some_iff]
  constructor
  · rintro ⟨before', report', after', heq, hreport', hafter'⟩
    refine ⟨before', report', after', heq, fun hlength => ?_, hreport', hafter'⟩
    rw [List.append_assoc, List.append_assoc] at heq
    have hends := (List.append_inj heq hlength.symm).2
    exact hreport.not_mem_of_append_eq hreport' hends hafter' hafter
  · rintro ⟨before', report', after', heq, -, hreport', hafter'⟩
    exact ⟨before', report', after', heq, hreport', hafter'⟩

theorem outcomes?_among_lines_prefixed :
    let report := "[\x7b\"name\": \"a\", \"pass\": true\x7d]".toList
    let outcomes := [{ name := "a", pass := true, fork := none, error := none }]
    let started := "INFO [01-01|00:00:00.000] Importing blocks\n".toList
    let ended := "\nDone\n".toList
    IsReport report outcomes ∧ ']' ∉ ended ∧
    outcomes? (String.ofList (started ++ report ++ ended)) = some outcomes := by
  intro report outcomes started ended
  have hreport : IsReport report outcomes := ⟨by decide, by decide, by decide +kernel⟩
  have hended : ']' ∉ ended := by decide
  exact ⟨hreport, hended,
    ((outcomes?_among_lines outcomes).2 report hreport started ended).1 hended⟩

/-- A report between two lines with brackets is not found, although there is none in the lines. -/
theorem outcomes?_misses_report :
    let report := "[\x7b\"name\":\"a\",\"pass\":true\x7d]"
    let outcomes := [{ name := "a", pass := true, fork := none, error := none }]
    let started := "INFO [01-01|00:00:00.000] Importing blocks"
    let ended := "INFO [01-01|00:00:00.001] Done"
    IsReport report.toList outcomes ∧ outcomes? started = none ∧ outcomes? ended = none ∧
    outcomes? (started ++ "\n" ++ report ++ "\n" ++ ended ++ "\n") = none := by
  intro report outcomes started ended
  exact ⟨⟨by decide, by decide, by decide +kernel⟩, by decide +kernel, by decide +kernel,
    by decide +kernel⟩

end Blocktest

end ChainConformance
