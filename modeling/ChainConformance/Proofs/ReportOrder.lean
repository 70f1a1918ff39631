import ChainConformance.Suite.Collect
import Mathlib.Data.List.Perm.Basic
import Mathlib.Tactic.Common

/-!
# The order of reports

Results of workers come in batches, in the order in which the workers are done. The report has
them sorted by the steps of their paths and by their names, and results at one place stay in the
order in which they came. So the report is the same whichever batch was first, as long as no two
results of the batches are at one place. Results that stood before the batches may be anywhere.
-/

namespace ChainConformance

section Sorting

variable {α κ : Type} [DecidableEq κ] {le : α → α → Bool} {key : α → κ} {l l' : List α}

lemma mem_iff_of_filter (h : ∀ k, l.filter (key · = k) = l'.filter (key · = k)) (a : α) :
    a ∈ l ↔ a ∈ l' := by
  have hpart : a ∈ l.filter (key · = key a) ↔ a ∈ l'.filter (key · = key a) := by rw [h]
  simpa using hpart

lemma eq_of_sorted_of_filter (antisymm : ∀ a b, le a b = true → le b a = true → key a = key b)
    (hl : l.Pairwise (le · ·)) (hl' : l'.Pairwise (le · ·))
    (h : ∀ k, l.filter (key · = k) = l'.filter (key · = k)) : l = l' := by
  induction l generalizing l' with
  | nil =>
    refine (List.eq_nil_iff_forall_not_mem.mpr fun a ha => ?_).symm
    cases (mem_iff_of_filter h a).mpr ha
  | cons a rest ih =>
    cases l' with
    | nil => cases (mem_iff_of_filter h a).mp List.mem_cons_self
    | cons b rest' =>
      obtain ⟨hfirst, hrest⟩ := List.pairwise_cons.mp hl
      obtain ⟨hfirst', hrest'⟩ := List.pairwise_cons.mp hl'
      have hkey : key a = key b := by
        rcases List.mem_cons.mp ((mem_iff_of_filter h a).mp List.mem_cons_self) with rfl | ha
        · rfl
        rcases List.mem_cons.mp ((mem_iff_of_filter h b).mpr List.mem_cons_self) with rfl | hb
        · rfl
        exact antisymm a b (hfirst b hb) (hfirst' a ha)
      have hpart := h (key a)
      rw [List.filter_cons_of_pos (by simp), List.filter_cons_of_pos (by simp [hkey])] at hpart
      obtain rfl := (List.cons.inj hpart).1
      rw [ih hrest hrest' fun k => ?_]
      have hk := h k
      by_cases hak : key a = k <;> simpa [List.filter_cons, hak] using hk

variable (trans : ∀ a b c, le a b = true → le b c = true → le a c = true)
  (total : ∀ a b, (le a b || le b a) = true)

include trans total

lemma filter_mergeSort (refl : ∀ a b, key a = key b → le a b = true) (l : List α) (k : κ) :
    (l.mergeSort le).filter (key · = k) = l.filter (key · = k) := by
  have hsorted : (l.filter (key · = k)).Pairwise (le · ·) := by
    refine List.pairwise_of_forall_mem_list fun a ha b hb => refl a b ?_
    simp only [List.mem_filter, decide_eq_true_eq] at ha hb
    rw [ha.2, hb.2]
  have hsublist := (List.sublist_mergeSort trans total hsorted List.filter_sublist).filter
    (key · = k)
  simp only [List.filter_filter, Bool.and_self] at hsublist
  exact (hsublist.eq_of_length ((List.mergeSort_perm l le).filter _).length_eq.symm).symm

/-- Lists that differ only in the order of elements with different keys are sorted alike. -/
lemma mergeSort_eq_of_filter
    (antisymm : ∀ a b, le a b = true → le b a = true → key a = key b)
    (refl : ∀ a b, key a = key b → le a b = true)
    (h : ∀ k, l.filter (key · = k) = l'.filter (key · = k)) :
    l.mergeSort le = l'.mergeSort le := by
  refine eq_of_sorted_of_filter antisymm (List.pairwise_mergeSort trans total l)
    (List.pairwise_mergeSort trans total l') fun k => ?_
  rw [filter_mergeSort trans total refl, filter_mergeSort trans total refl, h]

end Sorting

lemma Text.before_asymm {s t : String} (h : before s t = true) : before t s = false := by
  rw [Bool.eq_false_iff]
  intro h'
  have hcycle := before_trans h h'
  rw [before_irrefl] at hcycle
  cases hcycle

namespace Path

lemma Step.before_irrefl (a : Step) : a.before a = false := by
  cases a <;> simp [Step.before, Text.before_irrefl]

lemma Step.before_trans {a b c : Step} (h : a.before b = true) (h' : b.before c = true) :
    a.before c = true := by
  cases a <;> cases b <;> cases c <;> simp_all [Step.before]
  exact Text.before_trans h h'

lemma Step.before_total {a b : Step} (h : a ≠ b) : a.before b = true ∨ b.before a = true := by
  cases a <;> cases b <;> simp_all [Step.before]
  exact Text.before_total h

lemma stepsBefore_irrefl (p : List Step) : stepsBefore p p = false := by
  induction p with
  | nil => rfl
  | cons a rest ih => simp [stepsBefore, ih]

lemma stepsBefore_trans {p q r : List Step} (h : stepsBefore p q = true)
    (h' : stepsBefore q r = true) : stepsBefore p r = true := by
  induction p generalizing q r with
  | nil => cases q <;> cases r <;> simp_all [stepsBefore]
  | cons a p ih =>
    cases q with
    | nil => cases h
    | cons b q =>
      cases r with
      | nil => cases h'
      | cons c r =>
        by_cases hab : a = b
        · subst hab
          by_cases hac : a = c
          · subst hac
            simp only [stepsBefore, if_true] at h h' ⊢
            exact ih h h'
          · simpa [stepsBefore, hac] using h'
        · by_cases hbc : b = c
          · subst hbc
            simpa [stepsBefore, hab] using h
          · simp only [stepsBefore, if_neg hab, if_neg hbc] at h h'
            have hbefore := Step.before_trans h h'
            have hac : a ≠ c := by
              rintro rfl
              rw [Step.before_irrefl] at hbefore
              cases hbefore
            simpa [stepsBefore, hac] using hbefore

lemma stepsBefore_asymm {p q : List Step} (h : stepsBefore p q = true) :
    stepsBefore q p = false := by
  rw [Bool.eq_false_iff]
  intro h'
  have hcycle := stepsBefore_trans h h'
  rw [stepsBefore_irrefl] at hcycle
  cases hcycle

lemma stepsBefore_total {p q : List Step} (h : p ≠ q) :
    stepsBefore p q = true ∨ stepsBefore q p = true := by
  induction p generalizing q with
  | nil => cases q <;> simp_all [stepsBefore]
  | cons a p ih =>
    cases q with
    | nil => exact Or.inr rfl
    | cons b q =>
      by_cases hab : a = b
      · subst hab
        have hpq : p ≠ q := fun heq => h (heq ▸ rfl)
        simpa [stepsBefore] using ih hpq
      · simpa [stepsBefore, hab, Ne.symm hab] using Step.before_total hab

end Path

namespace CaseResult

/-- Where a result stands in a report: the steps of its path, and its name. -/
def place (r : CaseResult) : List Path.Step × String := (Path.steps r.path, r.name)

/-- One result stands before another one in a report, or where it does: by the steps of their
paths, and by their names in a file. -/
def InOrder (a b : CaseResult) : Prop :=
  Path.stepsBefore (Path.steps a.path) (Path.steps b.path) = true ∨
    Path.steps a.path = Path.steps b.path ∧ (a.name = b.name ∨ Text.before a.name b.name = true)

lemma atMost_iff {a b : CaseResult} : a.atMost b = true ↔ a.InOrder b := by
  have hname : Text.before b.name a.name = false ↔
      a.name = b.name ∨ Text.before a.name b.name = true := by
    constructor
    · intro h
      by_cases heq : a.name = b.name
      · exact Or.inl heq
      · exact Or.inr ((Text.before_total heq).resolve_right (by rw [h]; exact Bool.false_ne_true))
    · rintro (heq | h)
      · rw [heq, Text.before_irrefl]
      · exact Text.before_asymm h
  simp [atMost, InOrder, hname]

lemma InOrder.trans {a b c : CaseResult} (h : a.InOrder b) (h' : b.InOrder c) : a.InOrder c := by
  rcases h with h | ⟨hpath, h⟩
  · rcases h' with h' | ⟨hpath', -⟩
    · exact Or.inl (Path.stepsBefore_trans h h')
    · exact Or.inl (hpath' ▸ h)
  · rcases h' with h' | ⟨hpath', h'⟩
    · exact Or.inl (hpath ▸ h')
    · refine Or.inr ⟨hpath.trans hpath', ?_⟩
      rcases h with h | h
      · rwa [h]
      · rcases h' with h' | h'
        · exact Or.inr (h' ▸ h)
        · exact Or.inr (Text.before_trans h h')

lemma inOrder_total (a b : CaseResult) : a.InOrder b ∨ b.InOrder a := by
  by_cases hpath : Path.steps a.path = Path.steps b.path
  · by_cases hname : a.name = b.name
    · exact Or.inl (Or.inr ⟨hpath, Or.inl hname⟩)
    · exact (Text.before_total hname).imp (fun h => Or.inr ⟨hpath, Or.inr h⟩)
        fun h => Or.inr ⟨hpath.symm, Or.inr h⟩
  · exact (Path.stepsBefore_total hpath).imp Or.inl Or.inl

lemma InOrder.antisymm {a b : CaseResult} (h : a.InOrder b) (h' : b.InOrder a) :
    a.place = b.place := by
  have hpath : Path.steps a.path = Path.steps b.path := by
    by_contra hne
    have hbefore := h.resolve_right fun h => hne h.1
    have hafter := h'.resolve_right fun h => hne h.1.symm
    rw [Path.stepsBefore_asymm hbefore] at hafter
    cases hafter
  have hname : a.name = b.name := by
    by_contra hne
    have hirrefl := Path.stepsBefore_irrefl (Path.steps b.path)
    unfold InOrder at h h'
    simp only [hpath, hirrefl, hne, Ne.symm hne, false_or, true_and, Bool.false_eq_true] at h h'
    rw [Text.before_asymm h] at h'
    cases h'
  exact Prod.ext hpath hname

lemma inOrder_of_place {a b : CaseResult} (h : a.place = b.place) : a.InOrder b :=
  Or.inr ⟨congrArg Prod.fst h, Or.inl (congrArg Prod.snd h)⟩

lemma atMost_trans (a b c : CaseResult) (h : a.atMost b = true) (h' : b.atMost c = true) :
    a.atMost c = true :=
  atMost_iff.mpr ((atMost_iff.mp h).trans (atMost_iff.mp h'))

lemma atMost_total (a b : CaseResult) : (a.atMost b || b.atMost a) = true := by
  rw [Bool.or_eq_true, atMost_iff, atMost_iff]
  exact inOrder_total a b

lemma mergeSort_eq_of_places {l l' : List CaseResult}
    (h : ∀ p, l.filter (place · = p) = l'.filter (place · = p)) :
    l.mergeSort atMost = l'.mergeSort atMost :=
  mergeSort_eq_of_filter atMost_trans atMost_total
    (fun _ _ hab hba => (atMost_iff.mp hab).antisymm (atMost_iff.mp hba))
    (fun _ _ hab => atMost_iff.mpr (inOrder_of_place hab)) h

lemma filter_eq_of_perm {l l' : List CaseResult} (distinct : (l.map place).Nodup)
    (h : l'.Perm l) (p : List Path.Step × String) :
    l'.filter (place · = p) = l.filter (place · = p) := by
  have hone : ∀ {l : List CaseResult}, (l.map place).Nodup →
      (l.filter (place · = p)).Pairwise fun _ _ => False := by
    intro l hl
    rw [List.pairwise_filter]
    refine (List.pairwise_map.mp hl).imp fun hne ha hb => hne ?_
    rw [of_decide_eq_true ha, of_decide_eq_true hb]
  exact (h.filter _).eq_of_pairwise (fun _ _ _ _ hab => hab.elim)
    (hone ((h.map place).nodup_iff.mpr distinct)) (hone distinct)

/-- A report has the results that stood already and those of all batches, each of them once, in
the order of their paths and names. If no two results of the batches are at one place, it is the
same for every order in which the batches come. -/
theorem collect_order_free (settled : List CaseResult) {batches : List (List CaseResult)}
    (distinct : (batches.flatten.map place).Nodup) :
    (∀ arrived, arrived.Perm batches → collect settled arrived = collect settled batches) ∧
    (collect settled batches).Pairwise InOrder ∧
    (collect settled batches).Perm (settled ++ batches.flatten) := by
  refine ⟨fun arrived harrived => mergeSort_eq_of_places fun p => ?_, ?_,
    List.mergeSort_perm _ _⟩
  · rw [List.filter_append, List.filter_append, filter_eq_of_perm distinct harrived.flatten]
  · exact (List.pairwise_mergeSort atMost_trans atMost_total _).imp atMost_iff.mp

def passed (path name : String) : CaseResult := ⟨name, path, .ok .pass, none⟩

def skipped (path name : String) : CaseResult := ⟨name, path, .error .skipped, none⟩

/-- A result that stood already is at the place of one in a batch, and another batch is of a file
in a directory, which stands before a file whose name begins with that of the directory. -/
theorem collect_order_free_directory :
    let settled := [skipped "a.json" "t"]
    let file := [passed "a.json" "t", passed "a.json" "s"]
    let directory := [passed "a/b.json" "t"]
    ((directory ++ file).map place).Nodup ∧ (settled ++ file).map place = [
      ([.name "a.json"], "t"), ([.name "a.json"], "t"), ([.name "a.json"], "s")] ∧
    collect settled [directory, file] = collect settled [file, directory] ∧
    (collect settled [file, directory]).Pairwise InOrder ∧
    (collect settled [file, directory]).Perm (settled ++ file ++ directory) := by
  intro settled file directory
  have distinct : (([file, directory].flatten).map place).Nodup := by decide +kernel
  obtain ⟨hsame, hsorted, hperm⟩ := collect_order_free settled distinct
  exact ⟨by decide +kernel, by decide +kernel, hsame _ (.swap _ _ _), hsorted, hperm⟩

end CaseResult

end ChainConformance
