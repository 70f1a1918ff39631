import ChainConformance.Proofs.Cancellation
import ChainConformance.Proofs.FixtureFiles
import ChainConformance.Proofs.SuiteIsolation

/-!
# Reports of suites through a transition tool

On the way from the files under a root to the report, fixtures pass through stages. A stage
settles some of them with a result that depends on nothing but the fixture and its files, and
passes the others on. So nothing is lost or doubled on the way, and what is run is run as if
no other fixture had been there.
-/

namespace ChainConformance

open scoped List

lemma perm_filterMap_or {α β : Type} (f g : α → Option β) (l : List α) :
    l.filterMap f ++ (l.filter fun a => (f a).isNone).filterMap g ~
      l.filterMap fun a => (f a).or (g a) := by
  induction l with
  | nil => exact .refl _
  | cons a rest ih =>
    cases hf : f a with
    | some b => simpa [hf] using ih
    | none =>
      cases hg : g a with
      | none => simpa [hf, hg] using ih
      | some b => simpa [hf, hg] using List.perm_middle.trans (ih.cons b)

namespace Cases

/-- Of the given fixtures some are settled with these results, beside those that stand
already, and the others are left as cases. -/
structure Settles (base : List CaseResult) (fixtures : List Member)
    (settle : Member → Option CaseResult) (c : Cases) : Prop where
  members : c.members = fixtures.filter fun m => (settle m).isNone
  settled : c.settled ~ base ++ fixtures.filterMap settle

variable {base : List CaseResult} {fixtures : List Member}
  {settle settle' : Member → Option CaseResult} {c c' : Cases}

lemma Settles.next (h : Settles base fixtures settle c)
    (h' : Settles c.settled c.members settle' c') :
    Settles base fixtures (fun m => (settle m).or (settle' m)) c' := by
  constructor
  · rw [h'.members, h.members, List.filter_filter]
    refine List.filter_congr fun m _ => ?_
    cases settle m <;> simp
  · have hboth := (perm_filterMap_or settle settle' fixtures).append_left base
    rw [← h.members, ← List.append_assoc] at hboth
    exact h'.settled.trans ((h.settled.append_right _).trans hboth)

lemma Settles.foldr {ι : Type} {parts : List ι} {base : ι → List CaseResult}
    {fixtures : ι → List Member} {c : ι → Cases}
    (h : ∀ i ∈ parts, Settles (base i) (fixtures i) settle (c i)) :
    Settles (parts.flatMap base) (parts.flatMap fixtures) settle
      ((parts.map c).foldr append {}) := by
  induction parts with
  | nil => exact ⟨rfl, .refl _⟩
  | cons i rest ih =>
    obtain ⟨hfirst, hrest⟩ := List.forall_mem_cons.mp h
    obtain ⟨hmembers, hsettled⟩ := ih hrest
    simp only [List.flatMap_cons, List.map_cons, List.foldr_cons]
    constructor
    · rw [List.filter_append, ← hfirst.members, ← hmembers]
      rfl
    · have hboth := hfirst.settled.append hsettled
      rw [List.filterMap_append]
      refine hboth.trans ?_
      simp only [List.append_assoc]
      exact (List.perm_append_comm_assoc _ _ _).append_left _

end Cases

namespace Member

end Member

namespace Cases

variable {files : Files} {filter : SkipFilter} {root : String}

/-- The fixtures of the file at a path, unless the file is left out or cannot be read. -/
def fixturesAt (files : Files) (filter : SkipFilter) (path : String) :
    FaultOr (List Member) :=
  if filter.isSkipped path none then .error .skipped
  else match fileAt files path with
    | .error e => .error (.fixture e)
    | .ok file => .ok (file.entries.map fun e => ⟨path, e.1, e.2⟩)

def fileLabel (path : String) : String := (Path.stem? (Path.steps path)).getD ""

def unread (files : Files) (filter : SkipFilter) (path : String) : List CaseResult :=
  match fixturesAt files filter path with
  | .error why => [{ name := fileLabel path, path := path, result := .error why }]
  | .ok _ => []

end Cases

namespace TransitionSuite

/-! ### What is to be run -/

variable {ω : Type} {terms : Terms} {tool : TransitionTool ω} {files : Files} {root : String}

end TransitionSuite

end ChainConformance
