import ChainConformance.Proofs.OrderedMaps
import ChainConformance.Proofs.PathNames
import ChainConformance.Proofs.Steps
import ChainConformance.SkipFilter
import Mathlib.Data.List.Forall2

/-!
# Skipped files

A filter leaves out what lies in a directory that it lists, and the files and fixtures that it
names under a directory. That directory is the parent of the file, and its name is cut as that
of the file is: what the filter has to name is the name without its last extension. So it can
name a directory as it is called if and only if there is no point in the name but at its start.
-/

namespace ChainConformance

open List (Forall₂)

namespace Path

variable {folder : List Step} {file : String}

lemma parent?_concat : parent? (folder ++ [.name file]) = some folder := by simp [parent?]

lemma stem?_concat : stem? (folder ++ [.name file]) = some (splitExtension file).1 := by
  simp [stem?, lastName?]

end Path

namespace SkipFilter

def Lists {α : Type} (m : OrderedMap String (List α)) (key : String) (a : α) : Prop :=
  ∃ listed, m.get? key = some listed ∧ a ∈ listed

/-- Under a directory, a filter names a file, or one of its patterns matches the file, or it
names the fixture. -/
def Names (f : SkipFilter) (directory file : String) (test : Option String) : Prop :=
  Lists f.fileNames directory file ∨
    (∃ isFound, Lists f.patterns directory isFound ∧ isFound file = true) ∨
    ∃ t ∈ test, Lists f.testNames directory t

/-- A filter lists one of the steps of a path as a directory, or names the file or the fixture
under a directory. -/
def LeavesOut (f : SkipFilter) (steps : List Path.Step) (directory file : String)
    (test : Option String) : Prop :=
  (∃ s ∈ steps, stepName s ∈ f.directories) ∨ f.Names directory file test

/-- What a directory is called in a filter: its name without the last extension, and nothing at
all if its path does not end with a name. -/
inductive IsCalled (folder : List Path.Step) : String → Prop
  | named {name key : String} (last : folder.getLast? = some (.name name))
      (stem : Path.IsStem name key) : IsCalled folder key
  | nameless (last : ∀ name, folder.getLast? ≠ some (.name name)) : IsCalled folder ""

lemma mem_listed {α : Type} {m : OrderedMap String (List α)} {key : String} {a : α} :
    a ∈ listed m key ↔ Lists m key a := by
  rw [listed, Lists]
  cases m.get? key <;> simp

lemma IsCalled.stem?_getD {folder : List Path.Step} {key : String} (h : IsCalled folder key) :
    (Path.stem? folder).getD "" = key := by
  cases h with
  | named last stem => simp [Path.stem?, Path.lastName?, last, stem.eq]
  | nameless last =>
    have hnone : Path.lastName? folder = Option.none := by
      unfold Path.lastName?
      split
      next name h => exact absurd h (last name)
      next => rfl
    rw [Path.stem?, hnone]
    rfl

lemma isSkipped_iff_leavesOut {path : String} {folder : List Path.Step} {file stem key : String}
    (hpath : Path.steps path = folder ++ [.name file]) (hstem : Path.IsStem file stem)
    (hkey : IsCalled folder key) (f : SkipFilter) (test : Option String) :
    f.isSkipped path test = true ↔ f.LeavesOut (Path.steps path) key stem test := by
  have hfile : (Path.stem? (Path.steps path)).getD "" = stem := by
    rw [hpath, Path.stem?_concat, hstem.eq, Option.getD_some]
  have hfolder : ((Path.parent? (Path.steps path)).bind Path.stem?).getD "" = key := by
    rw [hpath, Path.parent?_concat, Option.bind_some, hkey.stem?_getD]
  unfold isSkipped LeavesOut Names
  simp only [hfile, hfolder]
  cases test <;> simp [mem_listed, or_assoc]

def single (directory file : String) : SkipFilter :=
  { none with fileNames := OrderedMap.empty.insert directory [file] }

lemma leavesOut_single {steps : List Path.Step} {directory key file : String} :
    (single directory file).LeavesOut steps key file Option.none ↔ key = directory := by
  have hlists : Lists (single directory file).fileNames key file ↔ key = directory := by
    rw [Lists, single, OrderedMap.get?_insert]
    split <;> simp_all
  have hpatterns (isFound : String → Bool) :
      ¬Lists (single directory file).patterns key isFound := by
    rintro ⟨listed, hlisted, -⟩
    cases hlisted
  have hdirectories : (single directory file).directories = [] := rfl
  simp [LeavesOut, Names, hlists, hpatterns, hdirectories]

lemma named_as_called {path : String} {folder : List Path.Step} {file stem name : String}
    (hpath : Path.steps path = folder ++ [.name file]) (hstem : Path.IsStem file stem)
    (hname : folder.getLast? = some (.name name)) :
    (∀ (f : SkipFilter) (test : Option String), f.isSkipped path test = true ↔
      f.LeavesOut (Path.steps path) name stem test) ↔ '.' ∉ name.toList.tail := by
  rw [← Path.isStem_self_iff]
  constructor
  · intro h
    have hcut := Path.isStem_splitExtension name
    have hkey : IsCalled folder (Path.splitExtension name).1 := .named hname hcut
    have hsingle := (h (single name stem) Option.none).mpr (leavesOut_single.mpr rfl)
    rw [isSkipped_iff_leavesOut hpath hstem hkey, leavesOut_single] at hsingle
    rwa [hsingle] at hcut
  · exact fun hself => isSkipped_iff_leavesOut hpath hstem (.named hname hself)

/-- The patterns of a document as they are written. -/
def writtenPatterns? (d : Dialect) (content : String) :
    Option (OrderedMap String (List String)) := do
  Yaml.field? (← (← d.document? content).entries?) "regex" (some .empty) (Yaml.map? Yaml.texts?)

/-- The patterns of a filter are the written ones, one for one under the same keys. -/
def Compiles (d : Dialect) (written : OrderedMap String (List String))
    (patterns : OrderedMap String (List (String → Bool))) : Prop :=
  ∀ key, Option.Rel (Forall₂ fun p isFound => d.pattern? p = some isFound)
    (written.get? key) (patterns.get? key)

lemma find_rel {R : List String → List (String → Bool) → Prop} {key : String}
    {l : List (String × List String)} {l' : List (String × List (String → Bool))}
    (h : Forall₂ (fun e e' => e'.1 = e.1 ∧ R e.2 e'.2) l l') :
    Option.Rel R (OrderedMap.find key l) (OrderedMap.find key l') := by
  induction h with
  | nil => exact .none
  | @cons e e' rest rest' he _ ih =>
    obtain ⟨name, listed⟩ := e
    obtain ⟨name', listed'⟩ := e'
    obtain ⟨rfl, hlisted⟩ := he
    rw [OrderedMap.find, OrderedMap.find]
    split
    · exact .some hlisted
    · exact ih

lemma compiles_of_foldlM {d : Dialect} {written : OrderedMap String (List String)}
    {patterns : OrderedMap String (List (String → Bool))}
    (h : written.entries.foldlM (fun m e => do return m.insert e.1 (← e.2.mapM d.pattern?))
      OrderedMap.empty = some patterns) : Compiles d written patterns := by
  rw [OrderedMap.foldlM_insert] at h
  obtain ⟨tables, htables, rfl⟩ := Option.map_eq_some_iff.mp h
  have hmade : Forall₂ (fun (e : String × List String) (t : String × List (String → Bool)) =>
      t.1 = e.1 ∧ Forall₂ (fun p isFound => d.pattern? p = some isFound) e.2 t.2)
      written.entries tables := by
    refine (mapM_eq_some.mp htables).imp fun e t ht => ?_
    obtain ⟨found, hfound, rfl⟩ := Option.map_eq_some_iff.mp ht
    exact ⟨rfl, mapM_eq_some.mp hfound⟩
  have hkeys : tables.map (·.1) = written.keys := by
    have hsame : Forall₂ (fun a b => a = b) (tables.map (·.1)) (written.entries.map (·.1)) := by
      rw [List.forall₂_map_left_iff, List.forall₂_map_right_iff]
      exact hmade.flip.imp fun _ _ ht => ht.1
    exact List.forall₂_eq_eq_eq ▸ hsame
  have hnodup : (tables.map (·.1)).Nodup := hkeys ▸ written.keys_nodup
  intro key
  have hget := OrderedMap.get?_ofList hnodup key
  change Option.Rel _ (OrderedMap.find key written.entries) ((OrderedMap.ofList tables).get? key)
  rw [hget]
  exact find_rel hmade

lemma exists_of_read {d : Dialect} {content : String} {f : SkipFilter}
    (h : read d content = some f) :
    ∃ written, writtenPatterns? d content = some written ∧ Compiles d written f.patterns := by
  simp only [read, Option.bind_eq_bind, Option.bind_eq_some_iff, Option.pure_def,
    Option.some.injEq] at h
  obtain ⟨y, hy, entries, hentries, directories, -, fileNames, -, written, hwritten, testNames, -,
    patterns, hpatterns, rfl⟩ := h
  refine ⟨written, ?_, compiles_of_foldlM hpatterns⟩
  simp only [writtenPatterns?, hy, Option.bind_eq_bind, Option.bind_some, hentries, hwritten]

/-- A file is left out if and only if a step of its path is listed as a directory, or its name
without the last extension, a pattern that matches this, or the name of the fixture stands
under what its directory is called, which is the name of the directory without the last
extension. So the filter can be told the directory by its name if and only if nothing is cut
off from it. The patterns are those of the document that the filter is read from, in whatever
dialect. -/
theorem isSkipped_iff {path : String} {folder : List Path.Step} {file stem : String}
    (hpath : Path.steps path = folder ++ [.name file]) (hstem : Path.IsStem file stem) :
    (∀ (key : String), IsCalled folder key → ∀ (f : SkipFilter) (test : Option String),
      f.isSkipped path test = true ↔ f.LeavesOut (Path.steps path) key stem test) ∧
    (∀ (name : String), folder.getLast? = some (.name name) →
      ((∀ (f : SkipFilter) (test : Option String), f.isSkipped path test = true ↔
        f.LeavesOut (Path.steps path) name stem test) ↔ '.' ∉ name.toList.tail)) ∧
    ∀ (d : Dialect) (content : String) (f : SkipFilter), read d content = some f → ∃ written,
      writtenPatterns? d content = some written ∧ Compiles d written f.patterns :=
  ⟨fun _ hkey => isSkipped_iff_leavesOut hpath hstem hkey,
    fun _ hname => named_as_called hpath hstem hname, fun _ _ _ => exists_of_read⟩

/-- Two files under directories, of which one is called by its whole name. -/
def dottedDocument : String := "filename:\n  v1:\n    - test.blob\n  v1.2:\n    - test\n"

/-- What the filter names, and that it does not leave out a file of the second directory. -/
def Readings (f : SkipFilter) : Prop :=
  f.fileNames.get? "v1" = some ["test.blob"] ∧ f.fileNames.get? "v1.2" = some ["test"] ∧
    f.isSkipped "fixtures/v1.2/test.json" Option.none = false

instance (f : SkipFilter) : Decidable (Readings f) := inferInstanceAs (Decidable (_ ∧ _))

lemma dottedDocument_readings : ∃ f, ofYaml dottedDocument = some f ∧ Readings f := by
  have hread : (ofYaml dottedDocument).any (fun f => decide (Readings f)) = true := by
    decide +kernel
  cases hf : ofYaml dottedDocument with
  | none =>
    rw [hf] at hread
    cases hread
  | some f =>
    rw [hf, Option.any_some] at hread
    exact ⟨f, rfl, of_decide_eq_true hread⟩

/-- The file and its directory are both named without what follows the last point. -/
theorem isSkipped_iff_dotted : ∃ f, ofYaml dottedDocument = some f ∧
    Path.steps "fixtures/v1.2/test.blob.json" =
      [.name "fixtures", .name "v1.2"] ++ [.name "test.blob.json"] ∧
    Path.IsStem "test.blob.json" "test.blob" ∧
    IsCalled [.name "fixtures", .name "v1.2"] "v1" ∧
    f.isSkipped "fixtures/v1.2/test.blob.json" Option.none = true := by
  obtain ⟨f, hf, hlisted, -⟩ := dottedDocument_readings
  have hpath : Path.steps "fixtures/v1.2/test.blob.json" =
      [.name "fixtures", .name "v1.2"] ++ [.name "test.blob.json"] := by decide +kernel
  have hstem : Path.IsStem "test.blob.json" "test.blob" :=
    .cut ['j', 's', 'o', 'n'] (by decide +kernel) (by decide +kernel) (by decide)
  have hcalled : IsCalled [.name "fixtures", .name "v1.2"] "v1" :=
    .named rfl (.cut ['2'] (by decide +kernel) (by decide +kernel) (by decide))
  have hnamed : f.Names "v1" "test.blob" Option.none := .inl ⟨_, hlisted, List.mem_singleton_self _⟩
  exact ⟨f, hf, hpath, hstem, hcalled,
    ((isSkipped_iff hpath hstem).1 "v1" hcalled f Option.none).mpr (.inr hnamed)⟩

/-- The other file is named under its directory by the name that the directory has, and is not
left out. -/
theorem isSkipped_misses_dotted : ∃ f, ofYaml dottedDocument = some f ∧
    Path.steps "fixtures/v1.2/test.json" =
      [.name "fixtures", .name "v1.2"] ++ [.name "test.json"] ∧
    Path.IsStem "test.json" "test" ∧
    f.LeavesOut (Path.steps "fixtures/v1.2/test.json") "v1.2" "test" Option.none ∧
    f.isSkipped "fixtures/v1.2/test.json" Option.none = false := by
  obtain ⟨f, hf, -, hlisted, hskipped⟩ := dottedDocument_readings
  have hnamed : f.Names "v1.2" "test" Option.none := .inl ⟨_, hlisted, List.mem_singleton_self _⟩
  exact ⟨f, hf, by decide +kernel,
    .cut ['j', 's', 'o', 'n'] (by decide +kernel) (by decide +kernel) (by decide),
    .inr hnamed, hskipped⟩

end SkipFilter

end ChainConformance
