import ChainConformance.Proofs.GroupFiles
import ChainConformance.Suite.Cases

/-!
# Files of fixtures

A file is loaded in two ways: as a whole, where one fixture that breaks a rule of its own spoils
the file, and as cases, where such a fixture is settled by itself. Both read the same document,
and they agree on which of its fixtures keep their rules and on the first one that does not.
-/

namespace ChainConformance

open Json FieldReader

namespace Files

variable {files : Files} {path : String} {fields fields' : List (String × Json)}

/-- The text of the file at a path is an object with these fields. -/
def HoldsFields (files : Files) (path : String) (fields : List (String × Json)) : Prop :=
  ∃ text, files.readText path = .ok text ∧ parse text = .ok (.object fields)

lemma HoldsFields.unique (h : files.HoldsFields path fields)
    (h' : files.HoldsFields path fields') : fields = fields' := by
  obtain ⟨text, htext, hfields⟩ := h
  obtain ⟨text', htext', hfields'⟩ := h'
  rw [htext] at htext'
  cases htext'
  rw [hfields] at hfields'
  cases hfields'
  rfl

end Files

def Member.malformed? (m : Member) : Option CaseResult :=
  m.fixture.malformation?.map fun why => m.failed
    { kind := .fixtureConstruction, message := some why.display }

def Cases.fileAt (files : Files) (path : String) : Except FixtureFault FixtureFile := do
  FixtureFile.ofText path (← files.load path)

namespace FixtureFile

variable {files : Files} {path : String} {file : FixtureFile}

lemma fileAt_eq_ok_iff : Cases.fileAt files path = .ok file ↔
    ∃ fields, files.HoldsFields path fields ∧ ofJson (.object fields) = .ok file := by
  simp only [Cases.fileAt, Files.load, ofText, bind_eq_ok, mapError_eq_ok,
    readDocument_eq_ok_iff, Files.HoldsFields]
  constructor
  · rintro ⟨text, htext, j, hj, hfile⟩
    cases j with
    | object fields => exact ⟨fields, ⟨text, htext, hj⟩, hfile⟩
    | damaged fields => exact absurd hfile readMap_damaged
    | _ => cases hfile
  · rintro ⟨fields, ⟨text, htext, hj⟩, hfile⟩
    exact ⟨text, htext, _, hj, hfile⟩

lemma load_eq (files : Files) (path : String) : load files path =
    (Cases.fileAt files path).bind fun file => file.firstMalformed?.elim (.ok file) fun broken =>
      .error (.unreadable path (.fixture broken.1 broken.2)) := by
  unfold load Cases.fileAt
  cases files.load path with
  | error e => rfl
  | ok text =>
    simp only [bind, Except.bind]
    cases ofText path text with
    | error e => rfl
    | ok file =>
      simp only
      cases file.firstMalformed? <;> rfl

lemma load_of_unread {e : FixtureFault} (h : Cases.fileAt files path = .error e) :
    load files path = .error e := by
  rw [load_eq, h]
  rfl

lemma load_of_whole (h : Cases.fileAt files path = .ok file)
    (hnone : file.firstMalformed? = none) : load files path = .ok file := by
  rw [load_eq, h, Except.bind, hnone, Option.elim_none]

lemma load_of_malformed (h : Cases.fileAt files path = .ok file) {name : String}
    {why : Malformation} (hfirst : file.firstMalformed? = some (name, why)) :
    load files path = .error (.unreadable path (.fixture name why)) := by
  rw [load_eq, h, Except.bind, hfirst, Option.elim_some]

lemma load_eq_ok_iff : load files path = .ok file ↔
    Cases.fileAt files path = .ok file ∧ file.firstMalformed? = none := by
  refine ⟨fun h => ?_, fun ⟨hfile, hnone⟩ => load_of_whole hfile hnone⟩
  cases hfile : Cases.fileAt files path with
  | error e =>
    rw [load_of_unread hfile] at h
    cases h
  | ok read =>
    cases hfirst : read.firstMalformed? with
    | none =>
      rw [load_of_whole hfile hfirst] at h
      cases h
      exact ⟨rfl, hfirst⟩
    | some broken =>
      rw [load_of_malformed hfile hfirst] at h
      cases h

/-- The fixtures of a file in the order of their names. -/
def fixtures (path : String) (file : FixtureFile) : List Member :=
  file.entries.map fun e => ⟨path, e.1, e.2⟩

def sound (file : FixtureFile) : FixtureFile := file.filter fun _ f => f.malformation?.isNone

lemma mem_fixtures {m : Member} :
    m ∈ fixtures path file ↔ m.path = path ∧ file.get? m.name = some m.fixture := by
  rw [fixtures, List.mem_map, ← OrderedMap.mem_entries_iff]
  constructor
  · rintro ⟨e, he, rfl⟩
    exact ⟨rfl, he⟩
  · rintro ⟨rfl, hmem⟩
    exact ⟨_, hmem, rfl⟩

lemma fixtures_in_order (path : String) (file : FixtureFile) :
    (fixtures path file).Pairwise fun a b => Key.before a.name b.name = true :=
  file.sorted.map _ fun _ _ h => h

lemma get?_sound_eq_some {name : String} {f : Fixture} :
    (sound file).get? name = some f ↔ file.get? name = some f ∧ f.malformation? = none := by
  rw [sound, OrderedMap.get?_filter, Option.filter_eq_some_iff, Option.isNone_iff_eq_none]

lemma firstMalformed?_eq_none_iff : file.firstMalformed? = none ↔
    ∀ name f, file.get? name = some f → f.malformation? = none := by
  simp only [firstMalformed?, List.findSome?_eq_none_iff, Option.map_eq_none_iff, Prod.forall,
    OrderedMap.mem_entries_iff]

lemma firstMalformed?_sound (file : FixtureFile) : (sound file).firstMalformed? = none :=
  firstMalformed?_eq_none_iff.mpr fun _ _ h => (get?_sound_eq_some.mp h).2

lemma sound_eq_self (h : file.firstMalformed? = none) : sound file = file := by
  refine OrderedMap.ext_get? fun name => Option.ext fun f => ?_
  rw [get?_sound_eq_some]
  exact and_iff_left_of_imp (firstMalformed?_eq_none_iff.mp h name f)

end FixtureFile

namespace Cases

variable {files : Files} {path : String} {file : FixtureFile} {fields : List (String × Json)}

/-! ### Files as cases -/

lemma load_eq (files : Files) (path : String) :
    load files path = (fileAt files path).map (ofFile path) := by
  unfold load fileAt
  cases files.load path with
  | error e => rfl
  | ok text => cases FixtureFile.ofText path text <;> rfl

lemma load_eq_ok_iff {cases : Cases} : load files path = .ok cases ↔
    ∃ file, fileAt files path = .ok file ∧ ofFile path file = cases := by
  rw [load_eq, map_eq_ok]

lemma unread_of_load {e : FixtureFault} (h : load files path = .error e) :
    fileAt files path = .error e := by
  rw [load_eq] at h
  cases hfile : fileAt files path with
  | error e' =>
    rw [hfile] at h
    cases h
    rfl
  | ok file =>
    rw [hfile] at h
    cases h

lemma ofFile_eq (path : String) (file : FixtureFile) : ofFile path file =
    ⟨FixtureFile.fixtures path (FixtureFile.sound file),
      file.entries.filterMap fun e => Member.malformed? ⟨path, e.1, e.2⟩⟩ := by
  obtain ⟨entries, hsorted⟩ := file
  change (entries.map fun e => ofFixture path e.1 e.2).foldr append {} =
    ⟨(entries.filter fun e => e.2.malformation?.isNone).map fun e => ⟨path, e.1, e.2⟩,
      entries.filterMap fun e => Member.malformed? ⟨path, e.1, e.2⟩⟩
  clear hsorted
  induction entries with
  | nil => rfl
  | cons e rest ih =>
    rw [List.map_cons, List.foldr_cons, ih, ofFixture]
    cases hwhy : e.2.malformation? <;> simp [append, Member.malformed?, hwhy]

lemma ofFile_members (path : String) (file : FixtureFile) :
    (ofFile path file).members = FixtureFile.fixtures path (FixtureFile.sound file) := by
  rw [ofFile_eq]

lemma ofFile_settled (path : String) (file : FixtureFile) : (ofFile path file).settled =
    file.entries.filterMap fun e => Member.malformed? ⟨path, e.1, e.2⟩ := by
  rw [ofFile_eq]

lemma mem_settled_ofFile {r : CaseResult} : r ∈ (ofFile path file).settled ↔
    ∃ f why, file.get? r.name = some f ∧ f.malformation? = some why ∧
      r = Member.failed ⟨path, r.name, f⟩
        { kind := .fixtureConstruction, message := some why.display } := by
  rw [ofFile_settled, List.mem_filterMap]
  constructor
  · rintro ⟨e, he, hr⟩
    obtain ⟨why, hwhy, rfl⟩ := Option.map_eq_some_iff.mp hr
    exact ⟨e.2, why, OrderedMap.mem_entries_iff.mp he, hwhy, rfl⟩
  · rintro ⟨f, why, hget, hwhy, hr⟩
    refine ⟨(r.name, f), OrderedMap.mem_entries_iff.mpr hget, ?_⟩
    rw [Member.malformed?, hwhy, hr]
    rfl

lemma mem_settled_names {name : String} : name ∈ (ofFile path file).settled.map (·.name) ↔
    ∃ f, file.get? name = some f ∧ f.malformation? ≠ none := by
  rw [List.mem_map]
  constructor
  · rintro ⟨r, hr, rfl⟩
    obtain ⟨f, why, hget, hwhy, -⟩ := mem_settled_ofFile.mp hr
    exact ⟨f, hget, by rw [hwhy]; exact Option.some_ne_none why⟩
  · rintro ⟨f, hget, hbroken⟩
    obtain ⟨why, hwhy⟩ := Option.ne_none_iff_exists'.mp hbroken
    exact ⟨Member.failed ⟨path, name, f⟩ _, mem_settled_ofFile.mpr ⟨f, why, hget, hwhy, rfl⟩, rfl⟩

lemma settled_eq_nil_iff :
    (ofFile path file).settled = [] ↔ file.firstMalformed? = none := by
  simp only [ofFile_settled, FixtureFile.firstMalformed?, Member.malformed?,
    List.filterMap_eq_nil_iff, List.findSome?_eq_none_iff, Option.map_eq_none_iff]

lemma firstMalformed?_of_settled {first : CaseResult} {rest : List CaseResult}
    (h : (ofFile path file).settled = first :: rest) : ∃ f why,
      file.get? first.name = some f ∧ f.malformation? = some why ∧
        file.firstMalformed? = some (first.name, why) := by
  rw [ofFile_settled] at h
  obtain ⟨before, e, after, hentries, hbefore, hfirst, -⟩ := List.filterMap_eq_cons_iff.mp h
  obtain ⟨why, hwhy, rfl⟩ := Option.map_eq_some_iff.mp hfirst
  have hmem : e ∈ file.entries := by
    rw [hentries]
    exact List.mem_append_cons_self
  refine ⟨e.2, why, OrderedMap.mem_entries_iff.mp hmem, hwhy,
    List.findSome?_eq_some_iff.mpr ⟨before, e, after, hentries, ?_, fun e' he' => ?_⟩⟩
  · rw [hwhy]
    rfl
  · have hnone := hbefore e' he'
    rw [Member.malformed?, Option.map_eq_none_iff] at hnone
    rw [hnone]
    rfl

/-- The fixtures of a document, each under its name, are divided into those that keep their rules
and those that do not. The former are members as they are, and for each of the latter the rule
that it breaks is reported. Both stand in the order of their names. -/
structure Divides (path : String) (fields : List (String × Json)) (c : Cases) : Prop where
  mem_members (m : Member) : m ∈ c.members ↔ m.path = path ∧
    readLast? Fixture.ofJson fields m.name = some m.fixture ∧ m.fixture.malformation? = none
  mem_settled (r : CaseResult) : r ∈ c.settled ↔ ∃ f why,
    readLast? Fixture.ofJson fields r.name = some f ∧ f.malformation? = some why ∧
      r = Member.failed ⟨path, r.name, f⟩
        { kind := .fixtureConstruction, message := some why.display }
  members_in_order : c.members.Pairwise fun a b => Key.before a.name b.name = true
  settled_in_order : c.settled.Pairwise fun a b => Key.before a.name b.name = true

lemma divides_ofFile (h : FixtureFile.ofJson (.object fields) = .ok file) :
    Divides path fields (ofFile path file) := by
  have hget (name : String) : file.get? name = readLast? Fixture.ofJson fields name :=
    get?_readMap h name
  constructor
  · intro m
    rw [ofFile_members, FixtureFile.mem_fixtures, FixtureFile.get?_sound_eq_some, hget]
  · intro r
    simp only [mem_settled_ofFile, hget]
  · rw [ofFile_members]
    exact FixtureFile.fixtures_in_order path _
  · rw [ofFile_settled]
    refine file.sorted.filterMap _ fun e e' hbefore r hr r' hr' => ?_
    obtain ⟨why, -, rfl⟩ := Option.map_eq_some_iff.mp hr
    obtain ⟨why', -, rfl⟩ := Option.map_eq_some_iff.mp hr'
    exact hbefore

/-- The fields of a document without those that are settled make the fixtures that keep their
rules. -/
lemma ofJson_sound (h : FixtureFile.ofJson (.object fields) = .ok file) :
    FixtureFile.ofJson (.object
      (fields.filter fun e => e.1 ∉ (ofFile path file).settled.map (·.name))) =
        .ok (FixtureFile.sound file) := by
  let keeps (name : String) : Bool := name ∉ (ofFile path file).settled.map (·.name)
  have hread : ∀ e ∈ fields, ∃ f, Fixture.ofJson e.2 = .ok f := exists_readMap_iff.mp ⟨file, h⟩
  obtain ⟨kept, hkept⟩ : ∃ kept,
      FixtureFile.ofJson (.object (fields.filter fun e => keeps e.1)) = .ok kept :=
    exists_readMap_iff.mpr fun e he => hread e (List.mem_of_mem_filter he)
  have hsound : kept = FixtureFile.sound file := by
    refine OrderedMap.ext_get? fun name => Option.ext fun f => ?_
    rw [FixtureFile.get?_sound_eq_some, get?_readMap hkept, readLast?_filter, ← get?_readMap h]
    simp only [keeps, decide_eq_true_eq, mem_settled_names, Option.ite_none_right_eq_some]
    constructor
    · rintro ⟨hkeeps, hget⟩
      exact ⟨hget, by_contra fun hbroken => hkeeps ⟨f, hget, hbroken⟩⟩
    · rintro ⟨hget, hnone⟩
      refine ⟨?_, hget⟩
      rintro ⟨f', hget', hbroken⟩
      rw [hget] at hget'
      cases hget'
      exact hbroken hnone
  rw [← hsound]
  exact hkept

/-- A file is loaded as a whole if and only if it is loaded as cases and nothing is settled, and
then both ways give the same fixtures under the same names. If something is settled, the file is
not loaded as a whole, for the rule that is broken by the fixture of the first result. What is
left are all fixtures that keep their rules, as they stand in the document and as the whole file
would be loaded if the others were not in it. -/
theorem load_agrees (files : Files) (path : String) :
    ((∃ file, FixtureFile.load files path = .ok file) ↔
      ∃ cases, load files path = .ok cases ∧ cases.settled = []) ∧
    (∀ file cases, FixtureFile.load files path = .ok file → load files path = .ok cases →
      cases.members = FixtureFile.fixtures path file) ∧
    (∀ e, load files path = .error e → FixtureFile.load files path = .error e) ∧
    ∀ cases, load files path = .ok cases → ∃ fields, files.HoldsFields path fields ∧
      cases.Divides path fields ∧
      (∀ first rest, cases.settled = first :: rest → ∃ f why,
        readLast? Fixture.ofJson fields first.name = some f ∧ f.malformation? = some why ∧
        FixtureFile.load files path = .error (.unreadable path (.fixture first.name why))) ∧
      ∀ others : Files, others.HoldsFields path
          (fields.filter fun e => e.1 ∉ cases.settled.map (·.name)) →
        ∃ file, FixtureFile.load others path = .ok file ∧
          FixtureFile.fixtures path file = cases.members := by
  refine ⟨⟨?whole, ?cases⟩, fun file cases hwhole hload => ?same, fun e hload => ?unread,
    fun cases hload => ?divided⟩
  case whole =>
    rintro ⟨file, hwhole⟩
    obtain ⟨hfile, hnone⟩ := FixtureFile.load_eq_ok_iff.mp hwhole
    exact ⟨_, load_eq_ok_iff.mpr ⟨file, hfile, rfl⟩, settled_eq_nil_iff.mpr hnone⟩
  case cases =>
    rintro ⟨cases, hload, hsettled⟩
    obtain ⟨file, hfile, rfl⟩ := load_eq_ok_iff.mp hload
    exact ⟨file, FixtureFile.load_eq_ok_iff.mpr ⟨hfile, settled_eq_nil_iff.mp hsettled⟩⟩
  case same =>
    obtain ⟨hfile, hnone⟩ := FixtureFile.load_eq_ok_iff.mp hwhole
    obtain ⟨file', hfile', rfl⟩ := load_eq_ok_iff.mp hload
    rw [hfile] at hfile'
    cases hfile'
    rw [ofFile_members, FixtureFile.sound_eq_self hnone]
  case unread => exact FixtureFile.load_of_unread (unread_of_load hload)
  case divided =>
    obtain ⟨file, hfile, rfl⟩ := load_eq_ok_iff.mp hload
    obtain ⟨fields, hfields, hread⟩ := FixtureFile.fileAt_eq_ok_iff.mp hfile
    refine ⟨fields, hfields, divides_ofFile hread, fun first rest hsettled => ?_,
      fun others hothers => ⟨FixtureFile.sound file, ?_, (ofFile_members path file).symm⟩⟩
    · obtain ⟨f, why, hget, hwhy, hfirst⟩ := firstMalformed?_of_settled hsettled
      rw [get?_readMap hread] at hget
      exact ⟨f, why, hget, hwhy, FixtureFile.load_of_malformed hfile hfirst⟩
    · have hkept := FixtureFile.fileAt_eq_ok_iff.mpr ⟨_, hothers, ofJson_sound hread⟩
      exact FixtureFile.load_eq_ok_iff.mpr ⟨hkept, FixtureFile.firstMalformed?_sound file⟩

end Cases

/-! ### A document of samples -/

namespace Sample

def between (start stop : Option Alloc) : Fixture :=
  { bare with pre := start, postState := stop }

lemma readOption_state (s : Option Alloc) :
    readOption Alloc.ofJson (ofOption Alloc.toJson s) = .ok s := by
  cases s with
  | none => rfl
  | some s => exact congrArg (Except.map some) (Alloc.ofJson_toJson s)

lemma reread_state (s : Option Alloc) :
    (ofOption Alloc.toJson s).reread = ofOption Alloc.toJson s := by
  cases s with
  | none => rfl
  | some s => exact s.reread_toJson

lemma ofJson_toJson (start stop : Option Alloc) :
    Fixture.ofJson (toJson (between start stop)) = .ok (between start stop) := by
  let f := between start stop
  let fields := [("network", Json.text f.network.name), ("genesisBlockHeader", f.genesis.toJson),
    ("pre", ofOption Alloc.toJson start), ("blocks", Json.array []),
    ("lastblockhash", ofFixed f.lastBlockHash), ("postState", ofOption Alloc.toJson stop)]
  have hnames : (fields.map (·.1)).Nodup := by
    change ["network", "genesisBlockHeader", "pre", "blocks", "lastblockhash", "postState"].Nodup
    decide
  have hnetwork : (required "network" Fork.ofJson).Gives fields f.network :=
    gives_required hnames (by simp [fields]) (Fork.ofJson_name _)
  have hgenesis : (required "genesisBlockHeader" Header.ofJson).Gives fields f.genesis :=
    gives_required hnames (by simp [fields]) (Header.ofJson_toJson _)
  have hpre : (optional "pre" Alloc.ofJson).Gives fields start :=
    gives_defaulted hnames (by simp [fields]) (readOption_state start)
  have hblocks : (defaulted "blocks" [] (readList FixtureBlock.ofJson)).Gives fields [] :=
    gives_defaulted (j := Json.array []) hnames (by simp [fields]) rfl
  have hlast : (required "lastblockhash" readFixed).Gives fields f.lastBlockHash :=
    gives_required hnames (by simp [fields]) (readFixed_ofFixed _)
  have hpost : (named ["postState", "post"] (some none) (readOption Alloc.ofJson)).Gives fields
      stop :=
    gives_named (by simp [fields]) (readOption_state stop)
  have habsent {α : Type} (name : String) (a : α) (r : Json → Read α)
      (h : (fields.filter fun e => [name].contains e.1) = []) :
      (named [name] (some a) r).Gives fields a := gives_named_absent h
  exact (hnetwork.map Fixture.mk
    |>.seq hgenesis
    |>.seq (habsent "genesisRLP" _ _ (by simp [fields]))
    |>.seq hpre
    |>.seq (habsent "preHash" _ _ (by simp [fields]))
    |>.seq hblocks
    |>.seq (habsent "engineNewPayloads" _ _ (by simp [fields]))
    |>.seq (habsent "engineFcuVersion" _ _ (by simp [fields]))
    |>.seq hlast
    |>.seq hpost
    |>.seq (habsent "postStateHash" _ _ (by simp [fields]))
    |>.seq (habsent "postStateDiff" _ _ (by simp [fields]))
    |>.seq (habsent "config" _ _ (by simp [fields]))
    |>.seq (habsent "sealEngine" _ _ (by simp [fields]))
    |>.map (Function.const _) |>.seq (habsent "_info" _ _ (by simp [fields]))).readRecord

lemma reread_toJson (start stop : Option Alloc) :
    (toJson (between start stop)).reread = toJson (between start stop) := by
  apply reread_object
  simp only [List.forall_mem_cons]
  exact ⟨rfl, Header.reread_toJson _, reread_state start, rfl, rfl, reread_state stop,
    List.forall_mem_nil _⟩

end Sample

namespace Cases

def written (samples : List (String × Fixture)) : List (String × Json) :=
  samples.map fun e => (e.1, Sample.toJson e.2)

def good : String × Fixture := ("a", Sample.between (some .empty) (some .empty))

/-- Samples of which the first has no state to end with, and the last none to start from. -/
def mixture : List (String × Fixture) :=
  [("c", Sample.between (some .empty) none), good, ("b", Sample.between none (some .empty))]

def document (samples : List (String × Fixture)) : Files :=
  OrderedMap.empty.insert "a.json" (bytesOfText (Json.object (written samples)).toCompact)

lemma holdsFields_document {samples : List (String × Fixture)}
    (h : ∀ e ∈ samples, ∃ start stop, e.2 = Sample.between start stop) :
    (document samples).HoldsFields "a.json" (written samples) := by
  refine ⟨_, Files.readText_single _ _, ?_⟩
  rw [parse_toCompact, reread_object]
  intro e he
  obtain ⟨sample, hsample, rfl⟩ := List.mem_map.mp he
  obtain ⟨start, stop, hbetween⟩ := h sample hsample
  simp only [hbetween, Sample.reread_toJson]

lemma holdsFields_mixture : (document mixture).HoldsFields "a.json" (written mixture) := by
  apply holdsFields_document
  simp only [mixture, List.forall_mem_cons]
  exact ⟨⟨_, _, rfl⟩, ⟨_, _, rfl⟩, ⟨_, _, rfl⟩, List.forall_mem_nil _⟩

lemma ofJson_mixture :
    FixtureFile.ofJson (.object (written mixture)) = .ok (OrderedMap.ofList mixture) := by
  simp only [FixtureFile.ofJson, readMap, readEntries, written, mixture, good, List.map_cons,
    List.map_nil, List.foldlM_cons, List.foldlM_nil, Sample.ofJson_toJson]
  rfl

lemma readLast?_mixture : readLast? Fixture.ofJson (written mixture) "b" =
    some (Sample.between none (some .empty)) := by
  have hnamed : (written mixture).filter (fun e => "b" = e.1) =
      [("b", Sample.toJson (Sample.between none (some .empty)))] := rfl
  rw [readLast?, hnamed, List.getLast?_singleton, Option.bind_some, Sample.ofJson_toJson]
  rfl

/-- Of the fixtures that break a rule the one is reported whose name is first, and the file is
loaded as a whole without both of them. -/
theorem load_agrees_mixture : ∃ cases first rest,
    load (document mixture) "a.json" = .ok cases ∧ cases.settled = first :: rest ∧
    first.name = "b" ∧ cases.members = [⟨"a.json", good.1, good.2⟩] ∧
    FixtureFile.load (document mixture) "a.json" =
      .error (.unreadable "a.json" (.fixture "b" .noPreState)) ∧
    (document [good]).HoldsFields "a.json"
      ((written mixture).filter fun e => e.1 ∉ cases.settled.map (·.name)) ∧
    ∃ file, FixtureFile.load (document [good]) "a.json" = .ok file ∧
      FixtureFile.fixtures "a.json" file = cases.members := by
  have hload : load (document mixture) "a.json" =
      .ok (ofFile "a.json" (OrderedMap.ofList mixture)) := by
    rw [load_eq, FixtureFile.fileAt_eq_ok_iff.mpr ⟨_, holdsFields_mixture, ofJson_mixture⟩]
    rfl
  obtain ⟨fields, hfields, -, hfirst, hothers⟩ :=
    (load_agrees (document mixture) "a.json").2.2.2 _ hload
  obtain rfl := hfields.unique holdsFields_mixture
  have hkept : (document [good]).HoldsFields "a.json" ((written mixture).filter fun e =>
      e.1 ∉ (ofFile "a.json" (OrderedMap.ofList mixture)).settled.map (·.name)) := by
    have hgood : (written mixture).filter (fun e => e.1 ∉
        (ofFile "a.json" (OrderedMap.ofList mixture)).settled.map (·.name)) = written [good] := rfl
    rw [hgood]
    exact holdsFields_document (List.forall_mem_singleton.mpr ⟨_, _, rfl⟩)
  refine ⟨_, _, _, hload, rfl, rfl, rfl, ?_, hkept, hothers _ hkept⟩
  obtain ⟨f, why, hget, hwhy, herror⟩ := hfirst _ _ rfl
  cases readLast?_mixture.symm.trans hget
  cases hwhy
  exact herror

end Cases

end ChainConformance
