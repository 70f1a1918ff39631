import ChainConformance.Proofs.GroupKeys
import ChainConformance.Proofs.GroupPartition
import ChainConformance.Proofs.PathNames
import ChainConformance.Sample.Fixtures

/-!
# Files of groups

A group is read back from the document in which it is written, and so from a file that holds
it. A file that is named for the key under which fixtures make a group, and that holds the
group, gives a group with this very key.
-/

namespace ChainConformance

open Json FieldReader

lemma textOfBytes?_toList (s : String) : textOfBytes? s.toUTF8.data.toList = some s :=
  dif_pos s.isValidUTF8

lemma textOfBytes?_bytesOfText (s : String) : textOfBytes? (bytesOfText s) = some s := by
  rw [bytesOfText, toList_eq_data, textOfBytes?_toList]

lemma Files.content?_single (path : String) (bytes : Bytes) :
    content? (OrderedMap.empty.insert path bytes) path = some bytes := by
  simp only [content?, OrderedMap.insert, OrderedMap.empty, OrderedMap.place, List.find?_cons,
    decide_true, Option.map_some]

lemma Files.readText_single (path text : String) :
    readText (OrderedMap.empty.insert path (bytesOfText text)) path = .ok text := by
  rw [readText, content?_single]
  simp only [textOfBytes?_bytesOfText]

namespace Group

lemma stem?_path (fixtures : String) (hash : Hash) :
    Path.stem? (Path.steps (path fixtures hash)) = some hash.toHex := by
  let stem := '0' :: 'x' :: Hex.plain hash.bytes
  let name := stem ++ '.' :: ['j', 's', 'o', 'n']
  have hfile : path fixtures hash =
      Path.join (Path.join fixtures directory) (String.ofList name) := by
    rw [String.ofList_append]
    rfl
  have hslash : '/' ∉ name := by
    intro hmem
    have hplain : '/' ∈ Hex.plain hash.bytes := by simpa [name, stem] using hmem
    obtain ⟨n, hn, hdigit⟩ := Hex.exists_digit hplain
    interval_cases n <;> exact absurd hdigit (by decide)
  rw [Path.stem?, hfile, Path.lastName?_join _ hslash rfl, Option.map_some,
    Path.splitExtension_append (List.cons_ne_nil _ _) (by decide)]
  rfl

lemma ofJson_toJson {g : Group} (counted : g.testCount < UInt64.size) :
    ofJson g.toJson = .ok g := by
  let fields := [("pre", g.pre.toJson), ("environment", g.environment.toJson),
    ("network", Json.text g.network.name), ("testIds", Json.ofList Json.text g.testIds),
    ("test_count", Json.integer g.testCount)]
  have hnames : (fields.map (·.1)).Nodup := by
    change ["pre", "environment", "network", "testIds", "test_count"].Nodup
    decide
  have hpre : (required "pre" Alloc.ofJson).Gives fields g.pre :=
    gives_required hnames (by simp [fields]) (Alloc.ofJson_toJson _)
  have henvironment : (required "environment" Environment.ofJson).Gives fields g.environment :=
    gives_required hnames (by simp [fields]) (Environment.ofJson_toJson _)
  have hnetwork : (required "network" Fork.ofJson).Gives fields g.network :=
    gives_required hnames (by simp [fields]) (Fork.ofJson_name _)
  have hid : ∀ id, readText (.text id) = .ok id := fun _ => rfl
  have hids : readList readText (ofList Json.text g.testIds) = .ok g.testIds :=
    readList_ofList hid _
  have htestIds : (defaulted "testIds" [] (readList readText)).Gives fields g.testIds :=
    gives_defaulted hnames (by simp [fields]) hids
  have htestCount : (defaulted "test_count" 0 readNatural).Gives fields g.testCount :=
    gives_defaulted hnames (by simp [fields]) (readNatural_integer counted)
  exact (((((hpre.map mk).seq henvironment).seq hnetwork).seq htestIds).seq
    htestCount).readRecord

lemma reread_toJson {g : Group} (counted : g.testCount < UInt64.size) :
    g.toJson.reread = g.toJson := by
  have htestIds : (Json.array (g.testIds.map .text)).reread = .array (g.testIds.map .text) := by
    apply reread_array
    intro j hj
    obtain ⟨id, -, rfl⟩ := List.mem_map.mp hj
    rfl
  apply reread_object
  simp only [List.forall_mem_cons]
  exact ⟨Alloc.reread_toJson _, g.environment.reread_toJson, rfl, htestIds,
    reread_natural counted, List.forall_mem_nil _⟩

lemma load_of_text {files : Files} {fixtures text : String} {hash : Hash} {g : Group}
    (hread : files.readText (path fixtures hash) = .ok text)
    (hgroup : readDocument ofJson text = .ok g) : load files fixtures hash = .ok g := by
  rw [load, Files.load, hread]
  change ofText _ text = .ok g
  rw [ofText, hgroup]
  rfl

/-- A group whose count is one of 64 bits, as counts are, comes back from its JSON form and from
the file under a key that holds it. The file is named for the key, and if fixtures make the
group under this key, it is the key of what comes back. -/
theorem load_written {g : Group} (counted : g.testCount < UInt64.size) {files : Files}
    {fixtures : String} {hash : Hash}
    (written : files.content? (path fixtures hash) = some (bytesOfText g.toJson.toCompact)) :
    ofJson g.toJson = .ok g ∧ load files fixtures hash = .ok g ∧
    Path.stem? (Path.steps (path fixtures hash)) = some hash.toHex ∧
    ∀ members, (ofFixtures members).get? hash = some g → g.key = hash := by
  have hread : files.readText (path fixtures hash) = .ok g.toJson.toCompact := by
    rw [Files.readText, written]
    simp only [textOfBytes?_bytesOfText]
  have hgroup : readDocument ofJson g.toJson.toCompact = .ok g :=
    (readDocument_toCompact (reread_toJson counted)).trans (ofJson_toJson counted)
  exact ⟨ofJson_toJson counted, load_of_text hread hgroup, stem?_path fixtures hash,
    fun _ hg => (get?_ofFixtures_eq_some hg).1⟩

def sparse : Fixture :=
  { Sample.bare with
    network := .spuriousDragon
    genesis := { (default : Header) with baseFee := some 7 }
    pre := some (slotted [(1, 1), (2, 0)]) }

/-- The group of two such fixtures, whose ids cannot be written without escapes. -/
def sparseGroup : Group :=
  { opened sparse (slotted [(1, 1), (2, 0)]) with testIds := ["a \"b\"", "c\n"], testCount := 2 }

theorem load_written_sparse :
    let members := [("a \"b\"", sparse), ("c\n", sparse)]
    let files : Files := OrderedMap.empty.insert (path "fixtures" sparseGroup.key)
      (bytesOfText sparseGroup.toJson.toCompact)
    sparseGroup.testCount < UInt64.size ∧
    files.content? (path "fixtures" sparseGroup.key) =
      some (bytesOfText sparseGroup.toJson.toCompact) ∧
    (ofFixtures members).get? sparseGroup.key = some sparseGroup ∧
    ∃ g, load files "fixtures" sparseGroup.key = .ok g ∧ g.key = sparseGroup.key := by
  intro members files
  have counted : sparseGroup.testCount < UInt64.size := by decide
  have written : files.content? (path "fixtures" sparseGroup.key) =
      some (bytesOfText sparseGroup.toJson.toCompact) := Files.content?_single _ _
  have hpre : sparse.pre = some (slotted [(1, 1), (2, 0)]) := rfl
  have hkey : sparse.groupKey? = some sparseGroup.key := by
    rw [groupKey?_of_pre hpre, key, sparseGroup, opened]
  have hmade : (ofFixtures members).get? sparseGroup.key = some sparseGroup := by
    have hall : (members.filter fun f => f.2.groupKey? = some sparseGroup.key) = members := by
      apply List.filter_eq_self.mpr
      simp [members, hkey]
    rw [get?_ofFixtures, hall]
    rfl
  obtain ⟨-, hload, -, hown⟩ := load_written counted written
  exact ⟨counted, written, hmade, sparseGroup, hload, hown members hmade⟩

end Group

end ChainConformance
