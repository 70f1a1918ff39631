import ChainConformance.Group
import ChainConformance.Path
import ChainConformance.Run.Member
import ChainConformance.SkipFilter

/-!
# Cases

The fixtures that are found under a directory: those that can be run, and the results of
those that cannot.
-/

namespace ChainConformance

/-- Fixtures to run, and results that stand already. -/
structure Cases where
  members : List Member := []
  settled : List CaseResult := []

namespace Cases

def append (a b : Cases) : Cases := ⟨a.members ++ b.members, a.settled ++ b.settled⟩

instance : Append Cases := ⟨append⟩

def size (c : Cases) : Nat := c.members.length + c.settled.length

/-- The case of a fixture: one that breaks a rule of its own has failed already. -/
def ofFixture (path name : String) (f : Fixture) : Cases :=
  let member : Member := ⟨path, name, f⟩
  match f.malformation? with
  | none => { members := [member] }
  | some why => { settled := [member.failed
      { kind := .fixtureConstruction, message := some why.display }] }

def ofFile (path : String) (file : FixtureFile) : Cases :=
  (file.entries.map fun e => ofFixture path e.1 e.2).foldr append {}

def load (files : Files) (path : String) : Except FixtureFault Cases := do
  return ofFile path (← FixtureFile.ofText path (← files.load path))

/-- The cases with those settled that a filter leaves out. -/
def filtered (c : Cases) (filter : SkipFilter) : Cases :=
  let (out, kept) := c.members.partition fun m => filter.isSkipped m.path (some m.name)
  ⟨kept, c.settled ++ out.map fun m => m.result (.error .skipped)⟩

/-- The case of a file whose fixtures are not known. -/
def ofUnread (path : String) (why : RunFault) : Cases :=
  { settled := [{
      name := (Path.stem? (Path.steps path)).getD "", path := path, result := .error why }] }

/-- The cases of a file under a filter. A file that cannot be read is one case. -/
def ofPath (files : Files) (filter : SkipFilter) (path : String) : Cases :=
  if filter.isSkipped path none then ofUnread path .skipped
  else match load files path with
    | .ok cases => cases.filtered filter
    | .error e => ofUnread path (.fixture e)

/-- The path of a file from a directory on, if it is in the directory or is it. -/
def stepsUnder? : List Path.Step → List Path.Step → Option (List Path.Step)
  | [], path => some path
  | _, [] => none
  | a :: directory, b :: path => if a = b then stepsUnder? directory path else none

/-- Whether a path that begins with the given directory, or one in it, holds groups. -/
def isGroupPath (directory below : List Path.Step) : Bool :=
  Path.lastName? directory = some Group.directory ||
    below.contains (.name Group.directory)

/-- The path of a file as it is found from the root on, unless it is not to be found: it is
not under the root, it is in a directory of groups, or it is no JSON file. -/
def foundAt? (root path : String) : Option String :=
  (stepsUnder? (Path.steps root) (Path.steps path)).bind fun below =>
    let found := below.foldl (fun p s => Path.join p (SkipFilter.stepName s)) root
    if isGroupPath (Path.steps root) below then none
    else if Path.extension? (Path.steps path) = some "json" then some found
    else none

def pathAtMost (a b : String) : Bool := !Path.stepsBefore (Path.steps b) (Path.steps a)

/-- The fixture files under a root, in the order of their paths. -/
def discover (files : Files) (root : String) : List String :=
  (files.keys.filterMap (foundAt? root)).mergeSort pathAtMost

def ofRoot (files : Files) (filter : SkipFilter) (root : String) : Cases :=
  ((discover files root).map (ofPath files filter)).foldr append {}

end Cases

end ChainConformance
