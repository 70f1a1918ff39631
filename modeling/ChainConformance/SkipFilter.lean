import ChainConformance.Dialect
import ChainConformance.Path

/-!
# Skip filters

Which files and fixtures are left out: whole directories by their names, and in directories
of a name files by their names or by patterns, and fixtures by their names.
-/

namespace ChainConformance

structure SkipFilter where
  directories : List String
  fileNames : OrderedMap String (List String)
  patterns : OrderedMap String (List (String → Bool))
  testNames : OrderedMap String (List String)

namespace SkipFilter

def none : SkipFilter := ⟨[], .empty, .empty, .empty⟩

def read (d : Dialect) (content : String) : Option SkipFilter := do
  let entries ← (← d.document? content).entries?
  let lists := Yaml.map? Yaml.texts?
  let directories ← Yaml.field? entries "directories" (some []) Yaml.texts?
  let fileNames ← Yaml.field? entries "filename" (some .empty) lists
  let patterns ← Yaml.field? entries "regex" (some .empty) lists
  let testNames ← Yaml.field? entries "testname" (some .empty) lists
  let compiled ← patterns.entries.foldlM
    (fun m e => do return m.insert e.1 (← e.2.mapM d.pattern?)) OrderedMap.empty
  return ⟨directories, fileNames, compiled, testNames⟩

def ofYaml (content : String) : Option SkipFilter := read .own content

def stepName : Path.Step → String
  | .root => "/"
  | .here => "."
  | .up => ".."
  | .name s => s

def listed {α : Type} (m : OrderedMap String (List α)) (directory : String) : List α :=
  (m.get? directory).getD []

/-- Whether a file, or the fixture of a name in it, is left out. Names count without their
last extension. -/
def isSkipped (f : SkipFilter) (path : String) (test : Option String) : Bool :=
  let steps := Path.steps path
  -- A directory whose name has a point in it goes by what stands before its last point.
  let directory := ((Path.parent? steps).bind Path.stem?).getD ""
  let file := (Path.stem? steps).getD ""
  steps.any (fun s => f.directories.contains (stepName s)) ||
    (listed f.fileNames directory).contains file ||
    (listed f.patterns directory).any (fun isFound => isFound file) ||
    (match test with
      | some t => (listed f.testNames directory).contains t
      | Option.none => false)

end SkipFilter

end ChainConformance
