import ChainConformance.OrderedMap

/-!
# YAML values

Scalars as they are written, lists and mappings. What a scalar means is left to who reads
it; whether it was written without quotes is kept, since only then can it mean nothing.
-/

namespace ChainConformance

inductive Yaml where
  | scalar (plain : Bool) (text : String)
  | list (items : List Yaml)
  | mapping (entries : List (Yaml × Yaml))
  deriving Repr, Inhabited

namespace Yaml

def missing : Yaml := scalar true ""

def isMissing : Yaml → Bool
  | scalar true s => s.isEmpty
  | _ => false

def isNull : Yaml → Bool
  | scalar true s => s.isEmpty || s == "~" || s == "null" || s == "Null" || s == "NULL"
  | _ => false

def text? : Yaml → Option String
  | scalar _ s => some s
  | _ => none

def items? : Yaml → Option (List Yaml)
  | list l => some l
  | y => if y.isMissing then some [] else none

/-- The entries of a mapping whose keys are scalars, none where nothing is written. -/
def entries? : Yaml → Option (List (String × Yaml))
  | mapping entries => entries.mapM fun e => e.1.text?.map (·, e.2)
  | y => if y.isMissing then some [] else none

def texts? (y : Yaml) : Option (List String) := do (← y.items?).mapM text?

def optional? {α : Type} (f : Yaml → Option α) (y : Yaml) : Option (Option α) :=
  if y.isNull then some none else (f y).map some

/-- Reads a mapping by its keys. Of several entries with one key the last counts. -/
def map? {α : Type} (f : Yaml → Option α) (y : Yaml) : Option (OrderedMap String α) := do
  (← y.entries?).foldlM (fun m e => do return m.insert e.1 (← f e.2)) .empty

/-- Reads the one entry with a key, `absent` if there is none. -/
def field? {α : Type} (entries : List (String × Yaml)) (name : String) (absent : Option α)
    (f : Yaml → Option α) : Option α :=
  match entries.filter (·.1 == name) with
  | [] => absent
  | [e] => f e.2
  | _ => none

end Yaml

end ChainConformance
