import ChainConformance.Text.Order

/-!
# Paths

Paths as the names between their slashes. Empty names and dots inside a path do not count.
-/

namespace ChainConformance.Path

inductive Step where
  | root
  | here
  | up
  | name (s : String)
  deriving Repr, DecidableEq

def splitSlashes : List Char → List (List Char)
  | [] => [[]]
  | c :: rest =>
    match splitSlashes rest with
    | [] => [[c]]
    | piece :: pieces => if c = '/' then [] :: piece :: pieces else (c :: piece) :: pieces

def stepOf (piece : List Char) : Option Step :=
  if piece = [] ∨ piece = ['.'] then none
  else if piece = ['.', '.'] then some .up
  else some (.name (String.ofList piece))

/-- The steps of a path. A dot counts at its start alone. -/
def steps (path : String) : List Step :=
  match splitSlashes path.toList with
  | [] => []
  | [[]] => []
  | [] :: rest => .root :: rest.filterMap stepOf
  | ['.'] :: rest => .here :: rest.filterMap stepOf
  | pieces => pieces.filterMap stepOf

/-- The order of steps: the root, dots, and then names as texts. -/
def Step.before : Step → Step → Bool
  | .name a, .name b => Text.before a b
  | .name _, _ => false
  | _, .name _ => true
  | .root, .root => false
  | .root, _ => true
  | .here, .up => true
  | _, _ => false

def stepsBefore : List Step → List Step → Bool
  | [], [] => false
  | [], _ :: _ => true
  | _ :: _, [] => false
  | a :: as, b :: bs => if a = b then stepsBefore as bs else a.before b

def lastName? (path : List Step) : Option String :=
  match path.getLast? with
  | some (.name s) => some s
  | _ => none

/-- The steps of the directory that holds a path, none if the path is empty or the root. -/
def parent? (path : List Step) : Option (List Step) :=
  match path.getLast? with
  | none => none
  | some .root => none
  | some _ => some path.dropLast

/-- Splits a name at its last point, unless the point is at its start or missing. -/
def splitExtension (name : String) : String × Option String :=
  let reversed := name.toList.reverse
  let extension := reversed.takeWhile (· ≠ '.')
  match reversed.dropWhile (· ≠ '.') with
  | [] => (name, none)
  | [_] => (name, none)
  | _ :: stem => (String.ofList stem.reverse, some (String.ofList extension.reverse))

/-- The name that a list of steps ends with, without its last extension. -/
def stem? (path : List Step) : Option String := (lastName? path).map fun n => (splitExtension n).1

/-- The last extension of the name that a list of steps ends with. -/
def extension? (path : List Step) : Option String :=
  (lastName? path).bind fun n => (splitExtension n).2

def join (directory path : String) : String :=
  if "/".isPrefixOf path then path
  else if directory.isEmpty || directory.endsWith "/" then directory ++ path
  else directory ++ "/" ++ path

end ChainConformance.Path
