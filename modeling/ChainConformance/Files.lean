import ChainConformance.Bytes
import ChainConformance.Path

/-!
# Files

The files of a directory tree by their paths, and reading them as text.
-/

namespace ChainConformance

abbrev Files := OrderedMap String Bytes

namespace Files

/-- Why a file gives no text. -/
inductive Fault where
  | notFound
  | notText
  deriving Repr, DecidableEq

def Fault.message : Fault → String
  | notFound => "No such file or directory (os error 2)"
  | notText => "stream did not contain valid UTF-8"

/-- The contents of the file that a path leads to, however the path is written. -/
def content? (files : Files) (path : String) : Option Bytes :=
  (files.entries.find? fun e => Path.steps e.1 = Path.steps path).map (·.2)

def readText (files : Files) (path : String) : Except Fault String :=
  match files.content? path with
  | none => .error .notFound
  | some bs => match textOfBytes? bs with
    | some s => .ok s
    | none => .error .notText

end Files

end ChainConformance
