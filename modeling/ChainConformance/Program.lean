import ChainConformance.Call
import ChainConformance.RunFault

/-!
# Programs

Programs outside that are run to their end: what they are given, and what they print.
-/

namespace ChainConformance

structure ProgramRun where
  program : String
  arguments : List String
  input : String := ""

structure ProgramOutput where
  code : Nat
  stdout : String
  stderr : String
  deriving Repr, DecidableEq

namespace ProgramOutput

def isSuccess (o : ProgramOutput) : Bool := o.code == 0

def status (o : ProgramOutput) : String := "exit status: " ++ toString o.code

def fault (program : String) (o : ProgramOutput) : RunFault :=
  .tool program o.status (Text.trim o.stderr)

end ProgramOutput

/-- Something that runs programs. A program that cannot be started is a fault of its file. -/
abbrev Shell (ω : Type) := ProgramRun → Call ω (Except Files.Fault ProgramOutput)

end ChainConformance
