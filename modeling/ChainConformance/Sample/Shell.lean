import ChainConformance.OrderedMap
import ChainConformance.Program

/-!
# Scripted programs

Programs whose outputs are given beforehand, and a log of how they were run.
-/

namespace ChainConformance

/-- Two programs that print what is given: one prints its outputs in turn, the last one over
and over, and one prints the report on the file that its last argument names. All others
are missing. The log has the last run first. -/
structure ScriptedShell where
  tool : String
  outputs : List ProgramOutput := []
  reporter : String
  reports : OrderedMap String ProgramOutput := .empty
  hangs : Bool := false
  runs : List ProgramRun := []

namespace ScriptedShell

def silence : ProgramOutput := ⟨0, "", ""⟩

/-- What the reporter prints of a file of which nothing is known: an empty report. -/
def emptyReport : ProgramOutput := ⟨0, "[]", ""⟩

def run (r : ProgramRun) (s : ScriptedShell) :
    Except Files.Fault ProgramOutput × ScriptedShell :=
  if r.program = s.tool then
    (.ok (s.outputs.headD silence), { s with
      runs := r :: s.runs
      outputs := if s.outputs.length ≤ 1 then s.outputs else s.outputs.tail })
  else if r.program = s.reporter then
    (.ok ((s.reports.get? (r.arguments.getLastD "")).getD emptyReport), s)
  else (.error .notFound, s)

def shell : Shell ScriptedShell := fun r => do
  let s ← Call.look
  if s.hangs && (r.program == s.tool || r.program == s.reporter) then Call.never
  else Call.instantly (run r)

end ScriptedShell

end ChainConformance
