import ChainConformance.Relay

/-!
# The command

The first line that it reads says what the run is made with. It prints one errand a line,
and reads the answer to each from a line of its own. At its end it prints what failed and
how many fixtures passed, failed and were skipped; it exits with one if any failed.
-/

namespace ChainConformance

def readLine {α : Type} (read : Json → Json.Read α) : IO (Json.Read α) := do
  return Json.readDocument read (← (← IO.getStdin).getLine)

partial def RelayedRun.serve (r : RelayedRun) (answers : List Json) : IO UInt32 := do
  match r.progress answers with
  | .ends lines isPass =>
    lines.forM IO.println
    return if isPass then 0 else 1
  | .asks errand =>
    IO.println errand.toJson.toCompact
    (← IO.getStdout).flush
    match ← readLine .ok with
    | .ok answer => r.serve (answers ++ [answer])
    | .error _ => return 1

end ChainConformance

def main : IO UInt32 := do
  match ← ChainConformance.readLine ChainConformance.RelayedRun.ofJson with
  | .ok run => run.serve []
  | .error why =>
    IO.println (ChainConformance.RunFault.ofJson why).message
    return 1
