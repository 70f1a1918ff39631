import ChainConformance.Hive
import ChainConformance.Settings
import ChainConformance.Suite.Blocktest
import ChainConformance.Suite.Engine
import ChainConformance.Suite.Transition
import ChainConformance.Transition.Program

/-!
# Runs of suites

A suite is run as its settings say: through a transition tool, through a client's own
command, or over the engine interface of clients that hive starts.
-/

namespace ChainConformance

/-- Why a suite gives no results. -/
inductive SuiteFault where
  | settings (why : SettingsFault)
  | filter
  | call (why : RunFault)
  deriving Repr, DecidableEq

def SuiteFault.message : SuiteFault → String
  | settings why => why.message
  | filter => "could not load the filter of skipped fixtures"
  | call why => why.message

/-- What is outside of a run: the files, the programs, and the servers. -/
structure Outside (ω : Type) where
  files : Files
  shell : Shell ω
  web : Web ω

namespace Settings

variable {ω : Type}

def terms (s : Settings) (files : Files) (cancelAt : Option Nat) :
    Except SettingsFault Terms := do
  return {
    mapper := ← s.mapper files
    client := s.clientId
    policy := s.policy
    callTimeout := 1000 * s.blockTimeout
    syncTimeout := 1000 * s.syncingTimeout
    cancelAt := cancelAt }

/-- The filter of the settings, which leaves out nothing if there is none. -/
def filter (s : Settings) (files : Files) : Except SuiteFault SkipFilter :=
  match s.skipFile with
  | none => .ok .none
  | some path =>
    match (files.readText path).toOption.bind SkipFilter.ofYaml with
    | some f => .ok f
    | none => .error .filter

def call {α : Type} (c : Call ω (FaultOr α)) :
    ExceptT SuiteFault (StateM (Moment ω)) α := do
  match ← modifyGet fun m => m.unguarded c with
  | some (.ok a) => return a
  | some (.error e) => throw (.call e)
  | none => throw (.call (.other "no answer"))

def runEngine (s : Settings) (outside : Outside ω) (terms : Terms) (cases : Cases)
    (simulator : String) : ExceptT SuiteFault (StateM (Moment ω)) (List CaseResult) := do
  let suite ← call (Hive.Suite.start outside.web simulator
    ("consume-engine-" ++ s.clientId) s.hiveName)
  let results ← liftM (EngineSuite.run terms (suite.launcher outside.web) outside.files
    s.fixturesPath cases)
  call (suite.finish outside.web)
  return results

def runCases (s : Settings) (outside : Outside ω) (terms : Terms) (cases : Cases) :
    ExceptT SuiteFault (StateM (Moment ω)) (List CaseResult) :=
  match s.mode with
  | .transition => liftM (TransitionSuite.run terms
      (TransitionProgram.tool ⟨s.transitionTool, s.transitionArguments⟩ outside.shell)
      outside.files s.fixturesPath cases)
  | .blocktest =>
    match s.blocktestTool with
    | none => throw (.settings .noBlocktest)
    | some path => liftM (BlocktestSuite.run terms ⟨path, 1000 * s.blockTimeout⟩
        outside.shell cases)
  | .engine =>
    match s.hiveSimulator with
    | none => throw (.settings .noSimulator)
    | some simulator => s.runEngine outside terms cases simulator

def runSuite (s : Settings) (outside : Outside ω) (cancelAt : Option Nat) :
    ExceptT SuiteFault (StateM (Moment ω)) (List CaseResult) := do
  let filter ← liftM (s.filter outside.files)
  let terms ← liftM ((s.terms outside.files cancelAt).mapError SuiteFault.settings)
  s.runCases outside terms (Cases.ofRoot outside.files filter s.fixturesPath)

end Settings

end ChainConformance
