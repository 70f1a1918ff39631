import ChainConformance.Exception.Bundled

/-!
# Settings

What a run is told by variables: where its fixtures are, by which way they reach a client,
with which tools, how long a call may take and how strictly rejections are judged.
-/

namespace ChainConformance

/-- The way by which fixtures reach a client: block by block through a transition tool, as
whole files through the client's own command, or over the engine interface. -/
inductive ConsumeMode where
  | transition
  | blocktest
  | engine
  deriving Repr, DecidableEq

namespace ConsumeMode

def name : ConsumeMode → String
  | transition => "transition"
  | blocktest => "blocktest"
  | engine => "engine"

def ofName? (s : String) : Option ConsumeMode :=
  [transition, blocktest, engine].find? (·.name == s)

end ConsumeMode

inductive SettingsFault where
  | noFixtures
  | badMode
  | badNumber (name : String)
  | unknownPolicy (name : String)
  | noBlocktest
  | noSimulator
  | badMapper (path : String) (why : FixtureFault)
  deriving Repr, DecidableEq

def SettingsFault.message : SettingsFault → String
  | noFixtures => "Missing FIXTURES_PATH"
  | badMode => "invalid CONSUME_MODE, expected transition, blocktest or engine"
  | badNumber v => "invalid " ++ v
  | unknownPolicy name => (Malformation.unknownPolicy name).display
  | noBlocktest => "BLOCKTEST_BIN is required in blocktest mode"
  | noSimulator => "HIVE_SIMULATOR is required in engine mode"
  | badMapper path _ => "could not load mapper rules from " ++ path

/-- The settings of a run. Times are in seconds. -/
structure Settings where
  fixturesPath : String
  mode : ConsumeMode
  clientId : String
  transitionTool : String
  transitionArguments : List String
  blocktestTool : Option String
  hiveSimulator : Option String
  hiveClient : Option String
  blockTimeout : Nat
  syncingTimeout : Nat
  /-- How many fixtures run side by side, if it is said. -/
  workers : Option Nat
  policy : MatchPolicy
  mapperFile : Option String
  skipFile : Option String

namespace Settings

def words (s : String) : List String :=
  let (word, done) := s.toList.foldr
    (fun c (word, done) =>
      if Text.isBlank c then ([], if word.isEmpty then done else String.ofList word :: done)
      else (c :: word, done))
    (([] : List Char), ([] : List String))
  if word.isEmpty then done else String.ofList word :: done

def number? (s : String) : Option Nat :=
  match Text.readInteger .natural64 10 (Text.trim s).toList with
  | .ok n => some n.toNat
  | .error _ => none

def seconds (value : Option String) (name : String) (d : Nat) :
    Except SettingsFault Nat :=
  match value with
  | none => .ok d
  | some s => match number? s with
    | some n => .ok n
    | none => .error (.badNumber name)

/-- Reads the settings from variables. A blank variable counts as one that is not set. -/
def ofVariables (look : String → Option String) : Except SettingsFault Settings := do
  let get (name : String) : Option String := (look name).filter fun s => !Text.isBlankText s
  let some fixturesPath := get "FIXTURES_PATH" | throw .noFixtures
  let mode ← match get "CONSUME_MODE" with
    | none => pure ConsumeMode.transition
    | some s => match ConsumeMode.ofName? (Text.trim s) with
      | some m => pure m
      | none => throw .badMode
  let workers ← match get "WORKERS" with
    | none => pure none
    | some s => match number? s with
      | some n => pure (some (max n 1))
      | none => throw (.badNumber "WORKERS")
  let policy ← match get "EXCEPTION_MATCHING" with
    | none => pure MatchPolicy.strict
    | some s => (MatchPolicy.ofText s).mapError .unknownPolicy
  let blockTimeout ← seconds (get "BLOCK_TIMEOUT_SECS") "BLOCK_TIMEOUT_SECS" 60
  let syncingTimeout ← seconds (get "SYNCING_TIMEOUT_SECS") "SYNCING_TIMEOUT_SECS" 10
  let blocktestTool := get "BLOCKTEST_BIN"
  let hiveSimulator := get "HIVE_SIMULATOR"
  if mode = .blocktest ∧ blocktestTool.isNone then throw .noBlocktest
  if mode = .engine ∧ hiveSimulator.isNone then throw .noSimulator
  return {
    fixturesPath, mode, workers, policy, blockTimeout, syncingTimeout, blocktestTool,
    hiveSimulator
    clientId := (get "CLIENT_ID").getD "geth"
    transitionTool := (get "T8N_BIN").getD "evm"
    transitionArguments := words ((get "T8N_SUBCOMMAND").getD "t8n")
    hiveClient := get "HIVE_CLIENT"
    mapperFile := get "EXCEPTION_MAPPERS"
    skipFile := get "SKIP_FILE" }

def hiveName (s : Settings) : String := s.hiveClient.getD s.clientId

def mapper (s : Settings) (files : Files) : Except SettingsFault ExceptionMapper :=
  match s.mapperFile with
  | none => .ok .bundled
  | some path => match ExceptionMapper.load files path with
    | .ok extra => .ok (ExceptionMapper.bundled.merged extra)
    | .error why => .error (.badMapper path why)

end Settings

end ChainConformance
