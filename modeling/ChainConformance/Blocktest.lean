import ChainConformance.Json.Forms
import ChainConformance.Pattern.Match
import ChainConformance.Pattern.Syntax
import ChainConformance.Program
import ChainConformance.Text.Duration
import ChainConformance.Verdict

/-!
# Block tests of clients

Some clients have a command of their own that runs all fixtures of a file. It prints a
report, a JSON array with an entry for each fixture, which may stand among the lines of a
log.
-/

namespace ChainConformance

structure BlocktestOutcome where
  name : String
  pass : Bool
  fork : Option String
  error : Option String
  deriving Repr, DecidableEq

namespace BlocktestOutcome

open Json FieldReader in
def ofJson (j : Json) : Json.Read BlocktestOutcome :=
  readRecord (mk <$> required "name" readText
    <*> required "pass" readBool
    <*> optional "fork" readText
    <*> optional "error" readText) j

/-- What the wording of a client says of the kind of a failure. The first pattern that is
found counts. -/
def patterns : List (String × FailureKind) := [
  ("(?i)genesis", .setupError),
  ("(?i)post state (root )?mismatch|state root mismatch|post-state", .stateMismatch),
  ("(?i)last ?block ?hash|head (block )?mismatch", .headMismatch),
  ("(?i)expected (block )?(import )?(failure|to fail|invalid)|should have failed|" ++
    "imported successfully", .unexpectedAcceptance),
  ("(?i)\\brlp\\b|decode", .decodeError none)]

def isFound (pattern text : String) : Bool := (Pattern.ofText? pattern).any (·.isMatch text)

def failureKind (message : String) : FailureKind :=
  ((patterns.find? fun p => isFound p.1 message).map (·.2)).getD .unexpectedRejection

def verdict (o : BlocktestOutcome) : Verdict :=
  if o.pass then .pass
  else
    let message := o.error.getD ""
    .fail { kind := failureKind message, message := some message }

end BlocktestOutcome

instance : Json.Readable BlocktestOutcome := ⟨BlocktestOutcome.ofJson⟩

namespace Blocktest

/-- Drops the end of a text after the last closing bracket. -/
def upToLastBracket (cs : List Char) : List Char :=
  (cs.reverse.dropWhile (· ≠ ']')).reverse

def reportAt? (cs : List Char) : Option (List BlocktestOutcome) :=
  (Json.readDocument (Json.readList BlocktestOutcome.ofJson) (String.ofList cs)).toOption

/-- The entries of the first report that begins with an opening bracket and goes on to the
end of the text. -/
def firstReport? : List Char → Option (List BlocktestOutcome)
  | [] => none
  | c :: rest =>
    if c = '[' then (reportAt? (c :: rest)).orElse fun _ => firstReport? rest
    else firstReport? rest

/-- The entries of the report in what a client printed: a JSON array that ends with the last
closing bracket of all. -/
def outcomes? (stdout : String) : Option (List BlocktestOutcome) :=
  firstReport? (upToLastBracket stdout.toList)

/-- The verdicts by the names of the fixtures. Of several entries with one name the last
one counts. -/
def verdicts (outcomes : List BlocktestOutcome) : OrderedMap String Verdict :=
  OrderedMap.ofList (outcomes.map fun o => (o.name, o.verdict))

/-- The command of a client, and how long it may take over a file. -/
structure Command where
  path : String
  timeout : Nat

def Command.report (c : Command) (o : ProgramOutput) :
    FaultOr (OrderedMap String Verdict) :=
  match outcomes? o.stdout with
  | some outcomes => .ok (verdicts outcomes)
  | none => .error (o.fault c.path)

def Command.runFile {ω : Type} (c : Command) (shell : Shell ω) (file : String)
    (m : Moment ω) : FaultOr (OrderedMap String Verdict) × Moment ω :=
  match m.within c.timeout (shell { program := c.path, arguments := ["blocktest", file] }) with
  | (.done (.ok output), after) => (c.report output, after)
  | (.done (.error why), after) => (.error (.ofFile c.path why), after)
  | (_, after) =>
    (.error (.other (c.path ++ " timed out after " ++ Text.durationText c.timeout)), after)

end Blocktest

end ChainConformance
