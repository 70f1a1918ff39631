import ChainConformance.Suite.Run

/-!
# Relayed runs

A run whose files are known beforehand, and whose programs and servers are reached through
a relay. The run is made on a tape of what the relay has answered. Where the tape ends the
run stops short, at the errand that it has no answer to; with that answer added to the tape
it is made again from its start, and comes further.
-/

namespace ChainConformance

/-- What a relay is sent for. -/
inductive Errand where
  | run (program : ProgramRun)
  | send (request : HttpRequest)
  | tellTime

namespace Errand

open Json

def partJson (p : FormPart) : Json :=
  objectOf [("name", some (text p.name)), ("fileName", p.fileName.map text),
    ("mediaType", p.mediaType.map text), ("content", some (text p.content))]

def bodyJson? : HttpBody → Option Json
  | .none => Option.none
  | .json j => some (objectOf [("json", some j)])
  | .form parts => some (objectOf [("form", some (ofList partJson parts))])

def toJson : Errand → Json
  | run p => objectOf [("run", some (objectOf [
      ("program", some (text p.program)),
      ("arguments", some (ofList text p.arguments)),
      ("input", some (text p.input))]))]
  | send r => objectOf [("send", some (objectOf [
      ("verb", some (text r.verb)), ("url", some (text r.url)),
      ("token", r.token.map text), ("body", bodyJson? r.body)]))]
  | tellTime => text "tellTime"

end Errand

/-- A relay: its answers that are still to be read, and the first errand without one. -/
structure Relay where
  answers : List Json := []
  unanswered : Option Errand := none

namespace Relay

open Json FieldReader

/-- Sends the relay on an errand. An answer comes after the time that it says it took; one
that cannot be read never comes. -/
def ask {α : Type} (e : Errand) (read : FieldReader α) : Call Relay α := fun limit r =>
  match r.answers with
  | [] => Call.never limit { r with unanswered := r.unanswered.or (some e) }
  | j :: rest =>
    let answer : Call Relay α :=
      match readRecord (Prod.mk <$> defaulted "elapsed" 0 readNatural <*> read) j with
      | .ok (time, a) => do
        Call.wait time
        return a
      | .error _ => Call.never
    answer limit { r with answers := rest }

def programOutput : FieldReader (Except Files.Fault ProgramOutput) :=
  (fun isMissing code stdout stderr =>
      if isMissing then .error .notFound else .ok ⟨code, stdout, stderr⟩)
    <$> defaulted "missing" false readBool
    <*> defaulted "code" 0 readNatural
    <*> defaulted "stdout" "" readText
    <*> defaulted "stderr" "" readText

def response : FieldReader (Except String HttpResponse) :=
  (fun error status body =>
      match error with
      | some why => .error why
      | none => .ok ⟨status, body⟩)
    <$> optional "error" readText
    <*> defaulted "status" 200 readNatural
    <*> defaulted "body" "" readText

def shell : Shell Relay := fun r => ask (.run r) programOutput

def web : Web Relay where
  send r := ask (.send r) response
  clock := ask .tellTime (UInt64.ofNat <$> required "seconds" readNatural)

end Relay

/-- What a relayed run is made with: the environment that holds its settings, and its files. -/
structure RelayedRun where
  environment : OrderedMap String String
  files : Files

/-- How far a relayed run comes: to an errand without an answer, or to its end with what is
to be said of it, and whether no fixture failed. -/
inductive RelayedRun.Progress where
  | asks (errand : Errand)
  | ends (lines : List String) (isPass : Bool)

namespace RelayedRun

open Json FieldReader

def ofJson (j : Json) : Json.Read RelayedRun :=
  readRecord (mk <$> required "environment" (readMap .ok readText)
    <*> required "files" (readMap .ok fun f => (readText f).map bytesOfText)) j

def reported (results : List CaseResult) : Progress :=
  let tally := Tally.ofResults results
  .ends (results.filterMap (·.complaint?) ++ [tally.display]) (tally.failed == 0)

/-- Makes a run on the answers that are known. -/
def progress (r : RelayedRun) (answers : List Json) : Progress :=
  match Settings.ofVariables r.environment.get? with
  | .error why => .ends [why.message] false
  | .ok settings =>
    let (results, after) :=
      (settings.runSuite ⟨r.files, Relay.shell, Relay.web⟩ none).run.run ⟨0, { answers }⟩
    match after.state.unanswered, results with
    | some errand, _ => .asks errand
    | none, .ok results => reported results
    | none, .error why => .ends [why.message] false

end RelayedRun

end ChainConformance
