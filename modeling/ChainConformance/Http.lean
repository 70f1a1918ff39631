import ChainConformance.Call
import ChainConformance.RunFault
import ChainConformance.Json.Printer

/-!
# Requests over HTTP

What is sent to a server, what it answers, and the faults that come of it.
-/

namespace ChainConformance

structure FormPart where
  name : String
  fileName : Option String := none
  mediaType : Option String := none
  content : String

inductive HttpBody where
  | none
  | json (j : Json)
  | form (parts : List FormPart)

structure HttpRequest where
  verb : String
  url : String
  body : HttpBody := .none
  token : Option String := none

structure HttpResponse where
  status : Nat
  body : String
  deriving Repr, DecidableEq

/-- The way to servers: a request is answered, or it fails with an error in words. The clock
tells the time in seconds. -/
structure Web (ω : Type) where
  send : HttpRequest → Call ω (Except String HttpResponse)
  clock : Call ω UInt64

namespace Http

def refused (r : HttpRequest) (status : Nat) : RunFault :=
  .transport ("HTTP status error (" ++ toString status ++ ") for url (" ++ r.url ++ ")")

def accepted (r : HttpRequest) : Except String HttpResponse → FaultOr String
  | .error text => .error (.transport text)
  | .ok response =>
    if 400 ≤ response.status then .error (refused r response.status) else .ok response.body

def readBody {α : Type} (f : Json → Json.Read α) (body : String) : FaultOr α :=
  (Json.readDocument f body).mapError fun e =>
    .transport ("error decoding response body: " ++ (RunFault.ofJson e).message)

variable {ω : Type}

def send (web : Web ω) (r : HttpRequest) : Call ω (FaultOr String) := do
  return accepted r (← web.send r)

def fetch {α : Type} (web : Web ω) (r : HttpRequest) (f : Json → Json.Read α) :
    Call ω (FaultOr α) := do
  return (← send web r) >>= readBody f

end Http

end ChainConformance
