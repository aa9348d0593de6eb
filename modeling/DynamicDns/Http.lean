import DynamicDns.Failure
import DynamicDns.Json.Printer
import DynamicDns.Json.Shape
import DynamicDns.Program
import DynamicDns.Url.Parser

/-!
# Exchanges over HTTP

A client sends one request after the other and sees each response, or that there was none. A
response is what the HTTP library returns once it has followed redirects, and it may break off before
its body is complete. Only URLs of the schemes `http` and `https` can be asked; anything else fails
before it is sent.
-/

namespace DynamicDns

namespace Http

inductive Method where
  | get
  | post
  | patch
  deriving DecidableEq

def Method.text : Method → String
  | .get => "GET"
  | .post => "POST"
  | .patch => "PATCH"

structure Request where
  method : Method
  url : Url
  headers : List (String × String)
  body : Option Json

/-- A response; without a body it broke off. -/
structure Response where
  status : Nat
  body : Option (List UInt8)

namespace Response

def isSuccess (response : Response) : Bool := 200 ≤ response.status && response.status < 300

/-- Whether responses with a status come without a body. -/
def isBodiless (status : Nat) : Bool := status == 204 || status == 304

/-- The body as text, with U+FFFD for what is not UTF-8. -/
def text? (response : Response) : Option String := response.body.map Utf8.decode

def json? (response : Response) (shape : Json.Shape) : Option Json :=
  response.body.bind fun octets => (shape.read octets).toOption

end Response

abbrev Exchange := Program Request fun _ => Option Response

/-- Sends a request, unless its URL cannot be asked. -/
def send (request : Request) : ExceptT HttpPhase Exchange Response := do
  if !request.url.isHttp then throw .builder
  match ← (Program.ask request : Exchange (Option Response)) with
  | none => throw .request
  | some response => return response

/-- The URL that a text is; any fault shows before anything is sent. -/
def url (text : String) : ExceptT HttpPhase Exchange Url :=
  match Url.parse text with
  | .ok url => return url
  | .error _ => throw .builder

/-! ### Scripted servers -/

/-- A server that answers with prepared responses, whatever it is asked, and keeps a log. -/
structure Script where
  responses : List (Option Response)
  log : List Request

/-- Answers from a script as far as a URL reaches its server; what lies elsewhere is not there. A
response that is missing, or prepared to be none, is still asked for. -/
def Script.answer (reaches : Url → Bool) (request : Request) (script : Script) :
    Option Response × Script :=
  if reaches request.url then
    match script.responses with
    | [] => (none, { script with log := script.log ++ [request] })
    | response :: rest => (response, ⟨rest, script.log ++ [request]⟩)
  else (none, script)

def Script.play {α : Type} (reaches : Url → Bool) (exchange : Exchange α)
    (responses : List (Option Response)) : α × Script :=
  exchange.run (Script.answer reaches) ⟨responses, []⟩

end Http

end DynamicDns
