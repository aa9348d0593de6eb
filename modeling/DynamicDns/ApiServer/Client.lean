import DynamicDns.ApiServer.Objects
import DynamicDns.Http

/-!
# The API server

The requests by which a pass reads and patches objects. Every patch is a merge patch, so that those
who write one object touch only what they own, and a patch is done only if the server gives the
object back. A resource that is not there is no failure; a secret or a config map that is not there
is one.
-/

namespace DynamicDns

/-- An API server, and the namespace that the operator is confined to. -/
structure ApiServer where
  base : Url
  scope : Option String

namespace ApiServer

variable {α : Type}

abbrev Asking := ExceptT ApiError Http.Exchange

/-! ### Paths -/

def builtInPath (plural ns : String) : String := "/api/v1/" ++ namespacePath (some ns) ++ plural

/-! ### Requests -/

def mergePatchType : String := "application/merge-patch+json"

/-- What a response with the status of a failure says. -/
def refusal (status : Nat) (octets : List UInt8) : ApiError :=
  match (Refusal.shape.read octets).toOption.bind Refusal.decode? with
  | some refusal => .refused refusal.code refusal.reason refusal.message
  | none => .refused status "Failed to parse error data" (Utf8.decode octets)

def object [Wired α] (octets : List UInt8) : Except ApiError α :=
  match (Wired.shape α).read octets with
  | .error fault => throw (.malformed (fault.text octets))
  | .ok value =>
    match Codec.decode? value with
    | some object => return object
    | none => throw (.malformed (Json.Fault.text octets ⟨.wrongValue, octets.length⟩))

/-- Sends a request and reads the object that comes back. -/
def request [Wired α] (server : ApiServer) (path : String) (patch : Option Json) : Asking α := do
  let method : Http.Method := if patch.isSome then .patch else .get
  let headers := if patch.isSome then [("content-type", mergePatchType)] else []
  let url := { server.base with path := path, query := none, fragment := none }
  match ← (Http.send ⟨method, url, headers, patch⟩).run with
  | .error phase => throw (.unreachable phase)
  | .ok response =>
    match response.body with
    | none => throw (.unreachable .decode)
    | some octets =>
      if 400 ≤ response.status then throw (refusal response.status octets)
      else liftM (m := Except ApiError) (object octets)

/-- The path of an object, or of a part of it. Without a name there is none. -/
def pathOf (collection name part : String) : Asking String :=
  if name = "" then throw .unnamed else return collection ++ "/" ++ name ++ part

def within (doing : String) : Except ApiError α → Except Failure α
  | .ok value => .ok value
  | .error e => .error ((Failure.bare (.api e)).within doing)

/-! ### Reading -/

/-- Reads an object of a resource kind. It is missing when that is the reason given, whatever the
code says. -/
def find [Wired α] (server : ApiServer) (kind : Kind) (key : ObjectKey) :
    Http.Exchange (Except Failure (Option α)) := do
  let asked : Asking α := do
    server.request (← pathOf (kind.path (some key.ns)) key.name "") none
  match ← asked.run with
  | .ok object => return .ok (some object)
  | .error (.refused _ "NotFound" _) => return .ok none
  | .error e =>
    return within ("failed to get " ++ kind.name ++ " " ++ key.path) (.error e)

def getProvider (server : ApiServer) (key : ObjectKey) :
    Http.Exchange (Except Failure (Option Provider)) := server.find .provider key

def getNotifier (server : ApiServer) (key : ObjectKey) :
    Http.Exchange (Except Failure (Option Notifier)) := server.find .notifier key

def listProviders (server : ApiServer) : Http.Exchange (Except Failure (List Provider)) := do
  let asked : Asking (ObjectList Provider) :=
    server.request (Kind.provider.path server.scope) none
  return within "failed to list Providers" ((← asked.run).map ObjectList.items)

def lookUp [Wired α] (server : ApiServer) (kind plural : String) (key : ObjectKey) :
    Http.Exchange (Except LookupError α) := do
  let asked : Asking α := do
    server.request (← pathOf (builtInPath plural key.ns) key.name "") none
  return (← asked.run).mapError (LookupError.ofApi kind key.name)

def getSecret (server : ApiServer) (key : ObjectKey) :
    Http.Exchange (Except LookupError Secret) := server.lookUp "Secret" "secrets" key

def getConfigMap (server : ApiServer) (key : ObjectKey) :
    Http.Exchange (Except LookupError ConfigMap) := server.lookUp "ConfigMap" "configmaps" key

/-! ### Patching -/

/-- Patches an object of a resource kind, or a part of it. -/
def patch (server : ApiServer) (kind : Kind) (key : ObjectKey) (part : String) (change : Json) :
    Http.Exchange (Except Failure Unit) := do
  let asked : Asking Unit := do
    let path ← pathOf (kind.path (some key.ns)) key.name part
    match kind with
    | .provider => let _ : Provider ← server.request path (some change)
    | .notifier => let _ : Notifier ← server.request path (some change)
  return (← asked.run).mapError fun e => Failure.bare (.api e)

def patchStatus (server : ApiServer) (kind : Kind) (key : ObjectKey) (change : Json) :
    Http.Exchange (Except Failure Unit) := server.patch kind key "/status" change

def patchProvider (server : ApiServer) (key : ObjectKey) (change : Json) :
    Http.Exchange (Except Failure Unit) := server.patch .provider key "" change

end ApiServer

end DynamicDns
