import DynamicDns.Text.Quoted

/-!
# Failures

Each collaborator of a pass fails in its own way, and each way has one text. A failed pass carries
the cause together with what was being done, outermost first; the whole is written as one line, in
which a cause that stands for a deeper one shows the deeper text as well.
-/

namespace DynamicDns

/-- Where an exchange over HTTP broke off: before anything was sent, on the way, or because the
answer was not what it had to be. -/
inductive HttpPhase where
  | builder
  | request
  | decode
  deriving DecidableEq

def HttpPhase.text : HttpPhase → String
  | .builder => "builder error"
  | .request => "error sending request"
  | .decode => "error decoding response body"

/-- Failures of a DNS client, in being built or in use. -/
inductive ClientError where
  | unsupportedKind (name : String)
  | missingConfig (key : String)
  | missingSecretKey (key : String)
  | invalidConfig (fault : String)
  | invalidToken
  | api (status : Nat) (message : String)
  | zoneNotFound (zone : String)
  | recordNotFound (zone : String)
  | noZoneResolved
  | http (phase : HttpPhase)
  deriving DecidableEq

def ClientError.text : ClientError → String
  | .unsupportedKind name => "could not create a provider of type: " ++ name
  | .missingConfig key => "`" ++ key ++ "` not found in configMap"
  | .missingSecretKey key => "`" ++ key ++ "` not found in secret"
  | .invalidConfig fault => "could not unmarshal the config: " ++ fault
  | .invalidToken => "API token contains invalid characters"
  | .api status message => "provider API returned status " ++ toString status ++ ": " ++ message
  | .zoneNotFound zone => "zone " ++ zone ++ " not found"
  | .recordNotFound zone => "could not find an A record for zone: " ++ zone
  | .noZoneResolved => "error while trying to get IP from all zones"
  | .http phase => "request to provider API failed: " ++ phase.text

/-- Failures of a notification channel, in being built or in use. -/
inductive ChannelError where
  | unsupportedKind (name : String)
  | missingSecretKey (key : String)
  | invalidUrl (fault : String)
  | rejected (status : Nat) (body : String)
  | http (phase : HttpPhase)
  deriving DecidableEq

def ChannelError.text : ChannelError → String
  | .unsupportedKind name => "could not create a notifier of type: " ++ name
  | .missingSecretKey key => "`" ++ key ++ "` not found in secret"
  | .invalidUrl fault => "invalid webhook url: " ++ fault
  | .rejected status body =>
    "error while trying to send to webhook (" ++ toString status ++ "): " ++ body
  | .http phase => "request to webhook failed: " ++ phase.text

/-- Failures of the discovery of the public IP. -/
inductive DiscoveryError where
  | request (url : String)
  | unexpectedStatus (url : String) (status : Nat)
  | invalidResponse (url : String) (body : String)
  | exhausted
  deriving DecidableEq

def DiscoveryError.text : DiscoveryError → String
  | .request url => "request to " ++ url ++ " failed: " ++ HttpPhase.request.text
  | .unexpectedStatus url status => url ++ " returned status " ++ toString status
  | .invalidResponse url body =>
    url ++ " returned an invalid IP address: " ++ Quoted.quote body
  | .exhausted => "could not retrieve a response from any of the providers"

/-- Failures to read an object that a resource depends on. -/
inductive LookupError where
  | notFound (kind name : String)
  | unavailable (kind name message : String)
  deriving DecidableEq

def LookupError.text : LookupError → String
  | .notFound kind name => kind ++ " " ++ name ++ " not found"
  | .unavailable kind name message => "unable to read " ++ kind ++ " " ++ name ++ ": " ++ message

/-- Failures of a request to the API server: it refused the request, with a code, a reason and a
message of its own; it answered with something else than the object; the request could not be built,
for want of a name; nothing came back; or a stream of events had a line without an end. -/
inductive ApiError where
  | refused (code : Nat) (reason message : String)
  | malformed (fault : String)
  | unnamed
  | unreachable (phase : HttpPhase)
  | endlessLine
  deriving DecidableEq

def ApiError.text : ApiError → String
  | .refused _ reason message => "ApiError: " ++ message ++ ": " ++ reason
  | .malformed fault => "Error deserializing response: " ++ fault
  | .unnamed => "Failed to build request: failed to validate request: A non-empty name is required"
  | .unreachable phase => "ServiceError: " ++ phase.text
  | .endlessLine => "Error finding newline character"

/-- What a failed request means for looking up an object: it is missing, or cannot be read for what
the server says. -/
def LookupError.ofApi (kind name : String) : ApiError → LookupError
  | .refused code _ message =>
    if code = 404 then .notFound kind name else .unavailable kind name message
  | error => .unavailable kind name error.text

/-- What a pass can fail of. A store may fail for reasons of its own, which have only a text. -/
inductive Cause where
  | client (error : ClientError)
  | channel (error : ChannelError)
  | discovery (error : DiscoveryError)
  | lookup (error : LookupError)
  | api (error : ApiError)
  | store (message : String)
  deriving DecidableEq

/-- The texts of a cause and of what it stands for, outermost first. -/
def Cause.texts : Cause → List String
  | .client (.invalidConfig fault) => [(ClientError.invalidConfig fault).text, fault]
  | .client error => [error.text]
  | .channel (.invalidUrl fault) => [(ChannelError.invalidUrl fault).text, fault]
  | .channel error => [error.text]
  | .discovery error => [error.text]
  | .lookup error => [error.text]
  | .api error => [error.text]
  | .store message => [message]

/-- A cause and what was being done, outermost first. -/
structure Failure where
  context : List String
  cause : Cause
  deriving DecidableEq

namespace Failure

def bare (cause : Cause) : Failure := ⟨[], cause⟩

def within (failure : Failure) (doing : String) : Failure :=
  { failure with context := doing :: failure.context }

def text (failure : Failure) : String :=
  String.intercalate ": " (failure.context ++ failure.cause.texts)

end Failure

end DynamicDns
