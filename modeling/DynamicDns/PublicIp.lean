import DynamicDns.Http

/-!
# Discovery of the public IP

The public address is asked of services that answer with it as plain text. A preferred service comes
first, the built-in ones follow in an order that is shuffled each time, and the first answer that is
an address ends the search. A preferred service that is not a URL is left aside.
-/

namespace DynamicDns.PublicIp

/-- The services that are asked unless others are given. -/
def builtIn : List String :=
  ["https://icanhazip.com", "https://api.ipify.org", "https://4.ident.me/",
    "https://api.seeip.org", "http://www.trackip.net/ip", "http://ifconfig.me"]

/-- The preferred service, if it says something besides blanks. -/
def preferredUrl? (preferred : Option String) : Option String :=
  (preferred.map trimBlanks).filter (· ≠ "")

/-- The services of the pool that are asked besides the preferred one. -/
def fallbacks (preferred : Option String) (pool : List String) : List String :=
  pool.filter fun url => url ≠ "" ∧ some url ≠ preferredUrl? preferred

def attemptOrder (shuffle : List String → List String) (preferred : Option String)
    (pool : List String) : List String :=
  (preferredUrl? preferred).toList ++ shuffle (fallbacks preferred pool)

/-! ### The search

Which texts are URLs, and of what, is up to a reader that is handed in. -/

section

variable (read : String → Except Url.Fault Url)

def fetch (service : String) : ExceptT DiscoveryError Http.Exchange String := do
  let asked : ExceptT HttpPhase Http.Exchange Http.Response := do
    match read service with
    | .ok url => Http.send ⟨.get, url, [], none⟩
    | .error _ => throw .builder
  match ← asked.run with
  | .error _ => throw (.request service)
  | .ok response =>
    if !response.isSuccess then throw (.unexpectedStatus service response.status)
    match response.text? with
    | none => throw (.request service)
    | some body =>
      match IpAddress.parse? (trimBlanks body) with
      | some address => return address.text
      | none => throw (.invalidResponse service (trimBlanks body))

/-- Asks one service after the other until one answers. -/
def firstAnswer : List String → ExceptT DiscoveryError Http.Exchange String
  | [] => throw .exhausted
  | service :: rest => tryCatch (fetch read service) fun _ => firstAnswer rest

/-- A preferred service, unless it is not a URL. -/
def usable (preferred : Option String) : Option String :=
  preferred.filter fun url => (read (trimBlanks url)).isOk

def search (shuffle : List String → List String) (pool : List String)
    (preferred : Option String) : ExceptT DiscoveryError Http.Exchange String :=
  firstAnswer read (attemptOrder shuffle (usable read preferred) pool)

end

/-- The search as the operator makes it. -/
def discover (shuffle : List String → List String) (pool : List String)
    (preferred : Option String) : ExceptT DiscoveryError Http.Exchange String :=
  search Url.parse shuffle pool preferred

end DynamicDns.PublicIp
