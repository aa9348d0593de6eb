import DynamicDns.Ip

/-!
# URLs

A URL is kept in its normal form: the parts are already percent-encoded, and a port is there only if
it is not the usual one of the scheme.
-/

namespace DynamicDns

/-- Who is addressed. -/
inductive Host where
  | domain (name : String)
  | v4 (a b c d : UInt8)
  | v6 (groups : List UInt16)
  deriving DecidableEq

def Host.text : Host → String
  | .domain name => name
  | .v4 a b c d => IpAddress.dotted a b c d
  | .v6 groups => "[" ++ IpAddress.groupText groups ++ "]"

/-- The part of a URL behind the two slashes. -/
structure Authority where
  username : String
  password : Option String
  host : Host
  port : Option Nat
  deriving DecidableEq

def Authority.text (authority : Authority) : String :=
  let password := match authority.password with
    | none => ""
    | some password => ":" ++ password
  let user := authority.username ++ password
  let port := match authority.port with
    | none => ""
    | some port => ":" ++ toString port
  (if user = "" then "" else user ++ "@") ++ authority.host.text ++ port

structure Url where
  scheme : String
  authority : Option Authority
  path : String
  query : Option String
  fragment : Option String
  deriving DecidableEq

namespace Url

/-- The path and query, as a request line names them. -/
def target (url : Url) : String :=
  url.path ++ (match url.query with
    | none => ""
    | some query => "?" ++ query)

/-- The text of a URL. A path that begins with two slashes is kept apart from the scheme. -/
def text (url : Url) : String :=
  let front := match url.authority with
    | some authority => "//" ++ authority.text
    | none => if url.path.startsWith "//" then "/." else ""
  let fragment := match url.fragment with
    | none => ""
    | some fragment => "#" ++ fragment
  url.scheme ++ ":" ++ front ++ url.target ++ fragment

def isHttp (url : Url) : Bool := url.scheme == "http" || url.scheme == "https"

def withParameter (url : Url) (name value : String) : Url :=
  let parameter := Percent.formEncode name ++ "=" ++ Percent.formEncode value
  let query := url.query.getD ""
  { url with query := some (if query = "" then parameter else query ++ "&" ++ parameter) }

end Url

end DynamicDns
