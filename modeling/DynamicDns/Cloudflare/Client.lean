import DynamicDns.Cloudflare.Config
import DynamicDns.Http
import DynamicDns.Resource.DataObject

/-!
# The Cloudflare client

A zone is looked up by name, its A records are listed page by page, and a record is changed by its
identifier. Every response is an envelope; it counts as an answer only if it says that the request
succeeded and carries a result, whatever the HTTP status is.

The address of an account is that of the first configured zone that yields one: the first listed A
record with a configured name. Setting the address changes every listed A record with a configured
name in every configured zone, and stops at the first failure.
-/

namespace DynamicDns.Cloudflare

/-! ### Envelopes -/

/-- An error inside an envelope. -/
structure ApiError where
  code : Int
  message : String

structure Zone where
  id : String
  name : String
  deriving DecidableEq, Inhabited

structure DnsRecord where
  id : String
  type : String
  name : String
  content : String
  deriving DecidableEq, Inhabited

/-- A response of the API. The number of pages is there for lists. -/
structure Envelope (α : Type) where
  success : Bool
  errors : List ApiError
  result : Option α
  totalPages : Option UInt32

namespace ApiError

def leastCode : Int := Int32.minValue.toInt

def greatestCode : Int := Int32.maxValue.toInt

def shape : Json.Shape :=
  .record "CloudflareApiError"
    [("code", .required, .integer leastCode greatestCode), ("message", .required, .text)]

def decode? (value : Json) : Option ApiError := do
  let field ← value.record? ["code", "message"]
  return {
    code := ← (field "code").required (Json.intWithin? leastCode greatestCode)
    message := ← (field "message").required Json.string? }

def text (error : ApiError) : String := toString error.code ++ ": " ++ error.message

end ApiError

namespace Zone

def shape : Json.Shape := .record "Zone" [("id", .required, .text), ("name", .required, .text)]

def decode? (value : Json) : Option Zone := do
  let field ← value.record? ["id", "name"]
  return {
    id := ← (field "id").required Json.string?
    name := ← (field "name").required Json.string? }

end Zone

namespace DnsRecord

def shape : Json.Shape :=
  .record "DnsRecord" [("id", .required, .text), ("type", .required, .text),
    ("name", .required, .text), ("content", .required, .text)]

def decode? (value : Json) : Option DnsRecord := do
  let field ← value.record? ["id", "type", "name", "content"]
  return {
    id := ← (field "id").required Json.string?
    type := ← (field "type").required Json.string?
    name := ← (field "name").required Json.string?
    content := ← (field "content").required Json.string? }

end DnsRecord

/-- How a result is read: its shape, and its value. -/
structure ResultReader (α : Type) where
  shape : Json.Shape
  decode? : Json → Option α

namespace ResultReader

def zones : ResultReader (List Zone) := ⟨.list Zone.shape, Json.list? Zone.decode?⟩

def records : ResultReader (List DnsRecord) := ⟨.list DnsRecord.shape, Json.list? DnsRecord.decode?⟩

def anything : ResultReader Json := ⟨.any, some⟩

end ResultReader

namespace Envelope

variable {α : Type}

def maxPages : Int := UInt32.size - 1

def shape (result : Json.Shape) : Json.Shape :=
  .record "CloudflareResponse"
    [("success", .required, .flag),
      ("errors", .defaulted, .list ApiError.shape),
      ("result", .optional, .nullable result),
      ("result_info", .defaulted,
        .nullable (.record "ResultInfo" [("total_pages", .defaulted, .integer 0 maxPages)]))]

/-- The number of pages in a page description, zero if it is left out. -/
def pages? (value : Json) : Option UInt32 := do
  let field ← value.record? ["total_pages"]
  (field "total_pages").defaulted 0 fun pages =>
    (pages.intWithin? 0 maxPages).map fun n => UInt32.ofNat n.toNat

def decode? (reader : ResultReader α) (value : Json) : Option (Envelope α) := do
  let field ← value.record? ["success", "errors", "result", "result_info"]
  return {
    success := ← (field "success").required Json.bool?
    errors := ← (field "errors").defaulted [] (Json.list? ApiError.decode?)
    result := ← (field "result").optional reader.decode?
    totalPages := ← (field "result_info").optionalDefaulted pages? }

def ofResponse? (reader : ResultReader α) (response : Http.Response) : Option (Envelope α) :=
  (response.json? (shape reader.shape)).bind (decode? reader)

/-- The result and the number of pages, or what the API says is wrong. -/
def answer (envelope : Envelope α) (status : Nat) : Except ClientError (α × Option UInt32) :=
  match envelope.success, envelope.result with
  | true, some result => return (result, envelope.totalPages)
  | _, _ => throw (.api status (String.intercalate ", " (envelope.errors.map ApiError.text)))

end Envelope

/-! ### The client -/

structure Client where
  baseUrl : String
  token : String
  config : Config

/-- What the client does: requests, and failures of its own kind. -/
abbrev Exchanging := ExceptT ClientError Http.Exchange

def publicUrl : String := "https://api.cloudflare.com/client/v4"

/-- The key of a config map that holds the configuration. -/
def configKey : String := "config"

def tokenKey : String := "apiToken"

def managedType : String := "A"

def pageSize : Nat := 100

def isHeaderText (text : String) : Bool :=
  text.toList.all fun c => (32 ≤ c.toNat && c.toNat ≠ 127) || c = '\t'

namespace Client

/-- A client for an account behind a URL, whose trailing slashes do not count. -/
def create (config : Config) (token : String) (baseUrl : String) : Except ClientError Client :=
  if isHeaderText token then
    let trimmed := (baseUrl.toList.reverse.dropWhile (· = '/')).reverse
    return ⟨String.ofList trimmed, token, config⟩
  else throw .invalidToken

/-- The client that a secret and a config map describe. -/
def ofObjects (secret : Secret) (configMap : ConfigMap) : Except ClientError Client := do
  match configMap.text? configKey with
  | none => throw (.missingConfig configKey)
  | some text =>
    let config ← Config.ofText text
    match secret.text? tokenKey with
    | none => throw (.missingSecretKey tokenKey)
    | some token => create config token publicUrl

/-- A token that cannot stand in a header is left out. -/
def headers (client : Client) : List (String × String) :=
  let authorization :=
    if isHeaderText client.token then [("authorization", "Bearer " ++ client.token)] else []
  authorization ++ [("content-type", "application/json")]

/-- Failures of an exchange are failures of the client. -/
def lift {α : Type} (exchange : ExceptT HttpPhase Http.Exchange α) : Exchanging α :=
  ExceptT.mk (exchange.run >>= fun outcome => return outcome.mapError .http)

/-- Sends a request below the base URL and opens the envelope that comes back. -/
def request {α : Type} (client : Client) (reader : ResultReader α) (method : Http.Method)
    (path : String) (query : List (String × String)) (body : Option Json) :
    Exchanging (α × Option UInt32) := do
  let base ← lift (Http.url (client.baseUrl ++ path))
  let url := query.foldl (fun url parameter => url.withParameter parameter.1 parameter.2) base
  let response ← lift (Http.send ⟨method, url, client.headers, body⟩)
  match Envelope.ofResponse? reader response with
  | none => throw (.http .decode)
  | some envelope => liftM (m := Except ClientError) (envelope.answer response.status)

def zoneId (client : Client) (name : String) : Exchanging String := do
  let (zones, _) ← client.request .zones .get "/zones" [("name", name)] none
  match zones.find? fun zone => zone.name == name with
  | some zone => return zone.id
  | none => throw (.zoneNotFound name)

/-- The A records of a zone, from a page on. The last page is an empty one, or one that is not
below the number of pages it tells; that number fits into 32 bits, so the pages come to an end. -/
def recordsFrom (client : Client) (zone : String) (page : Nat) : Exchanging (List DnsRecord) := do
  let (batch, pages) ← client.request .records .get ("/zones/" ++ zone ++ "/dns_records")
    [("type", managedType), ("page", toString page), ("per_page", toString pageSize)] none
  let managed := batch.filter fun record => record.type == managedType
  if _ : batch.isEmpty ∨ (pages.getD 1).toNat ≤ page then return managed
  else return managed ++ (← client.recordsFrom zone (page + 1))
termination_by UInt32.size - page
decreasing_by
  have bound := (pages.getD 1).toNat_lt_size
  omega

def records (client : Client) (zone : String) : Exchanging (List DnsRecord) :=
  client.recordsFrom zone 1

/-- The content of the first listed record with a configured name. -/
def ipFromZone (client : Client) (zone : ZoneConfig) : Exchanging String := do
  let records ← client.records (← client.zoneId zone.name)
  match records.find? fun record => zone.records.any fun wanted => wanted.name == record.name with
  | some record => return record.content
  | none => throw (.recordNotFound zone.name)

/-- Changes the content of a record, and whether it is proxied. -/
def updateRecord (client : Client) (zone record ip : String) (proxied : Bool) :
    Exchanging Unit := do
  let body := Json.object [("content", .str ip), ("proxied", .bool proxied)]
  let _ ← client.request .anything .patch ("/zones/" ++ zone ++ "/dns_records/" ++ record) []
    (some body)

/-- Changes the listed records with a configured name. -/
def setZoneIp (client : Client) (ip : String) (zone : ZoneConfig) : Exchanging Unit := do
  let id ← client.zoneId zone.name
  let records ← client.records id
  zone.records.forM fun wanted =>
    (records.filter fun record => record.name == wanted.name).forM fun record =>
      client.updateRecord id record.id ip wanted.proxied

/-- The address of the first zone that yields one. -/
def firstIp (client : Client) : List ZoneConfig → Exchanging String
  | [] => throw .noZoneResolved
  | zone :: rest => tryCatch (client.ipFromZone zone) fun _ => client.firstIp rest

def getIp (client : Client) : Exchanging String := client.firstIp client.config.zones

def setIp (client : Client) (ip : String) : Exchanging Unit :=
  client.config.zones.forM (client.setZoneIp ip)

end Client

end DynamicDns.Cloudflare
