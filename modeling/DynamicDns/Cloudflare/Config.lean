import DynamicDns.Failure
import DynamicDns.Json.Codec
import DynamicDns.Json.Shape

/-!
# The configuration of a Cloudflare account

Which zones are managed, and which records in each. It comes as JSON text in a config map; a text
that is not such a configuration is refused with the first thing that is wrong with it.
-/

namespace DynamicDns.Cloudflare

/-- A record that is managed, by its full name. -/
structure RecordConfig where
  name : String
  proxied : Bool
  deriving DecidableEq, Inhabited

structure ZoneConfig where
  name : String
  records : List RecordConfig
  deriving DecidableEq, Inhabited

/-- The zones that are managed, in the order in which they are tried. -/
structure Config where
  zones : List ZoneConfig
  deriving DecidableEq, Inhabited

namespace RecordConfig

def encode (record : RecordConfig) : Json :=
  Json.object [("name", .str record.name), ("proxied", .bool record.proxied)]

def decode? (value : Json) : Option RecordConfig := do
  let field ← value.record? ["name", "proxied"]
  return {
    name := ← (field "name").required Json.string?
    proxied := ← (field "proxied").defaulted false Json.bool? }

instance : Codec RecordConfig := ⟨encode, decode?⟩

def shape : Json.Shape :=
  .record "RecordConfig" [("name", .required, .text), ("proxied", .defaulted, .flag)]

end RecordConfig

namespace ZoneConfig

def encode (zone : ZoneConfig) : Json :=
  Json.object [("name", .str zone.name), ("records", Json.ofItems zone.records)]

def decode? (value : Json) : Option ZoneConfig := do
  let field ← value.record? ["name", "records"]
  return {
    name := ← (field "name").required Json.string?
    records := ← (field "records").defaulted [] Json.toItems? }

instance : Codec ZoneConfig := ⟨encode, decode?⟩

def shape : Json.Shape :=
  .record "ZoneConfig"
    [("name", .required, .text), ("records", .defaulted, .list RecordConfig.shape)]

end ZoneConfig

namespace Config

def decodeSettings? (value : Json) : Option Config := do
  let field ← value.record? ["zones"]
  return { zones := ← (field "zones").defaulted [] Json.toItems? }

def encode (config : Config) : Json :=
  Json.object [("cloudflare", Json.object [("zones", Json.ofItems config.zones)])]

def decode? (value : Json) : Option Config := do
  let field ← value.record? ["cloudflare"]
  (field "cloudflare").required decodeSettings?

instance : Codec Config := ⟨encode, decode?⟩

def shape : Json.Shape :=
  .record "CloudflareConfig" [("cloudflare", .required,
    .record "CloudflareSettings" [("zones", .defaulted, .list ZoneConfig.shape)])]

def ofText (text : String) : Except ClientError Config :=
  let octets := Utf8.encode text
  match shape.read octets with
  | .error fault => throw (.invalidConfig (fault.text octets))
  | .ok value =>
    match decode? value with
    | some config => return config
    | none => throw (.invalidConfig (Json.Fault.text octets ⟨.wrongValue, octets.length⟩))

end Config

end DynamicDns.Cloudflare
