import DynamicDns.Resource.Basic

/-!
# Providers

A provider is an account at a DNS service whose A records are to follow the public IP of the
cluster. Its status holds the two addresses last seen, empty until then; empty addresses and an
empty list of notifiers are not written.
-/

namespace DynamicDns

structure ProviderSpec where
  name : String
  secretName : String
  configMap : String
  retryInterval : Int64
  customIpProvider : Option String
  notifierRefs : List Reference
  deriving DecidableEq, Inhabited

structure ProviderStatus where
  providerIp : String
  publicIp : String
  observedGeneration : Option Int64
  conditions : List Condition
  deriving DecidableEq, Inhabited

/-- A text that is written unless it is empty. -/
def nonEmptyText? (text : String) : Option Json := if text = "" then none else some (.str text)

namespace ProviderSpec

/-- The interval between two passes when none is set: fifteen minutes. -/
def defaultRetryInterval : Int64 := 900

/-- The seconds between two passes; an interval that is not positive means the default. -/
def retrySeconds (spec : ProviderSpec) : Nat :=
  if 0 < spec.retryInterval then spec.retryInterval.toInt.toNat
  else defaultRetryInterval.toInt.toNat

def encode (spec : ProviderSpec) : Json :=
  Json.object (
    [("name", .str spec.name), ("secretName", .str spec.secretName),
      ("configMap", .str spec.configMap), ("retryInterval", Json.ofInt64 spec.retryInterval)] ++
    Json.member? "customIPProvider" (spec.customIpProvider.map Json.str) ++
    Json.member? "notifierRefs"
      (if spec.notifierRefs.isEmpty then none else some (Json.ofItems spec.notifierRefs)))

def fields : List String :=
  ["name", "secretName", "configMap", "retryInterval", "customIPProvider", "notifierRefs"]

def decode? (value : Json) : Option ProviderSpec := do
  let field ← value.record? fields
  return {
    name := ← (field "name").required Json.string?
    secretName := ← (field "secretName").required Json.string?
    configMap := ← (field "configMap").required Json.string?
    retryInterval := ← (field "retryInterval").defaulted defaultRetryInterval Json.toInt64?
    customIpProvider := ← (field "customIPProvider").optionalDefaulted Json.string?
    notifierRefs := ← (field "notifierRefs").defaulted [] Json.toItems? }

instance : Codec ProviderSpec := ⟨encode, decode?⟩

instance : Dependent ProviderSpec := ⟨name, secretName, configMap⟩

end ProviderSpec

namespace ProviderStatus

def initial : ProviderStatus := ⟨"", "", none, []⟩

def encode (status : ProviderStatus) : Json :=
  Json.object (
    Json.member? "providerIP" (nonEmptyText? status.providerIp) ++
    Json.member? "publicIP" (nonEmptyText? status.publicIp) ++
    Json.member? "observedGeneration" (status.observedGeneration.map Json.ofInt64) ++
    [("conditions", Json.ofItems status.conditions)])

def fields : List String := ["providerIP", "publicIP", "observedGeneration", "conditions"]

def decode? (value : Json) : Option ProviderStatus := do
  let field ← value.record? fields
  return {
    providerIp := ← (field "providerIP").defaulted "" Json.string?
    publicIp := ← (field "publicIP").defaulted "" Json.string?
    observedGeneration := ← (field "observedGeneration").optional Json.toInt64?
    conditions := ← (field "conditions").defaulted [] Json.toItems? }

instance : Status ProviderStatus where
  encode := encode
  decode? := decode?
  kind := .provider
  initial := initial
  conditions := conditions
  withConditions status conditions := { status with conditions }

end ProviderStatus

abbrev Provider := Resource ProviderSpec ProviderStatus

namespace Provider

/-- The notifiers that a provider refers to, in the order of its references. -/
def notifiers (provider : Provider) : List ObjectKey :=
  provider.spec.notifierRefs.map (·.target provider.metadata.space)

def refersTo (provider : Provider) (notifier : ObjectKey) : Bool :=
  provider.spec.notifierRefs.any fun reference =>
    reference.name == notifier.name && reference.nsOr provider.metadata.space == notifier.ns

end Provider

end DynamicDns
