import DynamicDns.Resource.Basic

/-!
# Notifiers

A notifier is a channel that is told when the address of a provider changes. It is ready once a
greeting has gone through.
-/

namespace DynamicDns

structure NotifierSpec where
  name : String
  secretName : String
  configMap : String
  deriving DecidableEq, Inhabited

structure NotifierStatus where
  isReady : Bool
  observedGeneration : Option Int64
  conditions : List Condition
  deriving DecidableEq, Inhabited

namespace NotifierSpec

def encode (spec : NotifierSpec) : Json :=
  Json.object [("name", .str spec.name), ("secretName", .str spec.secretName),
    ("configMap", .str spec.configMap)]

def fields : List String := ["name", "secretName", "configMap"]

def decode? (value : Json) : Option NotifierSpec := do
  let field ← value.record? fields
  return {
    name := ← (field "name").required Json.string?
    secretName := ← (field "secretName").required Json.string?
    configMap := ← (field "configMap").required Json.string? }

instance : Codec NotifierSpec := ⟨encode, decode?⟩

instance : Dependent NotifierSpec := ⟨name, secretName, configMap⟩

end NotifierSpec

namespace NotifierStatus

def initial : NotifierStatus := ⟨false, none, []⟩

def encode (status : NotifierStatus) : Json :=
  Json.object (
    [("isReady", .bool status.isReady)] ++
    Json.member? "observedGeneration" (status.observedGeneration.map Json.ofInt64) ++
    [("conditions", Json.ofItems status.conditions)])

def fields : List String := ["isReady", "observedGeneration", "conditions"]

def decode? (value : Json) : Option NotifierStatus := do
  let field ← value.record? fields
  return {
    isReady := ← (field "isReady").defaulted false Json.bool?
    observedGeneration := ← (field "observedGeneration").optional Json.toInt64?
    conditions := ← (field "conditions").defaulted [] Json.toItems? }

instance : Status NotifierStatus where
  encode := encode
  decode? := decode?
  kind := .notifier
  initial := initial
  conditions := conditions
  withConditions status conditions := { status with conditions }

end NotifierStatus

abbrev Notifier := Resource NotifierSpec NotifierStatus

end DynamicDns
