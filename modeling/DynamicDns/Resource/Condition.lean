import DynamicDns.Json.Codec

/-!
# Conditions

A condition is what was last observed about one aspect of a resource: whether it holds, why, and
since when. Type and status are always written, the rest as far as it is known.
-/

namespace DynamicDns

/-- An observation about one aspect of a resource. -/
structure Condition where
  type : String
  status : String
  reason : Option String
  message : Option String
  observedGeneration : Option Int64
  lastTransitionTime : Option String
  deriving DecidableEq, Inhabited

namespace Condition

/-- The aspects that both kinds of resource report on. -/
def typeConfigMap : String := "ConfigMap"

def typeSecret : String := "Secret"

def typeClient : String := "Client"

def statusTrue : String := "True"

def statusFalse : String := "False"

def statusUnknown : String := "Unknown"

/-- The aspects that every resource reports on, in the order in which they are listed. -/
def declaredTypes : List String := [typeConfigMap, typeSecret, typeClient]

def encode (condition : Condition) : Json :=
  Json.object (
    [("type", .str condition.type), ("status", .str condition.status)] ++
    Json.member? "reason" (condition.reason.map Json.str) ++
    Json.member? "message" (condition.message.map Json.str) ++
    Json.member? "observedGeneration" (condition.observedGeneration.map Json.ofInt64) ++
    Json.member? "lastTransitionTime" (condition.lastTransitionTime.map Json.str))

def fields : List String :=
  ["type", "status", "reason", "message", "observedGeneration", "lastTransitionTime"]

def decode? (value : Json) : Option Condition := do
  let field ← value.record? fields
  return {
    type := ← (field "type").required Json.string?
    status := ← (field "status").required Json.string?
    reason := ← (field "reason").optional Json.string?
    message := ← (field "message").optional Json.string?
    observedGeneration := ← (field "observedGeneration").optional Json.toInt64?
    lastTransitionTime := ← (field "lastTransitionTime").optional Json.string? }

instance : Codec Condition := ⟨encode, decode?⟩

end Condition

end DynamicDns
