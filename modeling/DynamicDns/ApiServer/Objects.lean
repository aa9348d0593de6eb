import DynamicDns.Json.Shape
import DynamicDns.Resource.DataObject
import DynamicDns.Resource.Notifier
import DynamicDns.Resource.Provider

/-!
# Objects on the wire

How the API server writes the objects that the operator reads. A type that is read from the server
has a shape beside its codec: the shape is what the text is held against, and the codec makes the
value. A field of a record may be given only once, except in metadata and in the server's own
objects.
-/

namespace DynamicDns

open Json (Shape)

/-- A type that is read from the API server. -/
class Wired (α : Type) extends Codec α where
  shape : Shape

namespace Shape

/-- An integer of 64 bits with sign. -/
def int64 : Shape := .integer Int64.minValue.toInt Int64.maxValue.toInt

def texts : Shape := .dict .text

def metadata : Shape :=
  .plainRecord false [
    ("name", .optional, .nullable .text), ("namespace", .optional, .nullable .text),
    ("generateName", .optional, .nullable .text), ("generation", .optional, .nullable int64),
    ("annotations", .optional, .nullable texts), ("labels", .optional, .nullable texts),
    ("resourceVersion", .optional, .nullable .text), ("uid", .optional, .nullable .text)]

def condition : Shape :=
  .record "Condition" [("type", .required, .text), ("status", .required, .text),
    ("reason", .optional, .nullable .text), ("message", .optional, .nullable .text),
    ("observedGeneration", .optional, .nullable int64),
    ("lastTransitionTime", .optional, .nullable .text)]

def reference : Shape :=
  .record "ResourceRef" [("name", .required, .text), ("namespace", .defaulted, .nullable .text)]

def providerSpec : Shape :=
  .record "ProviderSpec" [("name", .required, .text), ("secretName", .required, .text),
    ("configMap", .required, .text), ("retryInterval", .defaulted, int64),
    ("customIPProvider", .defaulted, .nullable .text),
    ("notifierRefs", .defaulted, .list reference)]

def providerStatus : Shape :=
  .record "ProviderStatus" [("providerIP", .defaulted, .text), ("publicIP", .defaulted, .text),
    ("observedGeneration", .optional, .nullable int64), ("conditions", .defaulted, .list condition)]

def notifierSpec : Shape :=
  .record "NotifierSpec" [("name", .required, .text), ("secretName", .required, .text),
    ("configMap", .required, .text)]

def notifierStatus : Shape :=
  .record "NotifierStatus" [("isReady", .defaulted, .flag),
    ("observedGeneration", .optional, .nullable int64), ("conditions", .defaulted, .list condition)]

/-- A resource with a specification and a status of the given shapes. -/
def resource (spec status : Shape) : Shape :=
  .plainRecord true [("metadata", .required, metadata), ("spec", .required, spec),
    ("status", .optional, .nullable status)]

def builtIn (fields : List (String × Json.Presence × Shape)) : Shape :=
  .plainRecord false ([("apiVersion", .optional, .text), ("kind", .optional, .text),
    ("metadata", .optional, .nullable metadata)] ++ fields)

end Shape

instance : Wired Provider where
  shape := Shape.resource Shape.providerSpec Shape.providerStatus

instance : Wired Notifier where
  shape := Shape.resource Shape.notifierSpec Shape.notifierStatus

instance : Wired Secret where
  shape := Shape.builtIn [("data", .optional, .nullable Shape.texts),
    ("stringData", .optional, .nullable Shape.texts), ("type", .optional, .nullable .text),
    ("immutable", .optional, .nullable .flag)]

instance : Wired ConfigMap where
  shape := Shape.builtIn [("data", .optional, .nullable Shape.texts),
    ("binaryData", .optional, .nullable Shape.texts), ("immutable", .optional, .nullable .flag)]

/-- A list of objects. -/
structure ObjectList (α : Type) where
  items : List α

namespace ObjectList

variable {α : Type}

/-- Without items a list is no list, but they may be null. -/
def decode? [Codec α] (value : Json) : Option (ObjectList α) := do
  let field ← value.plainRecord?
  return { items := (← (field "items").required fun items =>
    match items with
    | .null => some []
    | _ => items.toItems?) }

def encode [Codec α] (list : ObjectList α) : Json :=
  Json.object [("apiVersion", .str "v1"), ("kind", .str "List"), ("metadata", Json.object []),
    ("items", Json.ofItems list.items)]

instance [Wired α] : Wired (ObjectList α) where
  encode := encode
  decode? := decode?
  shape := .plainRecord true [("metadata", .defaulted, .plainRecord false []),
    ("items", .required, .nullable (.list (Wired.shape α)))]

end ObjectList

/-- What the server says of a request that it refused. Whatever it does not say is zero or empty. -/
structure Refusal where
  code : Nat
  reason : String
  message : String

namespace Refusal

def shape : Shape :=
  .record "Status" [("status", .defaulted, .nullable .text), ("code", .defaulted, .integer 0 65535),
    ("message", .defaulted, .text), ("metadata", .defaulted, .nullable (.plainRecord false [])),
    ("reason", .defaulted, .text),
    ("details", .defaulted, .nullable (.record "StatusDetails" [("name", .defaulted, .text),
      ("group", .defaulted, .text), ("kind", .defaulted, .text), ("uid", .defaulted, .text),
      ("causes", .defaulted, .list (.record "StatusCause" [("reason", .defaulted, .text),
        ("message", .defaulted, .text), ("field", .defaulted, .text)])),
      ("retryAfterSeconds", .defaulted, .integer 0 (UInt32.size - 1))]))]

def decode? (value : Json) : Option Refusal := do
  let field ← value.plainRecord?
  let outcome ← (field "status").optionalDefaulted Json.string?
  if outcome.any fun text => text ≠ "Success" && text ≠ "Failure" then none
  else return {
    code := ← (field "code").defaulted 0 fun code => (code.intWithin? 0 65535).map Int.toNat
    reason := ← (field "reason").defaulted "" Json.string?
    message := ← (field "message").defaulted "" Json.string? }

end Refusal

end DynamicDns
