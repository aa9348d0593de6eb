import DynamicDns.Resource.Metadata
import DynamicDns.Text.Base64
import DynamicDns.Text.Utf8

/-!
# Secrets and config maps

The objects that resources depend on. A secret holds octets under `data`, written in base64, and may
hold texts under `stringData`; a config map holds texts. A value of a secret counts only if it is
UTF-8, and `data` hides `stringData` even where it does not; a value of a config map counts only if
it is not empty.
-/

namespace DynamicDns

structure Secret where
  metadata : Metadata
  data : Option (List (String × List UInt8))
  stringData : Option (List (String × String))
  type : Option String
  immutable : Option Bool
  deriving DecidableEq, Inhabited

structure ConfigMap where
  metadata : Metadata
  data : Option (List (String × String))
  binaryData : Option (List (String × List UInt8))
  immutable : Option Bool
  deriving DecidableEq, Inhabited

/-- Octets by key, in base64. -/
def Json.ofOctets (entries : List (String × List UInt8)) : Json :=
  .obj (entries.map fun entry => (entry.1, .str (Base64.encode entry.2)))

def Json.toOctets? (value : Json) : Option (List (String × List UInt8)) :=
  value.dict? fun item => item.string?.bind Base64.decode?

/-- What is said of the kind of an object, if anything, has to be right. -/
def kindFits (field : String → Json.Slot) (kind : String) : Option Unit := do
  let said ← (field "kind").defaulted kind Json.string?
  let version ← (field "apiVersion").defaulted "v1" Json.string?
  if said = kind ∧ version = "v1" then some () else none

namespace Secret

def text? (secret : Secret) (key : String) : Option String :=
  match (secret.data.getD []).lookup key with
  | some octets => Utf8.decode? octets
  | none => (secret.stringData.getD []).lookup key

def encode (secret : Secret) : Json :=
  Json.object (
    [("apiVersion", .str "v1"), ("kind", .str "Secret"),
      ("metadata", Codec.encode secret.metadata)] ++
    Json.member? "data" (secret.data.map Json.ofOctets) ++
    Json.member? "stringData" (secret.stringData.map Json.ofTexts) ++
    Json.member? "type" (secret.type.map Json.str) ++
    Json.member? "immutable" (secret.immutable.map Json.bool))

def decode? (value : Json) : Option Secret := do
  let field ← value.plainRecord?
  kindFits field "Secret"
  return {
    metadata := (← (field "metadata").optional Codec.decode?).getD .empty
    data := ← (field "data").optional Json.toOctets?
    stringData := ← (field "stringData").optional Json.toTexts?
    type := ← (field "type").optional Json.string?
    immutable := ← (field "immutable").optional Json.bool? }

instance : Codec Secret := ⟨encode, decode?⟩

end Secret

namespace ConfigMap

/-- The text under a key, unless it is empty. -/
def text? (configMap : ConfigMap) (key : String) : Option String :=
  ((configMap.data.getD []).lookup key).filter (· ≠ "")

def encode (configMap : ConfigMap) : Json :=
  Json.object (
    [("apiVersion", .str "v1"), ("kind", .str "ConfigMap"),
      ("metadata", Codec.encode configMap.metadata)] ++
    Json.member? "data" (configMap.data.map Json.ofTexts) ++
    Json.member? "binaryData" (configMap.binaryData.map Json.ofOctets) ++
    Json.member? "immutable" (configMap.immutable.map Json.bool))

def decode? (value : Json) : Option ConfigMap := do
  let field ← value.plainRecord?
  kindFits field "ConfigMap"
  return {
    metadata := (← (field "metadata").optional Codec.decode?).getD .empty
    data := ← (field "data").optional Json.toTexts?
    binaryData := ← (field "binaryData").optional Json.toOctets?
    immutable := ← (field "immutable").optional Json.bool? }

instance : Codec ConfigMap := ⟨encode, decode?⟩

end ConfigMap

end DynamicDns
