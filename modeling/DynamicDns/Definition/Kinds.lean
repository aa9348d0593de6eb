import DynamicDns.Definition.Schema
import DynamicDns.Resource.Provider

/-!
# The definitions of the resource kinds

Each kind is made known to the API server by a definition: how its objects are called, which columns
a listing shows, and the schema of its objects. The explanations are read by users.
-/

namespace DynamicDns

/-- A column of a listing. -/
structure Column where
  name : String
  type : String
  path : String

/-- What a definition says of one kind. -/
structure Definition where
  kind : Kind
  singular : String
  explained : String
  columns : List Column
  spec : Schema.Field
  status : Schema.Field

namespace Definition

open Schema (must may)

/-! ### Shared parts -/

def age : Column := ⟨"Age", "date", ".metadata.creationTimestamp"⟩

def reference : Schema :=
  .record [
    must "name" "Name of the referenced object." .text,
    may "namespace"
      "Namespace of the referenced object. Defaults to the referencing object's namespace."
      (.nullable .text)]

def condition : Schema :=
  .record [
    must "type" "Type of condition: `ConfigMap`, `Secret` or `Client`." .text,
    must "status" "Status of the condition: True, False, or Unknown." .text,
    may "reason" "Brief CamelCase reason for the condition's last transition." (.nullable .text),
    may "message" "Human-readable message indicating details about the transition."
      (.nullable .text),
    may "observedGeneration" "The `metadata.generation` the condition was computed against."
      (.nullable .int64),
    may "lastTransitionTime" "Last time the condition changed (RFC3339 format)." (.nullable .text)]

def conditionExplained : String :=
  String.intercalate "\n" [
    "Condition represents an observation of a resource's current state.",
    "",
    "Conditions are used in status subresources to communicate the state of",
    "a resource to users and controllers. Each resource keeps exactly one",
    "condition per declared type."]

def conditions : Schema.Field :=
  ("conditions", none, .defaulted (.arr []) (.list (some conditionExplained) condition), false)

def withExample (explained sample : List String) : String :=
  String.intercalate "\n" (explained ++ ["", "# Example", "", "```yaml"] ++ sample ++ ["```"])

/-! ### Providers -/

def provider : Definition where
  kind := .provider
  singular := "provider"
  explained := "Provider represents a DNS provider account whose configured A records are kept " ++
    "pointing at the cluster's public IP."
  columns := [⟨"Provider IP", "string", ".status.providerIP"⟩,
    ⟨"Public IP", "string", ".status.publicIP"⟩, age]
  spec := must "spec"
    (withExample
      ["`Provider` keeps the A records of a DNS provider account in sync with the",
        "cluster's public IP."]
      ["apiVersion: ddns.firestoned.io/v1alpha1", "kind: Provider", "metadata:",
        "  name: cloudflare", "  namespace: ddns-system", "spec:", "  name: Cloudflare",
        "  secretName: cloudflare-token", "  configMap: cloudflare-config", "  retryInterval: 300",
        "  notifierRefs:", "    - name: discord"])
    (.record [
      must "name" "Kind of DNS provider. Currently only `Cloudflare` is supported." .text,
      must "secretName"
        "Name of the `Secret` in the same namespace holding the provider credentials." .text,
      must "configMap"
        ("Name of the `ConfigMap` in the same namespace holding the provider configuration\n" ++
          "as a JSON string under the `config` key.") .text,
      may "retryInterval" "Seconds between two reconciliations of this provider."
        (.defaulted (.int ProviderSpec.defaultRetryInterval.toInt) .int64),
      may "customIPProvider"
        "URL returning the public IP as plain text, tried before the built-in providers."
        (.nullable .text),
      may "notifierRefs" "Notifiers told about changes of this provider's IP."
        (.list (some "Reference to a namespaced object by name.") reference)])
  status := may "status" "`Provider` status" (.nullable (.record [
    may "providerIP" "IP currently configured at the DNS provider." .text,
    may "publicIP" "Public IP of the cluster as last discovered." .text,
    may "observedGeneration" "Generation of the spec last reconciled successfully."
      (.nullable .int64),
    conditions]))

/-! ### Notifiers -/

def notifier : Definition where
  kind := .notifier
  singular := "notifier"
  explained := "Notifier represents a notification channel that is told whenever a referencing " ++
    "Provider's IP changes."
  columns := [⟨"Ready", "boolean", ".status.isReady"⟩, age]
  spec := must "spec"
    (withExample
      ["`Notifier` is a notification channel that announces provider IP changes."]
      ["apiVersion: ddns.firestoned.io/v1alpha1", "kind: Notifier", "metadata:", "  name: discord",
        "  namespace: ddns-system", "spec:", "  name: Webhook", "  secretName: discord-webhook",
        "  configMap: discord-config"])
    (.record [
      must "name" "Kind of notifier. Currently only `Webhook` is supported." .text,
      must "secretName"
        "Name of the `Secret` in the same namespace holding the notifier credentials." .text,
      must "configMap"
        "Name of the `ConfigMap` in the same namespace holding the notifier configuration." .text])
  status := may "status" "`Notifier` status" (.nullable (.record [
    may "isReady" "True once a greeting went through; reset when a notification fails."
      (.defaulted (.bool false) .flag),
    ("observedGeneration", none, .nullable .int64, false),
    conditions]))

def ofKind : Kind → Definition
  | .provider => provider
  | .notifier => notifier

/-! ### The object -/

def Column.encode (column : Column) : Json :=
  Json.object [("name", .str column.name), ("type", .str column.type),
    ("jsonPath", .str column.path)]

def schema (definition : Definition) : Json :=
  Json.object ([("title", .str definition.kind.name), ("description", .str definition.explained)] ++
    (Schema.record [definition.spec, definition.status]).members)

def encode (definition : Definition) : Json :=
  let version := Json.object [
    ("name", .str apiVersion), ("served", .bool true), ("storage", .bool true),
    ("additionalPrinterColumns", .arr (definition.columns.map Column.encode)),
    ("schema", Json.object [("openAPIV3Schema", definition.schema)]),
    ("subresources", Json.object [("status", Json.object [])])]
  let names := Json.object [
    ("categories", .arr []), ("kind", .str definition.kind.name),
    ("plural", .str definition.kind.plural), ("shortNames", .arr []),
    ("singular", .str definition.singular)]
  Json.object [
    ("apiVersion", .str "apiextensions.k8s.io/v1"), ("kind", .str "CustomResourceDefinition"),
    ("metadata", Json.object [("name", .str (definition.kind.plural ++ "." ++ apiGroup))]),
    ("spec", Json.object [("group", .str apiGroup), ("scope", .str "Namespaced"),
      ("names", names), ("versions", .arr [version])])]

end Definition

end DynamicDns
