import DynamicDns.Resource.Condition
import DynamicDns.Resource.Metadata
import DynamicDns.Resource.Reference

/-!
# Resources

A resource is metadata, a specification that users write and a status that the operator writes. Two
kinds of resource exist; both name in their specification a `Secret` and a `ConfigMap` of their own
namespace, and both keep a list of conditions in their status.
-/

namespace DynamicDns

/-- The group of the resource kinds, and the version of their schema. -/
def apiGroup : String := "ddns.firestoned.io"

def apiVersion : String := "v1alpha1"

def apiGroupVersion : String := apiGroup ++ "/" ++ apiVersion

/-- The kinds of resource. -/
inductive Kind where
  | provider
  | notifier
  deriving DecidableEq, Inhabited, Repr

def Kind.name : Kind → String
  | .provider => "Provider"
  | .notifier => "Notifier"

def Kind.plural : Kind → String
  | .provider => "providers"
  | .notifier => "notifiers"

/-- The part of a path that names a namespace; none means all of them. -/
def namespacePath : Option String → String
  | some ns => "namespaces/" ++ ns ++ "/"
  | none => ""

/-- The path of a kind's collection, in one namespace or in all. -/
def Kind.path (kind : Kind) (scope : Option String) : String :=
  "/apis/" ++ apiGroupVersion ++ "/" ++ namespacePath scope ++ kind.plural

/-- An object of a resource kind. -/
structure Resource (σ τ : Type) where
  metadata : Metadata
  spec : σ
  status : Option τ

/-- A specification that names what the resource depends on. -/
class Dependent (σ : Type) where
  clientName : σ → String
  secretName : σ → String
  configMapName : σ → String

/-- The status of a kind. An absent status counts as the initial one. -/
class Status (τ : Type) extends Codec τ where
  kind (τ) : Kind
  initial : τ
  conditions : τ → List Condition
  withConditions : τ → List Condition → τ

namespace Resource

variable {σ τ : Type}

def key (resource : Resource σ τ) : ObjectKey :=
  ⟨resource.metadata.space, resource.metadata.displayName⟩

/-- The generation of the specification, zero when unset. -/
def generation (resource : Resource σ τ) : Int64 := resource.metadata.currentGeneration

/-- The status held in memory, the initial one if there is none. -/
def statusOrInitial [Status τ] (resource : Resource σ τ) : τ := resource.status.getD Status.initial

def encode [Codec σ] [Status τ] (resource : Resource σ τ) : Json :=
  Json.object (
    [("apiVersion", .str apiGroupVersion), ("kind", .str (Status.kind τ).name),
      ("metadata", Codec.encode resource.metadata), ("spec", Codec.encode resource.spec)] ++
    Json.member? "status" (resource.status.map Codec.encode))

/-- What is read of the kind and version of an object is not looked at. -/
def decode? [Codec σ] [Status τ] (value : Json) : Option (Resource σ τ) := do
  let field ← value.plainRecord?
  return {
    metadata := ← (field "metadata").required Codec.decode?
    spec := ← (field "spec").required Codec.decode?
    status := ← (field "status").optional Codec.decode? }

instance [Codec σ] [Status τ] : Codec (Resource σ τ) := ⟨encode, decode?⟩

end Resource

end DynamicDns
