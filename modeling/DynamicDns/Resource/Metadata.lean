import DynamicDns.Json.Codec

/-!
# Object metadata

The part of every object that the API server keeps: how the object is called, which generation its
specification has reached, and the annotations and labels put on it. Any of it may be absent, and
what is absent is not written.
-/

namespace DynamicDns

/-- The metadata of an object. -/
structure Metadata where
  name : Option String
  ns : Option String
  generateName : Option String
  generation : Option Int64
  annotations : Option (List (String × String))
  labels : Option (List (String × String))
  resourceVersion : Option String
  uid : Option String
  deriving DecidableEq, Inhabited

namespace Metadata

def empty : Metadata := ⟨none, none, none, none, none, none, none, none⟩

/-- The name of the object, or the stem of a name still to be generated. -/
def displayName (metadata : Metadata) : String :=
  (metadata.name.or metadata.generateName).getD ""

/-- The namespace, empty for an object without one. -/
def space (metadata : Metadata) : String := metadata.ns.getD ""

/-- The generation of the specification, zero when unset. -/
def currentGeneration (metadata : Metadata) : Int64 := metadata.generation.getD 0

/-- The annotations, in key order. -/
def annotationList (metadata : Metadata) : List (String × String) := metadata.annotations.getD []

def encode (metadata : Metadata) : Json :=
  Json.object (
    Json.member? "annotations" (metadata.annotations.map Json.ofTexts) ++
    Json.member? "generateName" (metadata.generateName.map Json.str) ++
    Json.member? "generation" (metadata.generation.map Json.ofInt64) ++
    Json.member? "labels" (metadata.labels.map Json.ofTexts) ++
    Json.member? "name" (metadata.name.map Json.str) ++
    Json.member? "namespace" (metadata.ns.map Json.str) ++
    Json.member? "resourceVersion" (metadata.resourceVersion.map Json.str) ++
    Json.member? "uid" (metadata.uid.map Json.str))

def decode? (value : Json) : Option Metadata := do
  let field ← value.plainRecord?
  return {
    name := ← (field "name").optional Json.string?
    ns := ← (field "namespace").optional Json.string?
    generateName := ← (field "generateName").optional Json.string?
    generation := ← (field "generation").optional Json.toInt64?
    annotations := ← (field "annotations").optional Json.toTexts?
    labels := ← (field "labels").optional Json.toTexts?
    resourceVersion := ← (field "resourceVersion").optional Json.string?
    uid := ← (field "uid").optional Json.string? }

instance : Codec Metadata := ⟨encode, decode?⟩

end Metadata

end DynamicDns
