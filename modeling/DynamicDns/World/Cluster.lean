import DynamicDns.Failure
import DynamicDns.Json.MergePatch
import DynamicDns.Resource.DataObject
import DynamicDns.Resource.Notifier
import DynamicDns.Resource.Provider
import DynamicDns.World.Shelf

/-!
# A cluster in memory

Providers, notifiers, secrets and config maps by key. Objects are patched with merge patches of
their JSON form; a patch of an object that is not there, or that leaves no object of its kind,
changes nothing.
-/

namespace DynamicDns

structure Cluster where
  providers : Shelf Provider
  notifiers : Shelf Notifier
  secrets : Shelf Secret
  configMaps : Shelf ConfigMap

/-- Why an object could not be patched. -/
inductive PatchError where
  | missing
  | malformed
  deriving DecidableEq

/-- What a refused patch of an object looks like to whoever sent it. -/
def PatchError.failure (kind : Kind) (key : ObjectKey) (error : PatchError) : Failure :=
  let object := kind.plural ++ " \"" ++ key.name ++ "\""
  Failure.bare (.store (match error with
    | .missing => object ++ " not found"
    | .malformed => object ++ " is invalid"))

/-- An object with a merge patch applied, if it is still an object of its kind. -/
def patched? {α : Type} [Codec α] (object : α) (patch : Json) : Option α :=
  Codec.decode? ((Codec.encode object).applyPatch patch)

def Shelf.patch {α : Type} [Codec α] (shelf : Shelf α) (key : ObjectKey) (change : Json) :
    Except PatchError (Shelf α) :=
  match shelf.get? key with
  | none => throw .missing
  | some object =>
    match patched? object change with
    | none => throw .malformed
    | some changed => return shelf.put key changed

namespace Cluster

def patch (cluster : Cluster) (kind : Kind) (key : ObjectKey) (change : Json) :
    Except PatchError Cluster :=
  match kind with
  | .provider =>
    (cluster.providers.patch key change).map fun providers => { cluster with providers }
  | .notifier =>
    (cluster.notifiers.patch key change).map fun notifiers => { cluster with notifiers }

def secret (cluster : Cluster) (key : ObjectKey) : Except LookupError Secret :=
  match cluster.secrets.get? key with
  | some secret => return secret
  | none => throw (.notFound "Secret" key.name)

def configMap (cluster : Cluster) (key : ObjectKey) : Except LookupError ConfigMap :=
  match cluster.configMaps.get? key with
  | some configMap => return configMap
  | none => throw (.notFound "ConfigMap" key.name)

end Cluster

end DynamicDns
