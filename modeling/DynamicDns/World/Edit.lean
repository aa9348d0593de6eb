import DynamicDns.World.Basic

/-!
# Edits of a world

What others do between the calls of passes: users put, change and delete objects, addresses move,
and faults come and go.
-/

namespace DynamicDns

/-- An edit of a world. -/
inductive Edit where
  | putProvider (provider : Provider)
  | putNotifier (notifier : Notifier)
  | putSecret (secret : Secret)
  | putConfigMap (configMap : ConfigMap)
  | merge (kind : Kind) (key : ObjectKey) (patch : Json)
  | delete (kind : Kind) (key : ObjectKey)
  | deleteSecret (key : ObjectKey)
  | deleteConfigMap (key : ObjectKey)
  | setPublicIp (ip : Option String)
  | setDnsIp (ip : String)
  | setBlind (blind : Bool)
  | setFaults (faults : List Fault)

/-- The key under which an object is put. The stem of a name is not a name. -/
def Metadata.key (metadata : Metadata) : ObjectKey := ⟨metadata.space, metadata.name.getD ""⟩

namespace World

def has (world : World) (kind : Kind) (key : ObjectKey) : Bool :=
  match kind with
  | .provider => (world.cluster.providers.get? key).isSome
  | .notifier => (world.cluster.notifiers.get? key).isSome

def updateCluster (world : World) (change : Cluster → Cluster) : World :=
  { world with cluster := change world.cluster }

/-- Makes an edit. What is patched or deleted has to be there. -/
def edit (world : World) : Edit → Except PatchError World
  | .putProvider provider => return world.updateCluster fun cluster =>
      { cluster with providers := cluster.providers.put provider.metadata.key provider }
  | .putNotifier notifier => return world.updateCluster fun cluster =>
      { cluster with notifiers := cluster.notifiers.put notifier.metadata.key notifier }
  | .putSecret secret => return world.updateCluster fun cluster =>
      { cluster with secrets := cluster.secrets.put secret.metadata.key secret }
  | .putConfigMap configMap => return world.updateCluster fun cluster =>
      { cluster with configMaps := cluster.configMaps.put configMap.metadata.key configMap }
  | .merge kind key patch => do
    return { world with cluster := ← world.cluster.patch kind key patch }
  | .delete kind key => do
    if !world.has kind key then throw .missing
    return world.updateCluster fun cluster =>
      match kind with
      | .provider => { cluster with providers := cluster.providers.remove key }
      | .notifier => { cluster with notifiers := cluster.notifiers.remove key }
  | .deleteSecret key => do
    if (world.cluster.secrets.get? key).isNone then throw .missing
    return world.updateCluster fun cluster =>
      { cluster with secrets := cluster.secrets.remove key }
  | .deleteConfigMap key => do
    if (world.cluster.configMaps.get? key).isNone then throw .missing
    return world.updateCluster fun cluster =>
      { cluster with configMaps := cluster.configMaps.remove key }
  | .setPublicIp ip => return { world with publicIp := ip }
  | .setDnsIp ip => return { world with dnsIp := ip }
  | .setBlind blind => return { world with buildsBlindly := blind }
  | .setFaults faults => return world.withFaults faults

end World

end DynamicDns
