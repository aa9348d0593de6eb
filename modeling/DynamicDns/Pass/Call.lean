import DynamicDns.Failure
import DynamicDns.Metrics.Registry
import DynamicDns.Program
import DynamicDns.Resource.DataObject
import DynamicDns.Resource.Notifier
import DynamicDns.Resource.Provider

/-!
# The calls of a pass

A pass looks at one resource and acts on what it finds. All that it can do is listed here: read and
patch the objects of the cluster, discover the public address, build a DNS client or a notification
channel and use it, read the clocks, and count. Clients and channels are handed out by whoever
answers, and a pass only hands them back, so their types are parameters.

A pass holds in memory the resource that it is about. When a call fails the pass ends with that
failure, and what it holds in memory stays as it was at that moment.
-/

namespace DynamicDns

/-- A call that a pass makes, for DNS clients in `δ` and channels in `κ`. -/
inductive Call (δ κ : Type) where
  | getProvider (key : ObjectKey)
  | listProviders
  | getNotifier (key : ObjectKey)
  | patchStatus (kind : Kind) (key : ObjectKey) (patch : Json)
  | patchProvider (key : ObjectKey) (patch : Json)
  | getSecret (key : ObjectKey)
  | getConfigMap (key : ObjectKey)
  | publicIp (preferred : Option String)
  | createClient (service : String) (secret : Secret) (configMap : ConfigMap)
  | createChannel (kind : String) (secret : Secret) (configMap : ConfigMap)
  | getIp (client : δ)
  | setIp (client : δ) (ip : String)
  | greet (channel : κ)
  | notify (channel : κ) (message : String)
  | now
  | elapsed
  | record (event : Metrics.Event)

/-- What answers a call. An object that is not there is no failure of reading a resource, but one of
looking up a secret or a config map. The elapsed time is in nanoseconds. -/
abbrev Call.Reply {δ κ : Type} : Call δ κ → Type
  | .getProvider _ => Except Failure (Option Provider)
  | .listProviders => Except Failure (List Provider)
  | .getNotifier _ => Except Failure (Option Notifier)
  | .patchStatus _ _ _ => Except Failure Unit
  | .patchProvider _ _ => Except Failure Unit
  | .getSecret _ => Except LookupError Secret
  | .getConfigMap _ => Except LookupError ConfigMap
  | .publicIp _ => Except DiscoveryError String
  | .createClient _ _ _ => Except ClientError δ
  | .createChannel _ _ _ => Except ChannelError κ
  | .getIp _ => Except ClientError String
  | .setIp _ _ => Except ClientError Unit
  | .greet _ => Except ChannelError Unit
  | .notify _ _ => Except ChannelError Unit
  | .now => String
  | .elapsed => Nat
  | .record _ => Unit

abbrev Calling (δ κ : Type) := Program (Call δ κ) Call.Reply

/-- A part of a pass that holds a resource in memory. -/
abbrev Pass (δ κ ρ : Type) := ExceptT Failure (StateT ρ (Calling δ κ))

namespace Pass

variable {δ κ ρ α : Type}

def ask (call : Call δ κ) : Pass δ κ ρ call.Reply :=
  ExceptT.lift (StateT.lift (Program.ask call))

/-- Goes on with the value of a reply, or ends with its failure as seen from what was being done. -/
def proceed {ε : Type} (cause : ε → Cause) (doing : String) : Except ε α → Pass δ κ ρ α
  | .ok value => return value
  | .error e => throw ((Failure.bare (cause e)).within doing)

end Pass

end DynamicDns
