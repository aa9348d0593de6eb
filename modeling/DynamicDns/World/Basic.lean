import DynamicDns.Channel
import DynamicDns.DnsClient
import DynamicDns.Pass.Call
import DynamicDns.World.Cluster

/-!
# A world for passes

A world answers the calls of passes without anything outside: objects in memory, a public address
that is discovered or not, one DNS account, and channels through which everything goes. Clients and
channels are still built from what a secret and a config map say, unless the world builds them
blindly. Faults make chosen calls fail; a call that fails has no effect. Every call to something
other than a clock or a counter is kept in a log, with the time at which it was made.
-/

namespace DynamicDns

/-- What a logged call is about. -/
inductive Act where
  | getProvider
  | listProviders
  | getNotifier
  | patchStatus
  | patchProvider
  | getSecret
  | getConfigMap
  | publicIp
  | createClient
  | createChannel
  | getIp
  | setIp
  | greet
  | notify
  deriving DecidableEq

namespace Call

variable {δ κ : Type}

/-- What a call is about, unless it is to a clock or a counter. -/
def act? : Call δ κ → Option Act
  | .getProvider _ => some .getProvider
  | .listProviders => some .listProviders
  | .getNotifier _ => some .getNotifier
  | .patchStatus _ _ _ => some .patchStatus
  | .patchProvider _ _ => some .patchProvider
  | .getSecret _ => some .getSecret
  | .getConfigMap _ => some .getConfigMap
  | .publicIp _ => some .publicIp
  | .createClient _ _ _ => some .createClient
  | .createChannel _ _ _ => some .createChannel
  | .getIp _ => some .getIp
  | .setIp _ _ => some .setIp
  | .greet _ => some .greet
  | .notify _ _ => some .notify
  | .now | .elapsed | .record _ => none

/-- The reply by which a call fails of a cause, if it is a cause that such a call can fail of. -/
def failing? (cause : Cause) : (call : Call δ κ) → Option call.Reply
  | .getProvider _ => some (.error (.bare cause))
  | .listProviders => some (.error (.bare cause))
  | .getNotifier _ => some (.error (.bare cause))
  | .patchStatus _ _ _ => some (.error (.bare cause))
  | .patchProvider _ _ => some (.error (.bare cause))
  | .getSecret key =>
    match cause with
    | .store message => some (.error (.unavailable "Secret" key.name message))
    | _ => none
  | .getConfigMap key =>
    match cause with
    | .store message => some (.error (.unavailable "ConfigMap" key.name message))
    | _ => none
  | .publicIp _ =>
    match cause with
    | .discovery e => some (.error e)
    | _ => none
  | .createClient _ _ _ | .getIp _ | .setIp _ _ =>
    match cause with
    | .client e => some (.error e)
    | _ => none
  | .createChannel _ _ _ | .greet _ | .notify _ _ =>
    match cause with
    | .channel e => some (.error e)
    | _ => none
  | .now | .elapsed | .record _ => none

end Call

/-- Makes calls fail: those of one act, either all of them or one by its number, from zero. -/
structure Fault where
  act : Act
  number : Option Nat
  cause : Cause

/-- A world. The elapsed time is in nanoseconds, and the acts are those since the faults were set.
The log begins with the latest call. -/
structure World where
  cluster : Cluster
  publicIp : Option String
  dnsIp : String
  buildsBlindly : Bool
  faults : List Fault
  acts : List Act
  log : List (Nat × Call Unit Unit)
  metrics : Metrics.Registry
  clock : String
  elapsed : Nat

namespace World

/-- A world with a cluster, in which nothing has happened yet. -/
def fresh (cluster : Cluster) : World :=
  ⟨cluster, none, "", false, [], [], [], Metrics.Registry.empty, "", 0⟩

def withFaults (world : World) (faults : List Fault) : World := { world with faults, acts := [] }

def fault? (world : World) (act : Act) : Option Fault :=
  world.faults.find? fun fault =>
    fault.act = act && fault.number.all (· = world.acts.count act)

def note (world : World) (act : Act) (call : Call Unit Unit) : World :=
  { world with acts := act :: world.acts, log := (world.elapsed, call) :: world.log }

/-- The logged calls in the order in which they were made. -/
def calls (world : World) : List (Nat × Call Unit Unit) := world.log.reverse

def patch (world : World) (kind : Kind) (key : ObjectKey) (change : Json) :
    Except Failure Unit × World :=
  match world.cluster.patch kind key change with
  | .ok cluster => (.ok (), { world with cluster })
  | .error error => (.error (error.failure kind key), world)

def perform (world : World) : (call : Call Unit Unit) → call.Reply × World
  | .getProvider key => (.ok (world.cluster.providers.get? key), world)
  | .listProviders => (.ok world.cluster.providers.values, world)
  | .getNotifier key => (.ok (world.cluster.notifiers.get? key), world)
  | .patchStatus kind key change => world.patch kind key change
  | .patchProvider key change => world.patch .provider key change
  | .getSecret key => (world.cluster.secret key, world)
  | .getConfigMap key => (world.cluster.configMap key, world)
  | .publicIp _ =>
    match world.publicIp with
    | some ip => (.ok ip, world)
    | none => (.error .exhausted, world)
  | .createClient service secret configMap =>
    if world.buildsBlindly then (.ok (), world)
    else ((DnsClient.create service secret configMap).map fun _ => (), world)
  | .createChannel kind secret configMap =>
    if world.buildsBlindly then (.ok (), world)
    else ((Channel.create kind secret configMap).map fun _ => (), world)
  | .getIp _ => (.ok world.dnsIp, world)
  | .setIp _ ip => (.ok (), { world with dnsIp := ip })
  | .greet _ => (.ok (), world)
  | .notify _ _ => (.ok (), world)
  | .now => (world.clock, world)
  | .elapsed => (world.elapsed, world)
  | .record event => ((), { world with metrics := world.metrics.record event })

def answer (call : Call Unit Unit) (world : World) : call.Reply × World :=
  match call.act? with
  | none => world.perform call
  | some act =>
    let noted := world.note act call
    match (world.fault? act).bind fun fault => call.failing? fault.cause with
    | some reply => (reply, noted)
    | none => noted.perform call

def run {α : Type} (world : World) (program : Calling Unit Unit α) : α × World :=
  program.run answer world

end World

end DynamicDns
