import DynamicDns.Marker
import DynamicDns.Pass.Dependencies
import DynamicDns.Pass.Outcome

/-!
# The notifier pass

A notifier that is not ready is greeted, and is ready once the greeting went through. A ready one is
told the address of each provider that refers to it and whose address is not the one last announced.
The marker of an announcement is written only after the delivery succeeded, and a delivery that
failed takes the readiness away.
-/

namespace DynamicDns.Pass

variable {δ κ : Type}

def putReady (ready : Bool) : Mutation NotifierStatus := fun status =>
  ({ status with isReady := ready }, status.isReady ≠ ready)

/-- Records the generation that a notifier pass was about. -/
def putNotifierGeneration (generation : Option Int64) : Mutation NotifierStatus := fun status =>
  ({ status with observedGeneration := generation }, status.observedGeneration ≠ generation)

/-- Adds placeholders for the aspects that nothing is known of. -/
def ensureDeclared : Pass δ κ Notifier Unit := do
  let now ← ask .now
  let _ ← patchStatus (onConditions (Condition.ensureTypes now Condition.declaredTypes))

def greet (channel : κ) : Pass δ κ Notifier Unit := do
  let reply ← ask (.greet channel)
  ask (.record (.message Metrics.greetingMessage reply.isOk))
  match reply with
  | .ok () =>
    let established ← stamped Condition.typeClient
      (holds Wording.clientCommunication Wording.communicationsEstablished)
    let _ ← patchStatus (andAlso established (putReady true))
  | .error e =>
    recordCondition Condition.typeClient
      (fails Wording.clientCommunication (Wording.greetingsFailed e.text))
    proceed .channel "unable to send greetings" (.error e)

/-- The address of a provider that is still to be announced to a notifier. -/
def pending? (marker : Marker) (provider : Provider) : Option String :=
  let ip := provider.statusOrInitial.providerIp
  if ip = "" ∨ provider.announcedTo marker = some ip then none else some ip

def announce (channel : κ) (marker : Marker) (provider : Provider) (ip : String) :
    Pass δ κ Notifier Unit := do
  let message := Wording.announcement ip provider.statusOrInitial.publicIp provider.key.name
  let reply ← ask (.notify channel message)
  ask (.record (.message Metrics.changeMessage reply.isOk))
  match reply with
  | .ok () =>
    recordCondition Condition.typeClient
      (holds Wording.clientCommunication Wording.notificationSent)
    match ← ask (.patchProvider provider.key (marker.patch ip)) with
    | .ok () => return ()
    | .error failure =>
      throw (failure.within
        ("failed to record notification marker on Provider " ++ provider.key.path))
  | .error e =>
    let failed ← stamped Condition.typeClient
      (fails Wording.clientCommunication (Wording.notificationFailed e.text))
    let _ ← patchStatus (andAlso (putReady false) failed)
    proceed .channel "unable to send notification" (.error e)

def announceAll (channel : κ) (marker : Marker) : List Provider → Pass δ κ Notifier Unit
  | [] => return ()
  | provider :: rest => do
    match pending? marker provider with
    | some ip => announce channel marker provider ip
    | none => pure ()
    announceAll channel marker rest

/-- The pass over a notifier that was found under a key. -/
def overNotifier (key : ObjectKey) : Pass δ κ Notifier Next := do
  ensureDeclared
  let secret ← fetchSecret
  let configMap ← fetchConfigMap
  let channel ← recordCreation .channel ChannelError.text
    (← ask (.createChannel (← get).spec.name secret configMap))
  if !(← get).statusOrInitial.isReady then
    greet channel
    return .requeue 0
  let marker := Marker.ofNotifier (← get)
  match ← ask .listProviders with
  | .error failure => throw failure
  | .ok providers => announceAll channel marker (providers.filter fun p => p.refersTo key)
  let _ ← patchStatus (putNotifierGeneration (some (← get).generation))
  return .awaitChange

def notifier (key : ObjectKey) : Calling δ κ Outcome := do
  match ← Program.ask (Call.getNotifier key) with
  | .error failure => return .error failure
  | .ok none => return .ok .awaitChange
  | .ok (some notifier) => return (← ((overNotifier key).run.run notifier)).1

end DynamicDns.Pass
